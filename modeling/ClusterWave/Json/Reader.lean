import ClusterWave.Json.Token

/-!
# Reading JSON documents

The tokens of a document pass one by one through `Reader`. It keeps the containers that are still
open on a stack, so documents may be nested to any depth.
-/

namespace ClusterWave

namespace Json

/-- An open container that waits for a value, its parts last one first. -/
inductive Frame where
  | array (items : List Json)
  | object (members : List (List Char × Json)) (name : List Char)

/-- What may come next. The innermost container is part of it while no value is awaited. -/
inductive Mode where
  /-- A value. -/
  | value
  /-- The first item of an array, or its end. -/
  | firstItem
  /-- A comma or the end of an array. -/
  | afterItem (items : List Json)
  /-- The first name of an object, or its end. -/
  | firstName
  /-- A further name of an object. -/
  | nextName (members : List (List Char × Json))
  /-- The colon after a name. -/
  | colon (members : List (List Char × Json)) (name : List Char)
  /-- A comma or the end of an object. -/
  | afterMember (members : List (List Char × Json))
  /-- Nothing: the document is complete. -/
  | complete (value : Json)

structure Reader where
  stack : List Frame
  mode : Mode

namespace Reader

/-- Hand a finished value to the innermost open container. -/
def deliver (v : Json) : List Frame → Reader
  | [] => ⟨[], .complete v⟩
  | .array items :: stack => ⟨stack, .afterItem (v :: items)⟩
  | .object members name :: stack => ⟨stack, .afterMember ((name, v) :: members)⟩

/-- Begin a value, or hand it over at once. -/
def begin? (stack : List Frame) : Token → Option Reader
  | .scalar v => some (deliver v stack)
  | .text raw => some (deliver (.text raw) stack)
  | .leftBrace => some ⟨stack, .firstName⟩
  | .leftBracket => some ⟨stack, .firstItem⟩
  | _ => none

/-- Take in one token. -/
def step? (r : Reader) (t : Token) : Option Reader :=
  match r.mode, t with
  | .value, t => begin? r.stack t
  | .firstItem, .rightBracket => some (deliver (.array []) r.stack)
  | .firstItem, t => begin? (.array [] :: r.stack) t
  | .afterItem items, .comma => some ⟨.array items :: r.stack, .value⟩
  | .afterItem items, .rightBracket => some (deliver (.array items.reverse) r.stack)
  | .firstName, .rightBrace => some (deliver (.object []) r.stack)
  | .firstName, .text name => some ⟨r.stack, .colon [] name⟩
  | .nextName members, .text name => some ⟨r.stack, .colon members name⟩
  | .colon members name, .colon => some ⟨.object members name :: r.stack, .value⟩
  | .afterMember members, .comma => some ⟨r.stack, .nextName members⟩
  | .afterMember members, .rightBrace => some (deliver (.object members.reverse) r.stack)
  | _, _ => none

end Reader

/-- Read a document that holds one value. -/
def parse? (s : String) : Option Json := do
  let tokens ← Token.scan? s.toList
  let r ← tokens.foldlM Reader.step? ⟨[], .value⟩
  match r.mode with
  | .complete v => some v
  | _ => none

end Json

end ClusterWave
