import ClusterWave.Json.Value

/-!
# Taking JSON values apart

A structure is written as an object, or as an array of its fields in order. In an object unknown
names are skipped, and a field must not be given twice; an array holds no more items than there are
fields. A field without a default may only be missing from an object, and only if it is optional.

A choice is written as its name, or as an object with the name as its only member.

A tagged structure names its kind by one of its own members, which may come last. It is therefore
held back as a whole, and all of it has to make sense: texts, numbers and nesting.
-/

namespace ClusterWave

namespace Json

/-! ### Scalars -/

/-- The number of nested containers that are allowed. -/
def nestingLimit : Nat := 127

/-- A count of at most 64 bits. -/
def uint64? : Json → Option UInt64
  | .number (.whole n) => if 0 ≤ n then some (UInt64.ofNat n.toNat) else none
  | _ => none

/-- A count of at most 32 bits. -/
def uint32? (j : Json) : Option UInt32 :=
  j.uint64?.bind fun n => if n < 0x100000000 then some n.toUInt32 else none

/-- A finite number, with or without a fraction. -/
def real? : Json → Option Binary64
  | .number (.whole n) => some (Binary64.ofInt n)
  | .number (.real x) => some x
  | _ => none

def bool? : Json → Option Bool
  | .bool b => some b
  | _ => none

def string? : Json → Option String
  | .text raw => unescape? raw
  | _ => none

/-- A value, or none for `null`. -/
def nullable? {α : Type} (read : Json → Option α) : Json → Option (Option α)
  | .null => some none
  | j => (read j).map some

def list? {α : Type} (read : Json → Option α) : Json → Option (List α)
  | .array items => items.mapM read
  | _ => none

/-! ### Structures -/

/-- The fields of a structure that are present. -/
structure Fields where
  /-- Whether the fields were given by name. -/
  named : Bool
  present : List (String × Json)

/-- The members of an object with their names resolved. -/
def resolveNames (members : List (List Char × Json)) : Option (List (String × Json)) :=
  members.mapM fun (raw, v) => (unescape? raw).map fun name => (name, v)

/-- Whether no name occurs twice. -/
def distinctNames : List (String × Json) → Bool
  | [] => true
  | (name, _) :: rest => !rest.any (·.1 == name) && distinctNames rest

/-- The fields of a structure with the given field names, in order. -/
def fields? (names : List String) : Json → Option Fields
  | .array items => if items.length ≤ names.length then some ⟨false, names.zip items⟩ else none
  | .object members => do
    let known := (← resolveNames members).filter fun (name, _) => names.contains name
    if distinctNames known then some ⟨true, known⟩ else none
  | _ => none

namespace Fields

def get? (f : Fields) (name : String) : Option Json := f.present.lookup name

/-- A field that has to be present. -/
def required {α : Type} (f : Fields) (name : String) (read : Json → Option α) : Option α :=
  (f.get? name).bind read

/-- A field that may be `null`, or missing from an object. -/
def optional {α : Type} (f : Fields) (name : String) (read : Json → Option α) :
    Option (Option α) :=
  match f.get? name with
  | some v => nullable? read v
  | none => if f.named then some none else none

/-- A field with a default. -/
def withDefault {α : Type} (f : Fields) (name : String) (read : Json → Option α) (default : α) :
    Option α :=
  match f.get? name with
  | some v => read v
  | none => some default

end Fields

/-! ### Choices -/

/-- A choice with its content: a name alone has none. -/
def choice? : Json → Option (String × Option Json)
  | .text raw => (unescape? raw).map fun name => (name, none)
  | .object [(raw, v)] => (unescape? raw).map fun name => (name, some v)
  | _ => none

/-- A choice without content. Inside a tagged structure an empty object counts as none. -/
def plainChoice? (tagged : Bool) (j : Json) : Option String := do
  let (name, content) ← j.choice?
  match content with
  | none => some name
  | some .null => some name
  | some (.object []) => if tagged then some name else none
  | some _ => none

/-! ### Tagged structures -/

mutual

/-- Whether a value makes sense throughout and nests at most `room` containers. -/
def isSound (room : Nat) : Json → Bool
  | .number .excessive => false
  | .text raw => (unescape? raw).isSome
  | .array items => room != 0 && areSound (room - 1) items
  | .object members => room != 0 && membersSound (room - 1) members
  | _ => true

def areSound (room : Nat) : List Json → Bool
  | [] => true
  | item :: rest => item.isSound room && areSound room rest

def membersSound (room : Nat) : List (List Char × Json) → Bool
  | [] => true
  | (raw, v) :: rest => (unescape? raw).isSome && v.isSound room && membersSound room rest

end

/-- The kind of a tagged structure and the structure without its tag. In an array the kind comes
first. At most `room` containers may be nested. -/
def tagged? (tag : String) (room : Nat) (j : Json) : Option (String × Json) :=
  if !j.isSound room then none
  else
    match j with
    | .array (kind :: rest) => kind.string?.map fun k => (k, .array rest)
    | .object members => do
      let (kinds, rest) :=
        members.partition fun (raw, _) => unescape? raw == some tag
      match kinds with
      | [(_, kind)] => kind.string?.map fun k => (k, .object rest)
      | _ => none
    | _ => none

end Json

end ClusterWave
