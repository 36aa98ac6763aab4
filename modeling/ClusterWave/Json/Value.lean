import ClusterWave.Number.Text

/-!
# JSON values

Texts are kept as written between their quotes, with escapes unresolved: a text that is only skipped
may hold an escape that stands for no character, see `Json.unescape?`. The members of an object keep
their order and may repeat a name.
-/

namespace ClusterWave

/-- A number of a JSON document. -/
inductive Json.Number where
  /-- An integer between `-2^63` and `2^64 - 1` without fraction and exponent. -/
  | whole (n : Int)
  | real (x : Binary64)
  /-- A number beyond the range of finite numbers. -/
  | excessive
deriving DecidableEq

inductive Json where
  | null
  | bool (b : Bool)
  | number (n : Json.Number)
  | text (raw : List Char)
  | array (items : List Json)
  | object (members : List (List Char × Json))

namespace Json

instance : Inhabited Json := ⟨null⟩

/-! ### Texts -/

/-- The value of a hexadecimal digit. -/
def hexDigit? (c : Char) : Option Nat :=
  if '0' ≤ c ∧ c ≤ '9' then some (c.toNat - 48)
  else if 'a' ≤ c ∧ c ≤ 'f' then some (c.toNat - 87)
  else if 'A' ≤ c ∧ c ≤ 'F' then some (c.toNat - 55)
  else none

/-- The value of four hexadecimal digits. -/
def hexQuad? (a b c d : Char) : Option Nat := do
  some ((((← hexDigit? a) * 16 + (← hexDigit? b)) * 16 + (← hexDigit? c)) * 16 + (← hexDigit? d))

/-- The character of a short escape. -/
def shortEscape? (c : Char) : Option Char :=
  if c == '"' || c == '\\' || c == '/' then some c
  else if c == 'b' then some '\x08'
  else if c == 'f' then some '\x0c'
  else if c == 'n' then some '\n'
  else if c == 'r' then some '\r'
  else if c == 't' then some '\t'
  else none

/-- Resolve the escapes after the resolved characters `done`, last one first.

An escape beyond the first plane is a pair of surrogates; half of a pair has no meaning. -/
def unescapeFrom (done : List Char) : List Char → Option (List Char)
  | [] => some done.reverse
  | '\\' :: 'u' :: a :: b :: c :: d :: rest =>
    match hexQuad? a b c d with
    | none => none
    | some high =>
      if high < 0xd800 ∨ 0xdfff < high then unescapeFrom (Char.ofNat high :: done) rest
      else if 0xdbff < high then none
      else
        match rest with
        | '\\' :: 'u' :: a' :: b' :: c' :: d' :: rest' =>
          match hexQuad? a' b' c' d' with
          | none => none
          | some low =>
            if low < 0xdc00 ∨ 0xdfff < low then none
            else
              let code := 0x10000 + (high - 0xd800) * 0x400 + (low - 0xdc00)
              unescapeFrom (Char.ofNat code :: done) rest'
        | _ => none
  | '\\' :: c :: rest =>
    match shortEscape? c with
    | none => none
    | some e => unescapeFrom (e :: done) rest
  | c :: rest => unescapeFrom (c :: done) rest

/-- The characters that a text stands for. -/
def unescape? (raw : List Char) : Option String := (unescapeFrom [] raw).map String.ofList

def hexChar (n : Nat) : Char := if n < 10 then Char.ofNat (48 + n) else Char.ofNat (87 + n)

/-- A character as it is written in a text. -/
def escapeChar (c : Char) : List Char :=
  if c == '"' || c == '\\' then ['\\', c]
  else if c == '\x08' then ['\\', 'b']
  else if c == '\x0c' then ['\\', 'f']
  else if c == '\n' then ['\\', 'n']
  else if c == '\r' then ['\\', 'r']
  else if c == '\t' then ['\\', 't']
  else if c.toNat < 0x20 then ['\\', 'u', '0', '0', hexChar (c.toNat / 16), hexChar (c.toNat % 16)]
  else [c]

def ofString (s : String) : Json := .text (s.toList.flatMap escapeChar)

/-! ### Building values -/

def ofNat (n : Nat) : Json := .number (.whole n)

def ofUInt64 (n : UInt64) : Json := ofNat n.toNat

def ofReal (x : Binary64) : Json := .number (.real x)

/-- The value, or `null` where there is none. -/
def ofOption {α : Type} (form : α → Json) : Option α → Json
  | none => .null
  | some a => form a

def ofList {α : Type} (form : α → Json) (xs : List α) : Json := .array (xs.map form)

/-- An object of named members. -/
def ofMembers (ms : List (String × Json)) : Json := .object (ms.map fun (k, v) => (k.toList, v))

/-! ### Printing -/

def Number.render : Number → String
  | .whole n => toString n
  | .real x => if x.isFinite then x.json else "null"
  | .excessive => "null"

/-- A new line, indented by two blanks a level. -/
def newLine (depth : Nat) : String := "\n".pushn ' ' (2 * depth)

mutual

/-- A value at a depth of indentation, one item or member a line. -/
def render (depth : Nat) : Json → String
  | .null => "null"
  | .bool b => if b then "true" else "false"
  | .number n => n.render
  | .text raw => "\"" ++ String.ofList raw ++ "\""
  | .array [] => "[]"
  | .array items => renderItems (depth + 1) "[" items ++ newLine depth ++ "]"
  | .object [] => "\x7b\x7d"
  | .object members => renderMembers (depth + 1) "\x7b" members ++ newLine depth ++ "\x7d"

/-- The items of an array after the text printed so far, which ends at the opening or a comma. -/
def renderItems (depth : Nat) (printed : String) : List Json → String
  | [] => printed
  | [item] => printed ++ newLine depth ++ item.render depth
  | item :: rest => renderItems depth (printed ++ newLine depth ++ item.render depth ++ ",") rest

/-- The members of an object after the text printed so far. -/
def renderMembers (depth : Nat) (printed : String) : List (List Char × Json) → String
  | [] => printed
  | [(name, value)] => renderMember depth printed name (value.render depth)
  | (name, value) :: rest =>
    renderMembers depth (renderMember depth printed name (value.render depth) ++ ",") rest

/-- A member with its rendered value after the text printed so far. -/
def renderMember (depth : Nat) (printed : String) (name : List Char) (value : String) : String :=
  printed ++ newLine depth ++ "\"" ++ String.ofList name ++ "\": " ++ value

end

/-- A document, indented by two blanks a level. -/
def pretty (j : Json) : String := j.render 0

mutual

/-- A value without blanks after the text printed so far. -/
def compactAfter (printed : String) : Json → String
  | .null => printed ++ "null"
  | .bool b => printed ++ if b then "true" else "false"
  | .number n => printed ++ n.render
  | .text raw => printed ++ "\"" ++ String.ofList raw ++ "\""
  | .array items => compactItems (printed ++ "[") items ++ "]"
  | .object members => compactMembers (printed ++ "\x7b") members ++ "\x7d"

def compactItems (printed : String) : List Json → String
  | [] => printed
  | [item] => item.compactAfter printed
  | item :: rest => compactItems (item.compactAfter printed ++ ",") rest

def compactMembers (printed : String) : List (List Char × Json) → String
  | [] => printed
  | [(name, value)] => value.compactAfter (printed ++ "\"" ++ String.ofList name ++ "\":")
  | (name, value) :: rest =>
    compactMembers
      (value.compactAfter (printed ++ "\"" ++ String.ofList name ++ "\":") ++ ",") rest

end

/-- A document on one line, without blanks. -/
def compact (j : Json) : String := j.compactAfter ""

end Json

end ClusterWave
