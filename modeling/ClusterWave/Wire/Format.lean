import ClusterWave.Table

/-!
# The wire format

Values are written without separators. Numbers take a fixed number of bytes, least significant byte
first. A truth value or the presence of an optional value is one byte. The variant of a choice is
four bytes, and a list begins with its length in eight.

A type with a wire form has an encoding and a decoder. The decoder takes a value off the front of a
byte string and leaves the rest.
-/

namespace ClusterWave

/-- Why a byte string has no value. -/
inductive WireFault where
  | endOfInput
  /-- A choice of `count` variants has none of the number found. -/
  | badVariant (found : UInt32) (count : Nat)
  | badOption (found : UInt8)
  | badBool (found : UInt8)
deriving DecidableEq

def WireFault.message (fault : WireFault) : String :=
  "codec error: " ++
    match fault with
    | .endOfInput => "io error: unexpected end of file"
    | .badVariant found count =>
      "invalid value: integer \x60" ++ toString found ++ "\x60, expected variant index 0 <= i < "
        ++ toString count
    | .badOption found => "tag for enum is not valid, found " ++ toString found
    | .badBool found => "invalid u8 while decoding bool, expected 0 or 1, found " ++ toString found

/-- Take a value off the front of a byte string. -/
abbrev Decoder (α : Type) : Type := StateT (List UInt8) (Except WireFault) α

/-- Types with a wire form. -/
class Wire (α : Type) where
  encode : α → List UInt8
  decode : Decoder α

export Wire (encode decode)

/-! ### Numbers -/

/-- The `width` low bytes of a number, least significant first. -/
def bytesOfNat : Nat → Nat → List UInt8
  | 0, _ => []
  | width + 1, n => UInt8.ofNat (n % 256) :: bytesOfNat width (n / 256)

/-- Take the next byte. -/
def takeByte : Decoder UInt8
  | [] => .error .endOfInput
  | b :: rest => .ok (b, rest)

/-- Take a number of `width` bytes, least significant first. -/
def takeNat : Nat → Decoder Nat
  | 0 => pure 0
  | width + 1 => do
    let b ← takeByte
    let n ← takeNat width
    pure (b.toNat + 256 * n)

instance : Wire UInt64 where
  encode n := bytesOfNat 8 n.toNat
  decode := do
    let n ← takeNat 8
    pure (UInt64.ofNat n)

instance : Wire UInt32 where
  encode n := bytesOfNat 4 n.toNat
  decode := do
    let n ← takeNat 4
    pure (UInt32.ofNat n)

/-! ### Truth values, options and lists -/

instance : Wire Bool where
  encode b := [if b then 1 else 0]
  decode := do
    let b ← takeByte
    if b = 0 then pure false else if b = 1 then pure true else throw (.badBool b)

instance {α : Type} [Wire α] : Wire (Option α) where
  encode
    | none => [0]
    | some a => 1 :: encode a
  decode := do
    let b ← takeByte
    if b = 0 then pure none
    else if b = 1 then do
      let a ← decode
      pure (some a)
    else throw (.badOption b)

/-- Take `n` values. -/
def takeMany {α : Type} [Wire α] : Nat → Decoder (List α)
  | 0 => pure []
  | n + 1 => do
    let a ← decode
    let rest ← takeMany n
    pure (a :: rest)

instance {α : Type} [Wire α] : Wire (List α) where
  encode as := encode (UInt64.ofNat as.length) ++ as.flatMap encode
  decode := do
    let n : UInt64 ← decode
    takeMany n.toNat

/-! ### Choices -/

/-- The encoding of a variant by its number. -/
def encodeVariant (index : Nat) : List UInt8 := encode (UInt32.ofNat index)

/-- Take the number of a variant and go on with the decoder at its place. -/
def takeVariant {α : Type} (variants : List (Decoder α)) : Decoder α := do
  let found : UInt32 ← decode
  match variants[found.toNat]? with
  | some variant => variant
  | none => throw (.badVariant found variants.length)

end ClusterWave
