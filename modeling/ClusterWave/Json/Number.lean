import ClusterWave.Json.Value

/-!
# Reading JSON numbers

The digits of a number are gathered into a 64-bit significand as long as it fits. Digits of the
integer part that no longer fit count as powers of ten, those of the fraction are dropped. The
number is then the significand, multiplied or divided by a power of ten. Each of these steps rounds,
so a long number may miss the nearest one by a unit in the last place.
-/

namespace ClusterWave

namespace Json

/-- The written parts of a number. -/
structure NumberText where
  negative : Bool
  whole : List Nat
  /-- The digits after the point, if there is one. -/
  fraction : Option (List Nat)
  /-- Whether the exponent is negative, and its digits. -/
  exponent : Option (Bool × List Nat)

def isDigit (c : Char) : Bool := '0' ≤ c && c ≤ '9'

def digitValues (cs : List Char) : List Nat := cs.map fun c => c.toNat - 48

/-- Split a point and at least one digit off. -/
def fraction? : List Char → Option (Option (List Nat) × List Char)
  | '.' :: rest =>
    let (digits, rest) := rest.span isDigit
    if digits.isEmpty then none else some (some (digitValues digits), rest)
  | cs => some (none, cs)

/-- The exponent at the end of a number: a letter, maybe a sign, at least one digit. -/
def exponent? : List Char → Option (Option (Bool × List Nat))
  | [] => some none
  | e :: rest =>
    if e == 'e' || e == 'E' then
      let (negative, digits) :=
        match rest with
        | '+' :: ds => (false, ds)
        | '-' :: ds => (true, ds)
        | ds => (false, ds)
      if digits.isEmpty || !digits.all isDigit then none
      else some (some (negative, digitValues digits))
    else none

/-- Split a number into its parts; a leading zero stands alone. -/
def numberText? (cs : List Char) : Option NumberText := do
  let (negative, cs) :=
    match cs with
    | '-' :: rest => (true, rest)
    | _ => (false, cs)
  let (digits, rest) := cs.span isDigit
  if digits.isEmpty || (digits.head? == some '0' && digits.length != 1) then none
  let (fraction, rest) ← fraction? rest
  some { negative, whole := digitValues digits, fraction, exponent := ← exponent? rest }

/-- Append digits to a significand while it stays below `2^64`; also the digits left over. -/
def gather (n : Nat) : List Nat → Nat × List Nat
  | [] => (n, [])
  | d :: ds => if n * 10 + d < UInt64.size then gather (n * 10 + d) ds else (n, d :: ds)

/-- The power of ten nearest to `10^n`. -/
def powerOfTen (n : Nat) : Binary64 := Binary64.ofFloat (Float.ofScientific 1 false n)

/-- Divide by `10^n`, by at most `10^308` at a time. -/
def shrink (x : Binary64) (n : Nat) : Binary64 :=
  if n ≤ 308 then x / powerOfTen n
  else if x.isZero then x
  else shrink (x / powerOfTen 308) (n - 308)
termination_by n

/-- A significand times a power of ten. -/
def scaleNumber (negative : Bool) (n : Nat) (exponent : Int) : Number :=
  let sign (x : Binary64) : Number := .real (if negative then -x else x)
  let x := Binary64.ofNat n
  if exponent < 0 then sign (shrink x exponent.natAbs)
  else if exponent ≤ 308 then
    let y := x * powerOfTen exponent.natAbs
    if y.isInfinite then .excessive else sign y
  else if x.isZero then sign x
  else .excessive

/-- An integer, as far as 64 bits hold it; negative zero is no integer. -/
def wholeNumber (negative : Bool) (n : Nat) : Number :=
  if !negative then .whole n
  else if n = 0 ∨ 0x8000000000000000 < n then .real (-Binary64.ofNat n)
  else .whole (-n)

/-- The largest exponent that is still counted. -/
def exponentLimit : Nat := 0x7fffffff

/-- The number that a text stands for. -/
def NumberText.value (t : NumberText) : Number :=
  let (n, left) := gather 0 t.whole
  match t.fraction, t.exponent with
  | none, none => if left.isEmpty then wholeNumber t.negative n else
      scaleNumber t.negative n left.length
  | fraction, exponent =>
    let digits := fraction.getD []
    let (m, dropped) := gather n digits
    let shift := (left.length : Int) - (digits.length - dropped.length : Nat)
    match exponent with
    | none => scaleNumber t.negative m shift
    | some (below, ds) =>
      let size := ds.foldl (fun acc d => acc * 10 + d) 0
      if exponentLimit < size then
        if m = 0 ∨ below then .real (if t.negative then -Binary64.zero else Binary64.zero)
        else .excessive
      else scaleNumber t.negative m (if below then shift - size else shift + size)

/-- Read a number. -/
def Number.ofText? (cs : List Char) : Option Number := (numberText? cs).map NumberText.value

end Json

end ClusterWave
