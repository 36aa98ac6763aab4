import ClusterWave.Number.Decimal

/-!
# Text of floating point numbers

Four written forms share the digits of `Decimal.shortest`, or round to a fixed number of places.

* `plain`: never an exponent, no fraction for a whole number.
* `scientific`: always an exponent, `-3.703e1`.
* `fixed`: a fixed number of decimal places, a half to the even neighbour.
* `json`: positional with a fraction between `10⁻⁵` and `10¹⁶`, otherwise a signed exponent.
-/

namespace ClusterWave

namespace Binary64

/-- The minus sign of a signed pattern. -/
def signText (x : Binary64) : String := if x.isSigned then "-" else ""

/-- Join the parts of a number by a point, leaving out an empty fraction. -/
def pointed (whole fraction : String) : String :=
  if fraction.isEmpty then whole else whole ++ "." ++ fraction

/-- Text of what has no digits, or else the signed text of the absolute value. -/
def textWith (finite : Binary64 → String) (x : Binary64) : String :=
  if x.isNaN then "NaN"
  else x.signText ++ if x.isInfinite then "inf" else finite x.abs

/-- The fewest digits that read back, positional at any size. -/
def plain : Binary64 → String :=
  textWith fun x =>
    if x.isZero then "0"
    else
      let (whole, fraction) := (Decimal.shortest .up x).positional
      pointed whole fraction

/-- The fewest digits that read back, with one digit before the point and a power of ten. -/
def scientific : Binary64 → String :=
  textWith fun x =>
    if x.isZero then "0e0"
    else
      let d := Decimal.shortest .up x
      let (whole, fraction) := d.leading
      pointed whole fraction ++ "e" ++ toString d.exponent

/-- Rounded to a number of decimal places, a half to the even neighbour. -/
def fixed (places : Nat) : Binary64 → String :=
  textWith fun x =>
    let (m, q) := x.significand
    let (num, den) := scaledQuotient m q (-places)
    let digits := Nat.toDigits 10 (roundQuotient .even num den)
    let padded := List.replicate (places + 1 - digits.length) '0' ++ digits
    let whole := padded.length - places
    pointed (String.ofList (padded.take whole)) (String.ofList (padded.drop whole))

/-- The text of a finite number in a JSON document. -/
def json : Binary64 → String :=
  textWith fun x =>
    if x.isZero then "0.0"
    else
      let d := Decimal.shortest .even x
      if -5 ≤ d.exponent && d.exponent < 16 then
        let (whole, fraction) := d.positional
        whole ++ "." ++ if fraction.isEmpty then "0" else fraction
      else
        let (whole, fraction) := d.leading
        let sign := if d.exponent < 0 then "-" else "+"
        pointed whole fraction ++ "e" ++ sign ++ toString d.exponent.natAbs

end Binary64

end ClusterWave
