import ClusterWave.Number.Binary64

/-!
# Decimal digits of a floating point number

The shortest decimal is the one with the fewest digits that rounds back to the number, and of
those the nearest. Where two are equally near, a format decides. All comparisons are exact: a
number `m · 2^q` is a quotient of natural numbers.
-/

namespace ClusterWave

/-- The decimal `d₁.d₂d₃… · 10^exponent`, its digits without trailing zeros. -/
structure Decimal where
  digits : List Char
  exponent : Int

/-- Which of two equally near decimals a format takes. -/
inductive Tie where
  | up
  | even

/-- Whether a tie between `c` and `c + 1` goes to `c + 1`. -/
def Tie.goesUp : Tie → Nat → Bool
  | .up, _ => true
  | .even, c => c % 2 == 1

/-- The quotient of two natural numbers, rounded to nearest, a half as `tie` says. -/
def roundQuotient (tie : Tie) (num den : Nat) : Nat :=
  let c := num / den
  let twice := 2 * (num % den)
  if twice < den then c
  else if den < twice then c + 1
  else if tie.goesUp c then c + 1 else c

/-- The quotient `n · 2^q / 10^t` as numerator and denominator. -/
def scaledQuotient (n : Nat) (q t : Int) : Nat × Nat :=
  (n * Nat.pow 2 q.toNat * Nat.pow 10 (-t).toNat, Nat.pow 2 (-q).toNat * Nat.pow 10 t.toNat)

namespace Decimal

/-- The digits of a positive natural number `c` over `10^t`. -/
def ofNat (c : Nat) (t : Int) : Decimal :=
  let all := Nat.toDigits 10 c
  { digits := (all.reverse.dropWhile (· == '0')).reverse
    exponent := t + all.length - 1 }

/-- The exponent `k` with `10^k ≤ m · 2^q < 10^(k+1)`, for positive `m`. -/
def exponentOf (m : Nat) (q : Int) : Int :=
  let k := Int.fdiv ((m.log2 + q) * 30103) 100000
  let reaches (t : Int) : Bool := let (n, d) := scaledQuotient m q t; d ≤ n
  if !reaches k then k - 1 else if reaches (k + 1) then k + 1 else k

/-- The point of the grid `10^t` that rounds back to `m · 2^q` and lies nearest to it, if any.

The numbers that round to `m · 2^q` reach up to half a unit in the last place on either side, but
only a quarter below a power of two; both ends belong to them when `m` is even. -/
def onGrid? (tie : Tie) (m : Nat) (q : Int) (narrow : Bool) (t : Int) : Option Nat :=
  let (unit, den) := scaledQuotient 1 (q - 2) t
  let value := 4 * m * unit
  let low := (4 * m - if narrow then 1 else 2) * unit
  let high := (4 * m + 2) * unit
  let inside (c : Nat) : Bool :=
    if m % 2 == 0 then low ≤ c * den && c * den ≤ high else low < c * den && c * den < high
  let c := value / den
  match inside c, inside (c + 1) with
  | true, true => some (roundQuotient tie value den)
  | true, false => some c
  | false, true => some (c + 1)
  | false, false => none

/-- The shortest decimal that rounds back to a finite positive number. -/
def shortest (tie : Tie) (x : Binary64) : Decimal :=
  let (m, q) := x.significand
  let narrow := m == 0x10000000000000 && -1074 < q
  let k := exponentOf m q
  let grids := (List.range 17).map fun (n : Nat) => k - n
  match grids.findSome? fun t => (onGrid? tie m q narrow t).map (Decimal.ofNat · t) with
  | some d => d
  | none => ofNat m 0

/-- The digits, then zeros up to the units, or a point inside or in front of them. -/
def positional (d : Decimal) : String × String :=
  let whole := (d.exponent + 1).toNat
  let digits := d.digits ++ List.replicate (whole - d.digits.length) '0'
  if d.exponent < 0 then
    ("0", String.ofList (List.replicate (-d.exponent - 1).toNat '0' ++ d.digits))
  else
    (String.ofList (digits.take whole), String.ofList (digits.drop whole))

/-- The first digit and the digits after it. -/
def leading (d : Decimal) : String × String :=
  (String.ofList (d.digits.take 1), String.ofList (d.digits.drop 1))

end Decimal

end ClusterWave
