import ClusterWave.Number.Decimal

/-!
# Durations

A duration is a whole number of nanoseconds below `2^64` seconds. Sums and products that leave this
range stop at its end.
-/

namespace ClusterWave

/-- One more than the largest duration, in nanoseconds. -/
def durationLimit : Nat := UInt64.size * 1000000000

/-- A span of time in nanoseconds. -/
structure Duration where
  nanos : Nat
  nanos_lt : nanos < durationLimit
deriving DecidableEq

namespace Duration

/-- The longest duration. -/
def longest : Duration := ⟨durationLimit - 1, by decide⟩

/-- The duration of `n` nanoseconds, or the longest one. -/
def ofNanos (n : Nat) : Duration := if h : n < durationLimit then ⟨n, h⟩ else longest

def zero : Duration := ⟨0, by decide⟩

instance : Inhabited Duration := ⟨zero⟩

def ofMicros (n : UInt64) : Duration := ofNanos (n.toNat * 1000)

def ofMillis (n : UInt64) : Duration := ofNanos (n.toNat * 1000000)

def ofSecs (n : UInt64) : Duration := ofNanos (n.toNat * 1000000000)

/-! ### Parts -/

/-- Whole seconds. -/
def secs (d : Duration) : Nat := d.nanos / 1000000000

/-- Nanoseconds beyond the whole seconds. -/
def subsec (d : Duration) : Nat := d.nanos % 1000000000

/-- Whole microseconds, at most `2^64 - 1`. -/
def micros (d : Duration) : UInt64 := UInt64.ofNat (min (d.nanos / 1000) (UInt64.size - 1))

/-- Whole milliseconds, at most `2^64 - 1`. -/
def millis (d : Duration) : UInt64 := UInt64.ofNat (min (d.nanos / 1000000) (UInt64.size - 1))

def isZero (d : Duration) : Bool := d.nanos == 0

/-! ### Arithmetic -/

instance : Add Duration := ⟨fun a b => ofNanos (a.nanos + b.nanos)⟩

/-- Repeat a duration `k` times. -/
def scale (k : Nat) (d : Duration) : Duration := ofNanos (k * d.nanos)

/-- The `k`-th part of a duration, rounded down. -/
def divide (d : Duration) (k : Nat) : Duration := ofNanos (d.nanos / k)

instance : LT Duration := ⟨fun a b => a.nanos < b.nanos⟩

instance : LE Duration := ⟨fun a b => a.nanos ≤ b.nanos⟩

instance (a b : Duration) : Decidable (a < b) := inferInstanceAs (Decidable (a.nanos < b.nanos))

instance (a b : Duration) : Decidable (a ≤ b) := inferInstanceAs (Decidable (a.nanos ≤ b.nanos))

/-! ### Seconds as a floating point number -/

/-- The duration in seconds: whole seconds plus the fraction, each rounded. -/
def seconds (d : Duration) : Binary64 :=
  Binary64.ofNat d.secs + Binary64.ofNat d.subsec / Binary64.ofNat 1000000000

/-- The duration nearest to a number of seconds, ties to even.

There is none for a negative number, for what is not a finite number and from `2^64` seconds on. -/
def ofSeconds? (x : Binary64) : Option Duration :=
  if !x.isFinite || x < Binary64.zero then none
  else
    let (m, q) := x.significand
    let (num, den) := scaledQuotient m q (-9)
    let n := roundQuotient .even num den
    if h : n < durationLimit then some ⟨n, h⟩ else none

/-! ### Text -/

/-- A count of `unit` parts with its fraction, without trailing zeros. -/
private def countText (n unit places : Nat) : String :=
  let digits := Nat.toDigits 10 (n % unit)
  let padded := List.replicate (places - digits.length) '0' ++ digits
  let fraction := (padded.reverse.dropWhile (· == '0')).reverse
  toString (n / unit) ++ if fraction.isEmpty then "" else "." ++ String.ofList fraction

/-- The duration in the largest unit that fits it, `1.5s`, `20ms`, `3µs` or `0ns`. -/
def text (d : Duration) : String :=
  if 1000000000 ≤ d.nanos then countText d.nanos 1000000000 9 ++ "s"
  else if 1000000 ≤ d.nanos then countText d.nanos 1000000 6 ++ "ms"
  else if 1000 ≤ d.nanos then countText d.nanos 1000 3 ++ "µs"
  else toString d.nanos ++ "ns"

end Duration

end ClusterWave
