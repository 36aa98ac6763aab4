import ClusterWave.Number.Text
import ClusterWave.Time.Duration

/-!
# Points in time

A timestamp counts microseconds since the start of the run. The largest one stands for a time that
never comes; sums stop there, and differences stop at the start of the run.
-/

namespace ClusterWave

/-- Microseconds since the start of the run. -/
structure Timestamp where
  micros : UInt64
deriving DecidableEq

namespace Timestamp

/-- The start of the run. -/
def start : Timestamp := ⟨0⟩

/-- The time that never comes. -/
def never : Timestamp := ⟨0xffffffffffffffff⟩

instance : Inhabited Timestamp := ⟨start⟩

instance : LT Timestamp := ⟨fun a b => a.micros < b.micros⟩

instance : LE Timestamp := ⟨fun a b => a.micros ≤ b.micros⟩

instance (a b : Timestamp) : Decidable (a < b) := inferInstanceAs (Decidable (a.micros < b.micros))

instance (a b : Timestamp) : Decidable (a ≤ b) := inferInstanceAs (Decidable (a.micros ≤ b.micros))

def later (a b : Timestamp) : Timestamp := if a < b then b else a

def isNever (t : Timestamp) : Bool := t == never

/-- The timestamp of `n` microseconds, or `never`. -/
def ofNat (n : Nat) : Timestamp := ⟨UInt64.ofNat (min n (UInt64.size - 1))⟩

def ofMillis (n : UInt64) : Timestamp := ofNat (n.toNat * 1000)

def ofSecs (n : UInt64) : Timestamp := ofNat (n.toNat * 1000000)

/-- The time that lies `d` after the start of the run. -/
def ofDuration (d : Duration) : Timestamp := ⟨d.micros⟩

/-- `d` later, counted in whole microseconds. -/
def plus (t : Timestamp) (d : Duration) : Timestamp := ofNat (t.micros.toNat + d.micros.toNat)

instance : HAdd Timestamp Duration Timestamp := ⟨plus⟩

/-- `d` earlier, counted in whole microseconds. -/
def minus (t : Timestamp) (d : Duration) : Timestamp := ofNat (t.micros.toNat - d.micros.toNat)

/-- Time since `earlier`, zero if that lies ahead. -/
def since (t earlier : Timestamp) : Duration :=
  Duration.ofNanos ((t.micros.toNat - earlier.micros.toNat) * 1000)

/-- Time since `earlier`, unless that lies ahead. -/
def since? (t earlier : Timestamp) : Option Duration :=
  if earlier ≤ t then some (t.since earlier) else none

/-- The time in seconds. -/
def seconds (t : Timestamp) : Binary64 := Binary64.ofUInt64 t.micros / Binary64.ofNat 1000000

/-- Seconds with six places, or `never`. -/
def text (t : Timestamp) : String :=
  if t.isNever then "never" else t.seconds.fixed 6 ++ "s"

end Timestamp

end ClusterWave
