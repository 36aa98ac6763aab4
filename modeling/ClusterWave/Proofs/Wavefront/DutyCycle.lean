import ClusterWave.Proofs.Time
import ClusterWave.Wavefront.Plan
import Mathlib.Algebra.Order.Ring.Int

/-!
# The first window of a duty cycle

A node in a duty cycle takes the time since the start and moves it ahead by whole periods until it
is not negative. The wait counts the periods by a division. It ends where a loop ends that adds one
period at a time, and none of the numbers on the way leaves the range of 128 bits.
-/

namespace ClusterWave

/-! ### One period at a time -/

/-- A phase is moved ahead by a period at a time until it is not negative. -/
inductive MovesAhead (period : Int) : Int → Int → Prop where
  | done {phase : Int} (h : 0 ≤ phase) : MovesAhead period phase phase
  | step {phase result : Int} (h : phase < 0) (rest : MovesAhead period (phase + period) result) :
      MovesAhead period phase result

namespace MovesAhead

variable {period phase result : Int}

lemma unique (h : MovesAhead period phase result) {other : Int}
    (h' : MovesAhead period phase other) : other = result := by
  induction h with
  | done h =>
    cases h' with
    | done => rfl
    | step hlt => exact absurd h (Int.not_le.2 hlt)
  | step hlt _ ih =>
    cases h' with
    | done h => exact absurd h (Int.not_le.2 hlt)
    | step _ rest => exact ih rest

/-- As many periods are added as it takes, and no more: after the last one the phase is less than a
period. -/
lemma of_periods (hp : 0 < period) (k : Nat) (h : 0 ≤ phase + k * period)
    (hlast : k ≠ 0 → phase + k * period < period) :
    MovesAhead period phase (phase + k * period) := by
  induction k generalizing phase with
  | zero =>
    rw [Nat.cast_zero, Int.zero_mul, Int.add_zero] at h ⊢
    exact .done h
  | succ k ih =>
    have hsucc : phase + (k + 1 : Nat) * period = phase + period + k * period := by
      rw [Nat.cast_succ, Int.add_mul, Int.one_mul]
      omega
    have hk : 0 ≤ k * period := Int.mul_nonneg (Int.natCast_nonneg k) hp.le
    have hlast := hlast (Nat.succ_ne_zero k)
    rw [hsucc] at h hlast ⊢
    exact .step (by omega) (ih h fun _ => hlast)

end MovesAhead

/-! ### All periods at once -/

/-- The number of periods in a division that rounds up. -/
def periodsAhead (ahead period : Int) : Int := Int.tdiv (ahead + period - 1) period

/-- The phase after so many periods. -/
def movedAhead (period phase : Int) : Int :=
  if phase < 0 then phase + periodsAhead (-phase) period * period else phase

variable {period ahead phase : Int}

/-- The periods reach as far ahead as asked for, and less than a period further. -/
lemma periodsAhead_spec (hp : 0 < period) (ha : 0 < ahead) :
    0 ≤ periodsAhead ahead period ∧ periodsAhead ahead period ≤ ahead + period - 1 ∧
      ahead ≤ periodsAhead ahead period * period ∧
      periodsAhead ahead period * period < ahead + period := by
  have hn : 0 ≤ ahead + period - 1 := by omega
  have hdiv := Int.mul_ediv_add_emod (ahead + period - 1) period
  have hnonneg := Int.emod_nonneg (ahead + period - 1) hp.ne'
  have hlt := Int.emod_lt_of_pos (ahead + period - 1) hp
  rw [periodsAhead, Int.tdiv_eq_ediv_of_nonneg hn]
  refine ⟨Int.ediv_nonneg hn hp.le, Int.ediv_le_self _ hn, ?_, ?_⟩
  · rw [Int.mul_comm]
    omega
  · rw [Int.mul_comm]
    omega

lemma movesAhead_iff (hp : 0 < period) {result : Int} :
    MovesAhead period phase result ↔ result = movedAhead period phase := by
  suffices h : MovesAhead period phase (movedAhead period phase) from
    ⟨fun h' => h.unique h', fun he => he ▸ h⟩
  rw [movedAhead]
  split
  · rename_i hlt
    obtain ⟨hnonneg, -, hle, hlast⟩ := periodsAhead_spec hp (Int.neg_pos_of_neg hlt)
    obtain ⟨k, hk⟩ := Int.eq_ofNat_of_zero_le hnonneg
    rw [hk] at hle hlast ⊢
    exact .of_periods hp k (by omega) fun _ => by omega
  · rename_i hle
    exact .done (Int.not_lt.1 hle)

lemma movedAhead_nonneg (hp : 0 < period) (phase : Int) : 0 ≤ movedAhead period phase := by
  rw [movedAhead]
  split
  · rename_i hlt
    obtain ⟨-, -, hle, -⟩ := periodsAhead_spec hp (Int.neg_pos_of_neg hlt)
    omega
  · omega

lemma movedAhead_lt (hp : 0 < period) (h : phase < 0) : movedAhead period phase < period := by
  obtain ⟨-, -, -, hlt⟩ := periodsAhead_spec hp (Int.neg_pos_of_neg h)
  rw [movedAhead, if_pos h]
  omega

/-! ### Numbers of 128 bits -/

/-- One more than the largest number of 128 bits with a sign. -/
def wideLimit : Int := 0x80000000000000000000000000000000

/-- A number, if it fits in 128 bits with a sign. -/
def wide? (x : Int) : Option Int := if -wideLimit ≤ x ∧ x < wideLimit then some x else none

lemma wide?_eq_some {x : Int} (h : -wideLimit ≤ x) (h' : x < wideLimit) : wide? x = some x :=
  if_pos ⟨h, h'⟩

/-- A phase moved ahead in numbers of 128 bits. There is no answer if one of them leaves its
range. -/
def wideMovedAhead? (period phase : Int) : Option Int :=
  if phase < 0 then do
    let ahead ← wide? (-phase)
    let sum ← wide? (ahead + period)
    let dividend ← wide? (sum - 1)
    let periods ← wide? (Int.tdiv dividend period)
    let advance ← wide? (periods * period)
    wide? (phase + advance)
  else some phase

/-- The wait of a duty cycle in numbers of 128 bits. There is no answer if one of them leaves its
range. -/
def wideDutyWait? (now start : Timestamp) (period offset : Duration) : Option Duration := do
  let micros := max 1 ((wide? (period.nanos / 1000 : Nat)).getD (wideLimit - 1))
  let phase ← wide? (now.micros.toNat - start.micros.toNat)
  let moved ← wideMovedAhead? micros phase
  let wait := if 0 ≤ moved ∧ moved < UInt64.size then moved.toNat else UInt64.size - 1
  some (Duration.ofNanos (wait * 1000) + offset)

lemma wideMovedAhead?_eq (hp : 0 < period) (hperiod : period < 0x10000000000000000000000000000000)
    (hphase : -0x10000000000000000 < phase) :
    wideMovedAhead? period phase = some (movedAhead period phase) := by
  rw [wideMovedAhead?, movedAhead]
  split
  · rename_i hlt
    obtain ⟨hnonneg, hcount, hahead, hlast⟩ := periodsAhead_spec hp (Int.neg_pos_of_neg hlt)
    have hlimit : wideLimit = 0x80000000000000000000000000000000 := rfl
    have hneg : wide? (-phase) = some (-phase) := wide?_eq_some (by omega) (by omega)
    have hsum : wide? (-phase + period) = some (-phase + period) :=
      wide?_eq_some (by omega) (by omega)
    have hdividend : wide? (-phase + period - 1) = some (-phase + period - 1) :=
      wide?_eq_some (by omega) (by omega)
    have hperiods : wide? (Int.tdiv (-phase + period - 1) period) =
        some (periodsAhead (-phase) period) :=
      wide?_eq_some (x := periodsAhead (-phase) period) (by omega) (by omega)
    have hadvance : wide? (periodsAhead (-phase) period * period) =
        some (periodsAhead (-phase) period * period) := wide?_eq_some (by omega) (by omega)
    have hmoved : wide? (phase + periodsAhead (-phase) period * period) =
        some (phase + periodsAhead (-phase) period * period) :=
      wide?_eq_some (by omega) (by omega)
    simp only [hneg, hsum, hdividend, hperiods, hadvance, hmoved, Option.bind_eq_bind,
      Option.bind_some]
  · rfl

/-! ### The wait -/

/-- The wait is the phase moved ahead, at most `2^64 - 1` microseconds of it, and the offset. -/
lemma dutyWait_eq (now start : Timestamp) (period offset : Duration) :
    dutyWait now start period offset =
      Duration.ofNanos (min (movedAhead (max 1 (period.nanos / 1000 : Nat))
        (now.micros.toNat - start.micros.toNat)).toNat (UInt64.size - 1) * 1000) + offset := rfl

lemma nanos_dutyWait (now start : Timestamp) (period offset : Duration) :
    (dutyWait now start period offset).nanos =
      min (offset.nanos + min (movedAhead (max 1 (period.nanos / 1000 : Nat))
        (now.micros.toNat - start.micros.toNat)).toNat (UInt64.size - 1) * 1000)
          Duration.longest.nanos := by
  have hfits (n : Nat) : min n (UInt64.size - 1) * 1000 ≤ durationLimit - 1 := by
    show min n 18446744073709551615 * 1000 ≤ 18446744073709551615999999999
    omega
  rw [dutyWait_eq, Duration.nanos_add, Duration.nanos_ofNanos, Nat.min_eq_left (hfits _),
    Nat.add_comm]
  rfl

lemma clamp_eq {x : Int} (h : 0 ≤ x) :
    (if 0 ≤ x ∧ x < UInt64.size then x.toNat else UInt64.size - 1) =
      min x.toNat (UInt64.size - 1) := by
  have hsize : 0 < UInt64.size := by decide
  split <;> omega

/-- No number on the way to a wait leaves the range of 128 bits. -/
lemma wideDutyWait?_eq (now start : Timestamp) (period offset : Duration) :
    wideDutyWait? now start period offset = some (dutyWait now start period offset) := by
  have hnow : now.micros.toNat < 0x10000000000000000 := now.micros.toNat_lt
  have hstart : start.micros.toNat < 0x10000000000000000 := start.micros.toNat_lt
  have hnanos : period.nanos < 18446744073709551616000000000 := period.nanos_lt
  have hlimit : wideLimit = 0x80000000000000000000000000000000 := rfl
  have hperiod : wide? (period.nanos / 1000 : Nat) = some ((period.nanos / 1000 : Nat) : Int) :=
    wide?_eq_some (by omega) (by omega)
  have hphase : wide? (now.micros.toNat - start.micros.toNat) =
      some (now.micros.toNat - start.micros.toNat : Int) := wide?_eq_some (by omega) (by omega)
  have hp : 0 < max 1 ((period.nanos / 1000 : Nat) : Int) := by omega
  have hmoved : wideMovedAhead? (max 1 (period.nanos / 1000 : Nat))
      (now.micros.toNat - start.micros.toNat) = some (movedAhead (max 1 (period.nanos / 1000 : Nat))
        (now.micros.toNat - start.micros.toNat)) :=
    wideMovedAhead?_eq hp (by omega) (by omega)
  simp only [wideDutyWait?, hperiod, Option.getD_some, hphase, hmoved, Option.bind_eq_bind,
    Option.bind_some, clamp_eq (movedAhead_nonneg hp _), dutyWait_eq]

/-- The wait of a duty cycle is what the loop makes of it that adds one period after another. For a
period that lasts, counted in whole microseconds, the loop ends with one phase. It is not negative,
and less than a period if the start lies ahead. No number on the way to the wait leaves the range of
128 bits, and the wait is the offset with that phase, or with `2^64 - 1` microseconds if it does not
fit in 64 bits. It stops at the longest duration. -/
theorem dutyWait_moves_ahead (now start : Timestamp) {period : Duration} (h : period.Lasts)
    (offset : Duration) : ∃ phase,
      (∀ result, MovesAhead (period.nanos / 1000 : Nat)
        (now.micros.toNat - start.micros.toNat) result ↔ result = phase) ∧
      0 ≤ phase ∧ (now < start → phase < (period.nanos / 1000 : Nat)) ∧
      wideDutyWait? now start period offset = some (dutyWait now start period offset) ∧
      (dutyWait now start period offset).nanos =
        min (offset.nanos + min phase.toNat (UInt64.size - 1) * 1000) Duration.longest.nanos := by
  have hp : 0 < ((period.nanos / 1000 : Nat) : Int) := Int.natCast_pos.2 (Nat.div_pos h (by decide))
  have hmax : max 1 ((period.nanos / 1000 : Nat) : Int) = (period.nanos / 1000 : Nat) :=
    max_eq_right hp
  refine ⟨_, fun _ => movesAhead_iff hp, movedAhead_nonneg hp _, fun hlt => ?_,
    wideDutyWait?_eq now start period offset, ?_⟩
  · have hlt : now.micros.toNat < start.micros.toNat := hlt
    exact movedAhead_lt hp (by omega)
  · rw [nanos_dutyWait, hmax]

/-- A start that lies 45 seconds ahead is moved by three periods of 20 seconds. -/
theorem distant_start_is_moved_ahead : (Duration.ofSecs 20).Lasts ∧
    dutyWait .start (.ofSecs 45) (.ofSecs 20) (.ofSecs 3) = .ofSecs 18 ∧ ∃ phase,
      (∀ result, MovesAhead ((Duration.ofSecs 20).nanos / 1000 : Nat)
        (Timestamp.start.micros.toNat - (Timestamp.ofSecs 45).micros.toNat) result ↔
          result = phase) ∧
      0 ≤ phase ∧
      (Timestamp.start < .ofSecs 45 → phase < ((Duration.ofSecs 20).nanos / 1000 : Nat)) ∧
      wideDutyWait? .start (.ofSecs 45) (.ofSecs 20) (.ofSecs 3) =
        some (dutyWait .start (.ofSecs 45) (.ofSecs 20) (.ofSecs 3)) ∧
      (dutyWait .start (.ofSecs 45) (.ofSecs 20) (.ofSecs 3)).nanos =
        min ((Duration.ofSecs 3).nanos + min phase.toNat (UInt64.size - 1) * 1000)
          Duration.longest.nanos := by
  have h : (Duration.ofSecs 20).Lasts := by decide
  exact ⟨h, by decide, dutyWait_moves_ahead .start (.ofSecs 45) h (.ofSecs 3)⟩

end ClusterWave
