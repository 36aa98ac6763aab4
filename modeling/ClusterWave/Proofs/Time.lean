import ClusterWave.Time.Timestamp
import Mathlib.Tactic.Lemma

/-!
# The order of time

Timestamps are ordered as the numbers of their microseconds. Adding a duration never goes back, not
even at the end of time where sums stop, and what lies ahead is reached exactly after the time that
is left until then. Before the end of time, adding a duration of a microsecond or more goes on.
-/

namespace ClusterWave

namespace Duration

/-- Whether time goes on within a duration: it is a microsecond at least. -/
def Lasts (d : Duration) : Prop := 1000 ≤ d.nanos

instance (d : Duration) : Decidable d.Lasts := inferInstanceAs (Decidable (1000 ≤ d.nanos))

variable {d : Duration}

lemma nanos_ofNanos (n : Nat) : (ofNanos n).nanos = min n (durationLimit - 1) := by
  simp only [ofNanos]
  split
  · show n = _
    omega
  · show durationLimit - 1 = _
    omega

lemma nanos_add (d d' : Duration) :
    (d + d').nanos = min (d.nanos + d'.nanos) (durationLimit - 1) := nanos_ofNanos _

/-- Whole microseconds fit into a duration. -/
lemma toNat_micros_le (d : Duration) : d.micros.toNat * 1000 ≤ d.nanos := by
  have hm : min (d.nanos / 1000) (UInt64.size - 1) < UInt64.size := by
    have : 0 < UInt64.size := by decide
    omega
  rw [Duration.micros, UInt64.toNat_ofNat_of_lt' hm]
  omega

lemma toNat_micros_mono {d' : Duration} (h : d ≤ d') : d.micros.toNat ≤ d'.micros.toNat := by
  have hsize : 0 < UInt64.size := by decide
  have hle : d.nanos ≤ d'.nanos := h
  have hdiv : d.nanos / 1000 ≤ d'.nanos / 1000 := Nat.div_le_div_right hle
  rw [Duration.micros, Duration.micros, UInt64.toNat_ofNat_of_lt' (by omega),
    UInt64.toNat_ofNat_of_lt' (by omega)]
  omega

lemma eq_zero_of_nanos (h : d.nanos = 0) : d = zero := by
  cases d
  cases h
  rfl

lemma lasts_ofNanos {n : Nat} (h : 1000 ≤ n) : (ofNanos n).Lasts := by
  have hl : 1000 ≤ durationLimit - 1 := by decide
  rw [Lasts, nanos_ofNanos]
  omega

namespace Lasts

lemma add (h : d.Lasts) (d' : Duration) : (d + d').Lasts :=
  lasts_ofNanos (Nat.le_trans h (Nat.le_add_right _ _))

lemma scale (h : d.Lasts) {k : Nat} (hk : k ≠ 0) : (d.scale k).Lasts :=
  lasts_ofNanos (Nat.le_trans h (Nat.le_mul_of_pos_left _ (Nat.pos_of_ne_zero hk)))

/-- A duration of whole milliseconds is empty or lasts. -/
lemma of_dvd (h : 1000000 ∣ d.nanos) (h₀ : d.nanos ≠ 0) : d.Lasts := by
  have := Nat.le_of_dvd (Nat.pos_of_ne_zero h₀) h
  rw [Lasts]
  omega

lemma micros_pos (h : d.Lasts) : 0 < d.micros.toNat := by
  have hd : 0 < d.nanos / 1000 := Nat.div_pos h (by decide)
  have hm : min (d.nanos / 1000) (UInt64.size - 1) < UInt64.size := by
    have : 0 < UInt64.size := by decide
    omega
  have hs : 1 < UInt64.size := by decide
  rw [Duration.micros, UInt64.toNat_ofNat_of_lt' hm]
  omega

end Lasts

end Duration

namespace Timestamp

variable {a b c : Timestamp}

/-! ### Order -/

lemma le_iff : a ≤ b ↔ a.micros.toNat ≤ b.micros.toNat := Iff.rfl

@[simp] lemma le_refl (a : Timestamp) : a ≤ a := Nat.le_refl _

lemma le_trans (h : a ≤ b) (h' : b ≤ c) : a ≤ c := Nat.le_trans h h'

lemma le_of_lt (h : a < b) : a ≤ b := Nat.le_of_lt h

lemma lt_of_lt_of_le (h : a < b) (h' : b ≤ c) : a < c := Nat.lt_of_lt_of_le h h'

lemma lt_of_le_of_lt (h : a ≤ b) (h' : b < c) : a < c := Nat.lt_of_le_of_lt h h'

@[simp] lemma not_lt : ¬ a < b ↔ b ≤ a := Nat.not_lt

@[simp] lemma not_le : ¬ a ≤ b ↔ b < a := Nat.not_le

lemma eq_of_toNat (h : a.micros.toNat = b.micros.toNat) : a = b := by
  cases a
  cases b
  exact congrArg Timestamp.mk (UInt64.toNat_inj.1 h)

lemma le_antisymm (h : a ≤ b) (h' : b ≤ a) : a = b := eq_of_toNat (Nat.le_antisymm h h')

lemma le_never (a : Timestamp) : a ≤ never := by
  have := a.micros.toNat_lt
  rw [le_iff]
  show a.micros.toNat ≤ 18446744073709551615
  omega

lemma le_later (a b : Timestamp) : a ≤ a.later b := by
  simp only [later]
  split
  · exact le_of_lt ‹_›
  · exact le_refl a

/-! ### Ties

What is due at one time is told apart by a number. -/

lemma tie_trans {i j k : Nat} (h : a < b ∨ a = b ∧ i < j) (h' : b < c ∨ b = c ∧ j < k) :
    a < c ∨ a = c ∧ i < k := by
  rcases h with h | ⟨h, hi⟩ <;> rcases h' with h' | ⟨h', hj⟩
  · exact .inl (lt_of_lt_of_le h (le_of_lt h'))
  · exact .inl (h' ▸ h)
  · exact .inl (h ▸ h')
  · exact .inr ⟨h.trans h', Nat.lt_trans hi hj⟩

lemma tie_of_not {i j : Nat} (h : ¬ (a < b ∨ a = b ∧ i < j)) (hne : i ≠ j) :
    b < a ∨ b = a ∧ j < i := by
  by_cases hlt : b < a
  · exact .inl hlt
  · have he : a = b := le_antisymm (not_lt.1 hlt) (not_lt.1 fun hlt => h (.inl hlt))
    have hle : j ≤ i := Nat.not_lt.1 fun hlt => h (.inr ⟨he, hlt⟩)
    exact .inr ⟨he.symm, Nat.lt_of_le_of_ne hle hne.symm⟩

/-! ### Sums and differences -/

lemma toNat_ofNat (n : Nat) : (ofNat n).micros.toNat = min n (UInt64.size - 1) := by
  have h : min n (UInt64.size - 1) < UInt64.size := by
    have : 0 < UInt64.size := by decide
    omega
  exact UInt64.toNat_ofNat_of_lt' h

lemma toNat_add (t : Timestamp) (d : Duration) :
    (t + d).micros.toNat = min (t.micros.toNat + d.micros.toNat) (UInt64.size - 1) :=
  toNat_ofNat _

lemma le_add (t : Timestamp) (d : Duration) : t ≤ t + d := by
  have ht : t.micros.toNat < UInt64.size := t.micros.toNat_lt
  rw [le_iff, toNat_add]
  omega

lemma start_le (a : Timestamp) : start ≤ a := Nat.zero_le _

lemma add_le_add (h : a ≤ b) (d : Duration) : a + d ≤ b + d := by
  rw [le_iff] at h
  rw [le_iff, toNat_add, toNat_add]
  omega

lemma add_le_of_le (t : Timestamp) {d d' : Duration} (h : d.micros ≤ d'.micros) :
    t + d ≤ t + d' := by
  have h : d.micros.toNat ≤ d'.micros.toNat := h
  rw [le_iff, toNat_add, toNat_add]
  omega

lemma lt_add {t : Timestamp} (h : t < never) {d : Duration} (hd : d.Lasts) : t < t + d := by
  have ht : t.micros.toNat < UInt64.size - 1 := h
  have hd := hd.micros_pos
  show t.micros.toNat < (t + d).micros.toNat
  rw [toNat_add]
  omega

/-- Differences of timestamps are durations in full. -/
lemma nanos_since (t earlier : Timestamp) :
    (t.since earlier).nanos = (t.micros.toNat - earlier.micros.toNat) * 1000 := by
  have ht : t.micros.toNat < 18446744073709551616 := t.micros.toNat_lt
  have hn : (t.micros.toNat - earlier.micros.toNat) * 1000 < durationLimit := by
    show _ < 18446744073709551616 * 1000000000
    omega
  simp [since, Duration.ofNanos, hn]

lemma toNat_micros_since (t earlier : Timestamp) :
    (t.since earlier).micros.toNat = t.micros.toNat - earlier.micros.toNat := by
  have ht : t.micros.toNat < 18446744073709551616 := t.micros.toNat_lt
  have hm : min ((t.since earlier).nanos / 1000) (UInt64.size - 1) =
      t.micros.toNat - earlier.micros.toNat := by
    rw [nanos_since, Nat.mul_div_cancel _ (by decide)]
    show min _ 18446744073709551615 = _
    omega
  rw [Duration.micros, hm]
  exact UInt64.toNat_ofNat_of_lt' (Nat.lt_of_le_of_lt (Nat.sub_le _ _) ht)

/-- What lies further ahead takes longer to wait for. -/
lemma add_since_le_add_since (now : Timestamp) (h : a ≤ b) :
    now + a.since now ≤ now + b.since now := by
  have h : a.micros.toNat ≤ b.micros.toNat := h
  rw [le_iff, toNat_add, toNat_add, toNat_micros_since, toNat_micros_since]
  omega

/-- Waiting for the time that is left until `t` ends at `t`. -/
lemma add_since {now t : Timestamp} (h : now ≤ t) : now + t.since now = t := by
  have ht : t.micros.toNat < UInt64.size := t.micros.toNat_lt
  have h' : now.micros.toNat ≤ t.micros.toNat := h
  apply eq_of_toNat
  rw [toNat_add, toNat_micros_since]
  omega

end Timestamp

end ClusterWave
