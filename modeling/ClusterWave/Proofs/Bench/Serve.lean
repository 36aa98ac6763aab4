import ClusterWave.Proofs.Bench.Attend

/-!
# Service at a bench

A bench need not be punctual to serve its node. All that counts is that the clock does not run back,
and that a timer goes off at most once, when it is due or later, and not after it was cancelled.
Benches that behave well in the strict sense, with every timer on time and in its order, serve too.
-/

namespace ClusterWave

namespace Bench

/-- The bench at which a visit arrives. -/
def receive (b : Bench) (v : Visit) : Bench :=
  { b with now := v.now, position := v.position, nextHandle := v.nextHandle }

/-- A visit in which the bench serves its node. -/
inductive Serves (b : Bench) (v : Visit) : Bench → Prop where
  | call (hc : b.now ≤ v.now) (hh : b.nextHandle ≤ v.nextHandle)
      (hv : ∀ timer, v.call ≠ .timer timer) : Serves b v ((b.receive v).call v.call)
  /-- A timer goes off, which is pending no more. -/
  | ring (hc : b.now ≤ v.now) (hh : b.nextHandle ≤ v.nextHandle) {a : Alarm} (ha : a ∈ b.alarms)
      (hd : a.due ≤ v.now) (hv : v.call = .timer a.timer) :
      Serves b v ({ b.receive v with
        alarms := b.alarms.erase a
        notes := .fired a.due a.timer :: b.notes }.call v.call)

/-- The benches that come about as a bench serves its node. -/
inductive Reaches (b₀ : Bench) : Bench → Prop where
  | refl : Reaches b₀ b₀
  | step {b b' : Bench} {v : Visit} (h : Reaches b₀ b) (hs : b.Serves v b') : Reaches b₀ b'

variable {b b' b₀ : Bench} {v : Visit}

/-- The alarms that are left when a visit begins. -/
inductive Left (v : Visit) (as : List Alarm) : List Alarm → Prop where
  | all (h : ∀ timer, v.call ≠ .timer timer) : Left v as as
  | others {a : Alarm} (ha : a ∈ as) (h : v.call = .timer a.timer) : Left v as (as.erase a)

lemma Left.mem {as as' : List Alarm} (h : Left v as as') {a : Alarm} (ha : a ∈ as') : a ∈ as := by
  cases h with
  | all => exact ha
  | others => exact List.mem_of_mem_erase ha

namespace Serves

lemma clock (h : b.Serves v b') : b.now ≤ v.now := by
  cases h with
  | call hc => exact hc
  | ring hc => exact hc

lemma handles (h : b.Serves v b') : b.nextHandle ≤ v.nextHandle := by
  cases h with
  | call _ hh => exact hh
  | ring _ hh => exact hh

lemma node (h : b.Serves v b') : b'.node = (b.node.visit v).node := by
  cases h with
  | call => rfl
  | ring => rfl

lemma now (h : b.Serves v b') : b'.now = v.now := by
  cases h with
  | call => rfl
  | ring => rfl

lemma nextHandle (h : b.Serves v b') : b'.nextHandle = (b.node.visit v).outbox.nextHandle := by
  cases h with
  | call => rfl
  | ring => rfl

lemma alarms (h : b.Serves v b') :
    ∃ as, Left v b.alarms as ∧ b'.alarms = (b.node.visit v).outbox.alarms v.now as := by
  cases h with
  | call _ _ hv => exact ⟨_, .all hv, rfl⟩
  | ring _ _ ha _ hv => exact ⟨_, .others ha hv, rfl⟩

/-- A timer that goes off has been pending. -/
lemma exists_alarm {timer : Timer} (h : b.Serves v b') (hv : v.call = .timer timer) :
    ∃ a ∈ b.alarms, a.timer = timer := by
  cases h with
  | call _ _ hc => exact absurd hv (hc timer)
  | @ring _ _ a ha _ hc => exact ⟨a, ha, Call.timer.inj (hc.symm.trans hv)⟩

/-- Who behaves well serves. -/
lemma of_attend? (h : b.attend? v = some b') : b.Serves v b' := by
  simp only [attend?] at h
  split at h
  · rename_i hw
    obtain ⟨hc, hh, -⟩ := hw
    split at h
    · rename_i timer hv
      simp only [ring?] at h
      split at h
      · cases h
      · rename_i a rest ha
        split at h
        · rename_i hr
          obtain ⟨hd, rfl⟩ := hr
          cases h
          have hm : a ∈ b.alarms := ha ▸ List.mem_cons_self
          have he : b.alarms.erase a = rest := by rw [ha, List.erase_cons_head]
          subst he
          exact .ring hc hh hm (hd ▸ Timestamp.le_refl _) hv
        · cases h
    · rename_i hv
      cases h
      exact .call hc hh hv
  · cases h

end Serves

namespace Reaches

lemma trans {b₁ : Bench} (h : b₀.Reaches b₁) (h' : b₁.Reaches b) : b₀.Reaches b := by
  induction h' with
  | refl => exact h
  | step _ hs ih => exact .step ih hs

lemma of_run? {vs : List Visit} (h : b.run? vs = some b') : b.Reaches b' := by
  induction vs generalizing b with
  | nil => exact Option.some.inj h ▸ .refl
  | cons v vs ih =>
    rw [run?_cons, Option.bind_eq_some_iff] at h
    obtain ⟨c, hc, h⟩ := h
    exact trans (.step .refl (.of_attend? hc)) (ih h)

end Reaches

end Bench

end ClusterWave
