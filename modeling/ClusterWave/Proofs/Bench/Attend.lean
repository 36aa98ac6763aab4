import ClusterWave.Proofs.Bench.Alarm

/-!
# Visits at a bench

A bench that behaves well lets its clock run forward only. Its timers go off when they are due, each
once, in their order and not after they were cancelled, and the node is called for nothing else in
their place. Packets and other calls may come at any time in between.
-/

namespace ClusterWave

namespace Bench

/-- Let the first alarm go off, if it is due now and is of a given timer. -/
def ring? (b : Bench) (timer : Timer) : Option Bench :=
  match b.alarms with
  | [] => none
  | a :: rest =>
    if a.due = b.now ∧ a.timer = timer then
      some { b with alarms := rest, notes := .fired a.due a.timer :: b.notes }
    else none

/-- Let the node be visited, if it behaves well to do so. -/
def attend? (b : Bench) (v : Visit) : Option Bench :=
  if b.now ≤ v.now ∧ b.nextHandle ≤ v.nextHandle ∧ ∀ a ∈ b.alarms, v.now ≤ a.due then
    let b := { b with now := v.now, position := v.position, nextHandle := v.nextHandle }
    match v.call with
    | .timer timer => (b.ring? timer).map fun b => b.call v.call
    | _ => some (b.call v.call)
  else none

/-- Let the node be visited time and again, first visit first. -/
def run? (b : Bench) (vs : List Visit) : Option Bench := vs.foldlM attend? b

/-- What becomes of the alarms when a visit begins. -/
inductive Rung (v : Visit) : List Alarm → List Alarm → Prop where
  | none (as : List Alarm) (h : ∀ timer, v.call ≠ .timer timer) : Rung v as as
  | first {a : Alarm} (rest : List Alarm) (h : v.call = .timer a.timer) (hd : a.due = v.now) :
      Rung v (a :: rest) rest

lemma Rung.mem {v : Visit} {as as' : List Alarm} (h : Rung v as as') {a : Alarm} (ha : a ∈ as') :
    a ∈ as := by
  cases h with
  | none => exact ha
  | first => exact List.mem_cons_of_mem _ ha

/-- A timer goes off only when it is due. -/
lemma Rung.due {v : Visit} {as as' : List Alarm} (h : Rung v as as') {timer : Timer}
    (hv : v.call = .timer timer) : ∃ a ∈ as, a.timer = timer ∧ a.due = v.now := by
  cases h with
  | none _ h => exact absurd hv (h timer)
  | @first a rest h hd =>
    exact ⟨a, List.mem_cons_self, Call.timer.inj (h.symm.trans hv), hd⟩

/-- The timer that goes off has the first alarm. -/
lemma Rung.exists_first {v : Visit} {as as' : List Alarm} {next : Nat} (h : Rung v as as')
    (ho : Alarm.Orderly as next) {timer : Timer} (hv : v.call = .timer timer) :
    ∃ d ∈ as, d.timer = timer ∧ ∀ a ∈ as, ¬ a.before d := by
  cases h with
  | none _ hc => exact absurd hv (hc timer)
  | @first d rest hc =>
    refine ⟨d, List.mem_cons_self, Call.timer.inj (hc.symm.trans hv), ?_⟩
    intro a ha hb
    rcases List.mem_cons.1 ha with rfl | ha
    · exact a.not_before_self hb
    · exact a.not_before_self (Alarm.before_trans hb (ho.before_of_mem ha))

/-- What a visit makes of a bench. -/
structure Attended (b : Bench) (v : Visit) (b' : Bench) : Prop where
  clock : b.now ≤ v.now
  handles : b.nextHandle ≤ v.nextHandle
  due : ∀ a ∈ b.alarms, v.now ≤ a.due
  now : b'.now = v.now
  node : b'.node = (b.node.visit v).node
  nextHandle : b'.nextHandle = (b.node.visit v).outbox.nextHandle
  alarms : ∃ as, Rung v b.alarms as ∧ b'.alarms = (b.node.visit v).outbox.alarms v.now as

variable {b b' : Bench} {v : Visit}

lemma attended (h : b.attend? v = some b') : b.Attended v b' := by
  simp only [attend?] at h
  split at h
  · rename_i hw
    obtain ⟨hc, hh, hd⟩ := hw
    split at h
    · rename_i timer hv
      simp only [ring?] at h
      split at h
      · cases h
      · rename_i a rest ha
        split at h
        · rename_i hr
          obtain ⟨hdue, rfl⟩ := hr
          cases h
          have hrung : Rung v b.alarms rest := ha ▸ .first rest hv hdue
          exact ⟨hc, hh, hd, rfl, rfl, rfl, rest, hrung, rfl⟩
        · cases h
    · rename_i hv
      cases h
      exact ⟨hc, hh, hd, rfl, rfl, rfl, b.alarms, .none _ hv, rfl⟩
  · cases h

@[simp] lemma run?_nil (b : Bench) : b.run? [] = some b := rfl

lemma run?_cons (b : Bench) (v : Visit) (vs : List Visit) :
    b.run? (v :: vs) = (b.attend? v).bind fun b => b.run? vs := rfl

lemma run?_snoc {vs : List Visit} :
    b.run? (vs ++ [v]) = some b' ↔ ∃ c, b.run? vs = some c ∧ c.attend? v = some b' := by
  rw [run?, List.foldlM_append, Option.bind_eq_bind, Option.bind_eq_some_iff]
  simp [run?]

/-- What every visit of a run keeps, the run keeps. -/
lemma run?_induct {P : Bench → Prop} {vs : List Visit} (h : b.run? vs = some b') (h₀ : P b)
    (step : ∀ v ∈ vs, ∀ b b', P b → b.Attended v b' → P b') : P b' := by
  induction vs generalizing b with
  | nil => exact (Option.some.inj h) ▸ h₀
  | cons v vs ih =>
    rw [run?_cons, Option.bind_eq_some_iff] at h
    obtain ⟨c, hc, h⟩ := h
    exact ih h (step v List.mem_cons_self b c h₀ (attended hc))
      fun w hw => step w (List.mem_cons_of_mem v hw)

end Bench

end ClusterWave
