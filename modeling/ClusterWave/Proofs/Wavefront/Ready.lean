import ClusterWave.Proofs.Bench.Keep
import ClusterWave.Proofs.Wavefront.SingleShot

/-!
# Ready nodes

A node that is ready for a wavefront waits for the timer of its activation. No such timer is armed
for a start that never comes or is over, so that a node may idle: ready, and with nothing to wait
for. The slot of the activation tells whether it does, and only two kinds of visits can bring it
about.
-/

namespace ClusterWave

variable {n : Node} {v : Visit} {t t' : Turn} {as : List Alarm}

/-! ### The start of a node that is ready -/

/-- A node that is ready has a timer for its activation, or a start that never comes or is over. -/
def Node.Awaits (n : Node) (now : Timestamp) : Prop :=
  n.status = .ready → n.slots.activation.isSome ∨
    n.schedule.start.isNever ∨ n.schedule.start < now

lemma Turn.isSome_scheduleActivation
    (h : ¬ (t.node.schedule.start.isNever ∨ t.node.schedule.start < t.now)) :
    t.scheduleActivation.node.slots.activation.isSome := by
  rw [Turn.scheduleActivation_of_ahead h]
  rfl

lemma Turn.awaits_scheduleActivation (t : Turn) : t.scheduleActivation.node.Awaits t.now := by
  intro _
  by_cases h : t.node.schedule.start.isNever ∨ t.node.schedule.start < t.now
  · rw [Turn.schedule_scheduleActivation]
    exact .inr h
  · exact .inl (Turn.isSome_scheduleActivation h)

lemma Move.awaits (m : Move n v t t') (hv : v.call ≠ .timer .activate)
    (h : t.node.Awaits t.now) : t'.node.Awaits t.now := by
  cases m with
  | status hs => exact fun hr => absurd hr hs
  | arm delay hr hne =>
    intro hs
    rw [show (t.arm _ delay _).node.slots.activation = t.node.slots.activation from
      Slots.get_set_of_ne _ _ hne.symm]
    exact h hs
  | forget hne =>
    intro hs
    rw [show (t.setSlot _ none).node.slots.activation = t.node.slots.activation from
      Slots.get_set_of_ne _ _ hne.symm]
    exact h hs
  | @disarm slot hne =>
    rw [Turn.node_disarm]
    intro hs
    rw [show (t.node.slots.set none slot).activation = t.node.slots.activation from
      Slots.get_set_of_ne _ _ hne.symm]
    exact h hs
  | retransmit =>
    rw [Turn.node_retransmit]
    exact h
  | startFirst =>
    by_cases hlt : t.node.schedule.firstStart < t.node.schedule.start
    · rw [Turn.startFirst_of_lt hlt]
      exact Turn.awaits_scheduleActivation (t.setSchedule _)
    · rw [Turn.startFirst_of_not_lt hlt]
      exact h
  | startAlone | adopt | relax => exact Turn.awaits_scheduleActivation (t.setSchedule _)
  | activate hv' => exact absurd hv' hv
  | _ => exact h

/-- An activation lets a node run. -/
lemma Node.status_visit_activate (n : Node) (hv : v.call = .timer .activate) :
    (n.visit v).node.status = .running := by
  rw [n.visit_activate hv, Turn.node_noteRole, Turn.node_activate]

lemma Node.Awaits.visit {now : Timestamp} (h : n.Awaits now) (hnow : now ≤ v.now) :
    (n.visit v).node.Awaits v.now := by
  by_cases hv : v.call = .timer .activate
  · intro hs
    rw [n.status_visit_activate hv] at hs
    cases hs
  · have h₀ : n.Awaits v.now := fun hs => (h hs).imp_right <|
      Or.imp_right fun hlt => Timestamp.lt_of_lt_of_le hlt hnow
    exact ((moves_visit n v).induct (P := fun t => t.now = v.now ∧ t.node.Awaits v.now) ⟨rfl, h₀⟩
      fun t t' ht m => ⟨m.alike.now.trans ht.1, ht.1 ▸ m.awaits hv (ht.1.symm ▸ ht.2)⟩).2

/-! ### The slot of the activation -/

/-- Alarms for the activation are known by their slot. -/
lemma Slots.Hold.visit (h : n.slots.Hold as) (hv : v.call ≠ .timer .activate)
    (hk : Kept n.slots n.reliable.pending v.nextHandle as) :
    (n.visit v).node.slots.Hold ((n.visit v).outbox.alarms v.now as) := by
  have hm := (moves_visit n v).induct
    (P := fun t => t.now = v.now ∧ t.Keeps as ∧ t.node.slots.Hold (t.outbox.alarms t.now as))
    ⟨rfl, hk, h⟩ fun t t' ⟨hn, hk, hh⟩ m =>
      ⟨m.alike.now.trans hn, m.keeps hk, m.hold hv hk.orderly.fresh hh⟩
  exact hm.1 ▸ hm.2.2

/-- When the timer of the activation goes off, no other one is left. -/
lemma Slots.Hold.ring {next : Nat} (h : n.slots.Hold as) (ho : Alarm.Orderly as next) {a : Alarm}
    (ha : a ∈ as) (hat : a.timer = .activate) : ∀ b ∈ as.erase a, b.timer ≠ .activate := by
  intro b hb hbt
  have hm := List.mem_of_mem_erase hb
  have he : b = a := ho.eq_of_handle hm ha
    (Option.some.inj ((h b hm hbt).symm.trans (h a ha hat)))
  exact ho.not_mem_erase a (he ▸ hb)

/-! ### Nodes that idle -/

/-- Whether a node is ready with no timer for its activation in the slot. -/
def Node.Idles (n : Node) : Prop := n.status = .ready ∧ n.slots.activation = none

/-- Whether a visit may let a node idle: clustering ends for a starter that stands alone, or a start
that never comes is announced. -/
def Node.MayStrand (n : Node) (v : Visit) : Prop :=
  v.call = .timer .stop ∧ n.record.isStandalone ∧ n.record.isStarter ∨
    ∃ seq cluster starter direction,
      v.Brings (.intraCluster seq cluster starter Timestamp.never direction)

lemma Timestamp.isNever_iff {t : Timestamp} : t.isNever ↔ t = never := beq_iff_eq

/-- A start that is earlier than another one comes. -/
lemma Timestamp.not_isNever_of_lt {t t' : Timestamp} (h : t < t') : ¬ t.isNever := by
  intro hn
  rw [isNever_iff.1 hn] at h
  exact not_le.2 h (le_never t')

/-- A node gets ready with nothing to wait for if its start never comes or is over. -/
lemma Turn.idles_scheduleActivation_iff : t.scheduleActivation.node.Idles ↔
    (t.node.schedule.start.isNever ∨ t.node.schedule.start < t.now) ∧
      t.node.slots.activation = none := by
  by_cases h : t.node.schedule.start.isNever ∨ t.node.schedule.start < t.now
  · rw [scheduleActivation_of_past h]
    exact ⟨fun hi => ⟨h, hi.2⟩, fun hi => ⟨rfl, hi.2⟩⟩
  · refine iff_of_false (fun hi => ?_) fun hi => h hi.1
    have hsome := isSome_scheduleActivation h
    rw [hi.2] at hsome
    cases hsome

lemma Turn.not_idles_scheduleActivation (hn : ¬ t.node.schedule.start.isNever)
    (hlt : t.now ≤ t.node.schedule.start) : ¬ t.scheduleActivation.node.Idles := fun hi =>
  (idles_scheduleActivation_iff.1 hi).1.elim hn (Timestamp.not_lt.2 hlt)

lemma Node.mayStrand_of_origination (hv : v.call = .timer .stop) {start : Timestamp}
    (h : n.origination? v = some start) : n.MayStrand v := by
  simp only [Node.origination?] at h
  rw [hv] at h
  dsimp only at h
  split at h
  · rename_i hr
    exact .inl ⟨hv, hr⟩
  · cases h

lemma Move.idles (m : Move n v t t') (hv : v.call ≠ .timer .activate) (hi : t'.node.Idles) :
    t.node.Idles ∨ n.MayStrand v := by
  cases m with
  | status hs => exact absurd hi.1 hs
  | arm delay hr hne => exact .inl ⟨hi.1, (Slots.get_set_of_ne _ _ hne.symm).symm.trans hi.2⟩
  | forget hne => exact .inl ⟨hi.1, (Slots.get_set_of_ne _ _ hne.symm).symm.trans hi.2⟩
  | disarm hne =>
    rw [Turn.node_disarm] at hi
    exact .inl ⟨hi.1, (Slots.get_set_of_ne _ _ hne.symm).symm.trans hi.2⟩
  | retransmit =>
    rw [Turn.node_retransmit] at hi
    exact .inl hi
  | startFirst h =>
    by_cases hlt : t.node.schedule.firstStart < t.node.schedule.start
    · rw [Turn.startFirst_of_lt hlt] at hi
      exact absurd hi (Turn.not_idles_scheduleActivation
        (Timestamp.not_isNever_of_lt hlt) (Timestamp.le_of_lt h))
    · rw [Turn.startFirst_of_not_lt hlt] at hi
      exact .inl hi
  | startAlone hs ho => exact .inr (n.mayStrand_of_origination hs ho)
  | @adopt seq cluster starter startTime d hm hnow hle =>
    have hs := (Schedule.adoptStart_of_ahead ⟨hnow, hle⟩ t.node.id).2
    by_cases hnever : startTime.isNever
    · rw [Timestamp.isNever_iff.1 hnever] at hm
      exact .inr (.inr ⟨seq, cluster, starter, d, hm⟩)
    · refine absurd hi (Turn.not_idles_scheduleActivation (t := t.setSchedule _) ?_ ?_)
      · exact hs.symm ▸ hnever
      · exact hs.symm ▸ Timestamp.le_of_lt hnow
  | relax hm travel d hnow hlt =>
    exact absurd hi (Turn.not_idles_scheduleActivation (t := t.setSchedule _)
      (Timestamp.not_isNever_of_lt hlt) (Timestamp.le_of_lt hnow))
  | activate hv' => exact absurd hv' hv
  | _ => exact .inl hi

lemma Node.idles_of_visit (hi : (n.visit v).node.Idles) : n.Idles ∨ n.MayStrand v := by
  have hv : v.call ≠ .timer .activate := by
    intro hv
    have hr := hi.1
    rw [n.status_visit_activate hv] at hr
    cases hr
  exact (moves_visit n v).induct (P := fun t => t.node.Idles → n.Idles ∨ n.MayStrand v) .inl
    (fun t t' ih m hi => (m.idles hv hi).elim ih .inr) hi

/-! ### Benches -/

namespace Bench

variable {b b' b₀ : Bench}

/-- Whether the node is ready and there is no alarm for its activation. -/
def Stranded (b : Bench) : Prop := b.node.status = .ready ∧ ∀ a ∈ b.alarms, a.timer ≠ .activate

lemma Serves.hold (hs : b.Serves v b') (hk : b.Keeps) (h : b.node.slots.Hold b.alarms) :
    b'.node.slots.Hold b'.alarms := by
  obtain ⟨as, hl, has⟩ := hs.alarms
  have hk' := Kept.mono hk hs.handles
  rw [hs.node, has]
  cases hl with
  | all hc => exact h.visit (hc _) hk'
  | @others a ha hc =>
    by_cases hv : v.call = .timer .activate
    · have hnone := h.ring hk.orderly ha (Call.timer.inj (hc.symm.trans hv))
      rw [b.node.visit_activate hv, Turn.outbox_noteRole]
      intro c hcm hct
      rcases b.node.mem_alarms_activate hv hcm with hcm | ⟨hne, -⟩
      · exact absurd hct (hnone c hcm)
      · exact absurd hct hne
    · rw [← b.node.visit_release hc]
      refine Slots.Hold.visit (n := { b.node with slots := _ }) (fun c hcm hct => ?_) hv hk'.ring
      have hslot := h c (List.mem_of_mem_erase hcm) hct
      simp only [Slots.release]
      split
      · exact hslot
      · rename_i slot hr
        have hne : Slot.activation ≠ slot := by
          rintro rfl
          exact hv (hc.trans (congrArg Call.timer (Timer.eq_of_slot? hr rfl (by decide))))
        exact (Slots.get_set_of_ne _ _ hne).trans hslot

/-- What is known of the activation at a bench: a node that is ready awaits it, and the slot tells
which alarm is the one for it. -/
structure Poised (b : Bench) : Prop where
  keeps : b.Keeps
  awaits : b.node.Awaits b.now
  hold : b.node.slots.Hold b.alarms

namespace Poised

lemma of_isNew (hn : b.node.IsNew) (ha : b.alarms = []) : b.Poised := by
  refine ⟨.of_isNew hn ha, fun hs => ?_, fun a hm => ?_⟩
  · rw [hn.waiting.1] at hs
    cases hs
  · rw [ha] at hm
    cases hm

lemma serves (h : b.Poised) (hs : b.Serves v b') : b'.Poised := by
  refine ⟨h.keeps.serves hs, ?_, hs.hold h.keeps h.hold⟩
  rw [hs.node, hs.now]
  exact h.awaits.visit hs.clock

lemma reaches (h : b₀.Poised) (hr : b₀.Reaches b) : b.Poised := by
  induction hr with
  | refl => exact h
  | step _ hs ih => exact ih.serves hs

lemma exists_alarm (h : b.Poised) (hs : b.node.slots.activation.isSome) :
    ∃ a ∈ b.alarms, a.timer = .activate :=
  h.keeps.exists_alarm .activation hs rfl (by decide)

/-- A bench is stranded exactly if the node idles. -/
lemma stranded_iff (h : b.Poised) : b.Stranded ↔ b.node.Idles := by
  constructor
  · rintro ⟨hs, hnone⟩
    refine ⟨hs, Option.not_isSome_iff_eq_none.1 fun hsome => ?_⟩
    obtain ⟨a, ha, hat⟩ := h.exists_alarm hsome
    exact hnone a ha hat
  · rintro ⟨hs, hslot⟩
    refine ⟨hs, fun a ha hat => ?_⟩
    have hheld := h.hold a ha hat
    rw [hslot] at hheld
    cases hheld

end Poised

end Bench

end ClusterWave
