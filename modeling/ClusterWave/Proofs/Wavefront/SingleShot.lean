import ClusterWave.Proofs.Bench.Attend
import ClusterWave.Proofs.Wavefront.Ratchet

/-!
# A wavefront passes once

Unless waves run in reverse, a node that is started once activates at most once, and the time at
which it will do so never moves later. An activation is armed only for a start that lies ahead, and
once the node has activated its start is over. The end of clustering schedules the node without
looking at its start; but its timer is armed before every activation, so it goes off before an
activation that is due at the same time, or else the start is over by then.
-/

namespace ClusterWave

/-- What holds of a node with some alarms that activates at most once. -/
structure Node.SingleShot (n : Node) (now : Timestamp) (next : Nat) (as : List Alarm) : Prop where
  orderly : Alarm.Orderly as next
  forward : n.settings.reverse = false
  armed : ∀ a ∈ as, a.timer = .activate → n.slots.activation = some a.handle ∧
    n.counters.activations = 0 ∧ n.schedule.start ≤ a.due
  stopFirst : ∀ a ∈ as, ∀ a' ∈ as, a.timer = .stop → a'.timer = .activate →
    a.handle.val < a'.handle.val
  once : n.counters.activations = 0 ∨ n.counters.activations = 1 ∧ n.schedule.start ≤ now ∧
    ∀ a ∈ as, a.timer = .stop → n.schedule.start < a.due

/-- What holds at a turn that began with some alarms. -/
structure Turn.SingleShot (v : Visit) (as : List Alarm) (t : Turn) : Prop where
  node : t.node.SingleShot t.now t.outbox.nextHandle (t.outbox.alarms t.now as)
  late : v.call = .timer .stop → t.node.counters.activations = 1 → t.node.schedule.start < t.now

variable {n : Node} {v : Visit} {t t' : Turn} {as : List Alarm}

/-! ### What is armed -/

/-- A new alarm for the activation, from the turn in which it is armed on. -/
structure Turn.Arms (v : Visit) (next : Nat) (t : Turn) (a : Alarm) : Prop where
  due : a.due = t.node.schedule.start
  new : next ≤ a.handle.val
  ahead : t.now ≤ t.node.schedule.start
  /-- The start lies ahead, unless clustering ends just now. -/
  late : t.now < t.node.schedule.start ∨ v.call = .timer .stop

section

variable {a : Alarm}

/-- An alarm for the activation was there before, or it is a new one, and goes off at the start. -/
lemma Move.mem_alarms_of_activate (m : Move n v t t') (hf : t.node.settings.reverse = false)
    (ha : a ∈ t'.outbox.alarms t'.now as) (hat : a.timer = .activate) :
    a ∈ t.outbox.alarms t.now as ∨ t'.Arms v t.outbox.nextHandle a := by
  rcases m.mem_alarms ha with ha | ⟨delay, hdue, hnew, hask⟩
  · exact .inl ha
  · rw [hat] at hask
    obtain ⟨hahead, hlate, -, rfl⟩ := hask.of_activate
    rw [m.alike.settings, hf, if_neg Bool.false_ne_true, Timestamp.add_since hahead] at hdue
    exact .inr ⟨hdue, hnew, hahead, hlate⟩

/-- An alarm for the end of clustering is armed at the start of the node only. -/
lemma Move.mem_alarms_of_stop (m : Move n v t t') (hs : v.call ≠ .start)
    (ha : a ∈ t'.outbox.alarms t'.now as) (hat : a.timer = .stop) :
    a ∈ t.outbox.alarms t.now as := by
  rcases m.mem_alarms ha with ha | ⟨delay, -, -, hask⟩
  · exact ha
  · rw [hat] at hask
    exact absurd hask.of_stop hs

end

/-! ### The slot of the activation -/

lemma Turn.nextHandle_disarm (t : Turn) (slot : Slot) :
    (t.disarm slot).outbox.nextHandle = t.outbox.nextHandle := by
  simp only [Turn.disarm]
  split <;> rfl

lemma Turn.mem_alarms_disarm {slot : Slot} {now : Timestamp} {a : Alarm}
    (h : a ∈ (t.disarm slot).outbox.alarms now as) :
    a ∈ t.outbox.alarms now as ∧ t.node.slots.get slot ≠ some a.handle := by
  unfold Turn.disarm at h
  split at h
  · rename_i hs
    rw [hs]
    exact ⟨h, by simp⟩
  · rename_i handle hs
    dsimp only at h
    rw [Outbox.alarms_cancel, List.mem_filter, bne_iff_ne] at h
    rw [hs]
    exact ⟨h.1, fun he => h.2 (Option.some.inj he).symm⟩

/-- The alarms under a slot are new ones, or the slot is as it was. -/
def Turn.Renews (as : List Alarm) (t t' : Turn) : Prop :=
  t'.node.slots.activation = t.node.slots.activation ∨
    ∀ a ∈ t'.outbox.alarms t.now as, t.node.slots.activation = some a.handle →
      t.outbox.nextHandle ≤ a.handle.val

lemma Turn.renews_scheduleActivation (t : Turn) : t.Renews as t.scheduleActivation := by
  by_cases h : t.node.schedule.start.isNever ∨ t.node.schedule.start < t.now
  · rw [Turn.scheduleActivation_of_past h]
    exact .inl rfl
  · rw [Turn.scheduleActivation_of_ahead h]
    refine .inr fun a ha hs => ?_
    rw [Turn.arm, Turn.schedule, Outbox.alarms_schedule, Alarm.mem_insert] at ha
    rcases ha with rfl | ha
    · exact Nat.le_of_eq (Turn.nextHandle_disarm (t.setStatus .ready) _).symm
    · exact absurd hs (Turn.mem_alarms_disarm (t := t.setStatus .ready) ha).2

/-- Whoever touches the slot of the activation cancels the alarm that was kept in it. -/
lemma Move.renews (m : Move n v t t') (as : List Alarm) (ha : v.call ≠ .timer .activate) :
    t.Renews as t' := by
  cases m with
  | arm delay h hne => exact .inl (Slots.get_set_of_ne _ _ hne.symm)
  | disarm h =>
    refine .inl ?_
    rw [Turn.node_disarm]
    exact Slots.get_set_of_ne _ _ h.symm
  | forget h => exact .inl (Slots.get_set_of_ne _ _ h.symm)
  | retransmit =>
    refine .inl ?_
    rw [Turn.node_retransmit]
  | startFirst =>
    by_cases hlt : t.node.schedule.firstStart < t.node.schedule.start
    · rw [Turn.startFirst_of_lt hlt]
      exact Turn.renews_scheduleActivation (t.setSchedule _)
    · rw [Turn.startFirst_of_not_lt hlt]
      exact .inl rfl
  | startAlone => exact Turn.renews_scheduleActivation (t.setSchedule _)
  | adopt => exact Turn.renews_scheduleActivation (t.setSchedule _)
  | relax => exact Turn.renews_scheduleActivation (t.setSchedule _)
  | activate hv => exact absurd hv ha
  | _ => exact .inl rfl

/-- The handle of every alarm for the activation is kept in its slot. -/
def Slots.Hold (slots : Slots) (as : List Alarm) : Prop :=
  ∀ a ∈ as, a.timer = .activate → slots.activation = some a.handle

/-- A new alarm for the activation is kept in the slot, and an old one that is not is cancelled. -/
lemma Move.hold (m : Move n v t t') (hv : v.call ≠ .timer .activate)
    (hf : ∀ a ∈ t.outbox.alarms t.now as, a.handle.val < t.outbox.nextHandle)
    (h : t.node.slots.Hold (t.outbox.alarms t.now as)) :
    t'.node.slots.Hold (t'.outbox.alarms t'.now as) := by
  intro a ha hat
  rcases m.mem_alarms ha with hold | ⟨delay, -, -, hask⟩
  · rcases m.renews as hv with he | hnew
    · exact he.trans (h a hold hat)
    · rw [m.alike.now] at ha
      exact absurd (hf a hold) (Nat.not_lt.2 (hnew a ha (h a hold hat)))
  · rw [hat] at hask
    exact hask.of_activate.2.2.1

/-! ### Moves -/

/-- Nothing is armed for a start that is over. -/
lemma Turn.SingleShot.not_arms (m : Move n v t t') (ha : v.call ≠ .timer .activate)
    (h : t.SingleShot v as) {next : Nat} {a : Alarm} (harms : t'.Arms v next a) :
    t'.node.counters.activations = 0 := by
  have hle : t'.node.schedule.start ≤ t.node.schedule.start := m.ratchet.start
  have hact := m.activations_eq ha
  rcases h.node.once with h0 | ⟨h1, hover, -⟩
  · exact hact.trans h0
  · exfalso
    rcases harms.late with hlt | hv
    · rw [m.alike.now] at hlt
      exact Timestamp.not_le.2 hlt (Timestamp.le_trans hle hover)
    · have hlt := Timestamp.lt_of_le_of_lt hle (h.late hv h1)
      have hahead := harms.ahead
      rw [m.alike.now] at hahead
      exact Timestamp.not_le.2 hlt hahead

/-- Every move keeps what makes a node activate at most once, but for the activation itself. -/
lemma Move.singleShot (m : Move n v t t') (hs : v.call ≠ .start) (ha : v.call ≠ .timer .activate)
    (h : t.SingleShot v as) : t'.SingleShot v as := by
  have hn := h.node
  have hle : t'.node.schedule.start ≤ t.node.schedule.start := m.ratchet.start
  have hact := m.activations_eq ha
  have hnow := m.alike.now
  refine ⟨⟨?_, ?_, fun a hm hat => ?_, fun a hm a' hm' hat hat' => ?_, ?_⟩, fun hv h1 => ?_⟩
  · rw [hnow]
    exact m.asked.orderly hn.orderly
  · rw [m.alike.settings]
    exact hn.forward
  · have hslot := m.hold ha hn.orderly.fresh (fun a hm hat => (hn.armed a hm hat).1) a hm hat
    rcases m.mem_alarms_of_activate hn.forward hm hat with hold | harms
    · obtain ⟨-, h0, hdue⟩ := hn.armed a hold hat
      exact ⟨hslot, hact.trans h0, Timestamp.le_trans hle hdue⟩
    · refine ⟨hslot, h.not_arms m ha harms, ?_⟩
      rw [harms.due]
      exact Timestamp.le_refl _
  · have hold := m.mem_alarms_of_stop hs hm hat
    rcases m.mem_alarms_of_activate hn.forward hm' hat' with hold' | harms
    · exact hn.stopFirst a hold a' hold' hat hat'
    · exact Nat.lt_of_lt_of_le (hn.orderly.fresh a hold) harms.new
  · rcases hn.once with h0 | ⟨h1, hover, hstop⟩
    · exact .inl (hact.trans h0)
    · rw [hnow]
      refine .inr ⟨hact.trans h1, Timestamp.le_trans hle hover, fun a hm hat => ?_⟩
      rw [← hnow] at hm
      exact Timestamp.lt_of_le_of_lt hle (hstop a (m.mem_alarms_of_stop hs hm hat) hat)
  · rw [hnow]
    exact Timestamp.lt_of_le_of_lt hle (h.late hv (hact ▸ h1))

/-! ### Visits -/

/-- Taking the role down changes nothing that matters here. -/
lemma Turn.singleShot_noteRole {now : Timestamp} {next : Nat} {t : Turn}
    (h : t.node.SingleShot now next as) (before : Degree × Option NodeId) :
    (t.noteRole before).node.SingleShot now next as := by
  simp only [Turn.noteRole]
  split
  · exact h
  · exact ⟨h.orderly, h.forward, h.armed, h.stopFirst, h.once⟩

lemma Turn.activation_activate (t : Turn) :
    t.activate.node.slots.activation = t.node.slots.activation := by
  simp only [Turn.activate]
  split
  · rw [Turn.node_arm, Turn.node_disarm]
    rfl
  · rfl

lemma Turn.node_onStart (t : Turn) : t.onStart.node = t.locate.node := by
  simp only [Turn.onStart]
  split <;> split <;> rfl

/-- Whether an effect arms something else than an activation. -/
def Effect.ArmsNoActivation (e : Effect) : Prop :=
  ∀ handle delay, e ≠ .schedule handle delay .activate

lemma Turn.steps_onStart (t : Turn) :
    Outbox.Steps Effect.ArmsNoActivation t.outbox t.onStart.outbox := by
  have arm (o : Outbox) (delay : Duration) {timer : Timer} (h : timer ≠ .activate) :
      Outbox.Step Effect.ArmsNoActivation o (o.schedule delay timer) :=
    .schedule o fun _ _ he => h (Effect.schedule.inj he).2.2
  simp only [Turn.onStart]
  split <;> split
  · exact ((arm _ _ (by decide)).steps.tail (arm _ _ (by decide))).tail (arm _ _ (by decide))
  · exact (arm _ _ (by decide)).steps.tail (arm _ _ (by decide))
  · exact (arm _ _ (by decide)).steps.tail (arm _ _ (by decide))
  · exact (arm _ _ (by decide)).steps

/-- The turn in which a node has taken the timer of its activation down. -/
def Node.ringing (n : Node) (v : Visit) : Turn :=
  (Turn.start n v.now v.position v.nextHandle).locate.setSlot .activation none

lemma Node.visit_activate (n : Node) (hv : v.call = .timer .activate) :
    n.visit v = (n.ringing v).activate.noteRole n.record.role := n.visit_timer hv

lemma Node.steps_activate (n : Node) (hv : v.call = .timer .activate) :
    Outbox.Steps (Asked n v (n.ringing v).activate) (Outbox.fresh v.nextHandle)
      (n.ringing v).activate.outbox := by
  refine .activate (n.ringing v) hv ?_
  rw [Turn.node_activate]

/-- An activation arms no other one, and no end of clustering. -/
lemma Node.mem_alarms_activate (n : Node) (hv : v.call = .timer .activate) {b : Alarm}
    (hb : b ∈ (n.ringing v).activate.outbox.alarms v.now as) :
    b ∈ as ∨ b.timer ≠ .activate ∧ b.timer ≠ .stop := by
  rcases (n.steps_activate hv).mem_alarms hb with hb | ⟨delay, -, -, hask⟩
  · exact .inl hb
  · refine .inr ⟨fun hbt => ?_, fun hbt => ?_⟩
    · rw [hbt] at hask
      have hslot := hask.of_activate.2.2.1
      rw [Turn.activation_activate] at hslot
      cases hslot
    · rw [hbt] at hask
      have hstart := hask.of_stop
      rw [hv] at hstart
      cases hstart

namespace Node.SingleShot

variable {now now' : Timestamp} {next next' : Nat} {a : Alarm}

/-- Time passes, and an alarm may go off. -/
lemma later (h : n.SingleShot now next as) (hnow : now ≤ now') (hnext : next ≤ next')
    {as' : List Alarm} (hr : Bench.Rung v as as') : n.SingleShot now' next' as' := by
  refine ⟨?_, h.forward, fun a ha => h.armed a (hr.mem ha),
    fun a ha a' ha' => h.stopFirst a (hr.mem ha) a' (hr.mem ha'), ?_⟩
  · cases hr with
    | none => exact h.orderly.mono hnext
    | first => exact h.orderly.tail.mono hnext
  · rcases h.once with h0 | ⟨h1, hover, hstop⟩
    · exact .inl h0
    · exact .inr ⟨h1, Timestamp.le_trans hover hnow, fun a ha => hstop a (hr.mem ha)⟩

/-- An activation is the first one and the only one that was armed. From then on every alarm for the
end of clustering goes off after the start. -/
lemma activation (h : n.SingleShot now next (a :: as)) (hat : a.timer = .activate)
    (hv : v.call = .timer .activate) (hdue : a.due = v.now) (hnext : next ≤ v.nextHandle) :
    (n.visit v).node.SingleShot v.now (n.visit v).outbox.nextHandle
      ((n.visit v).outbox.alarms v.now as) := by
  obtain ⟨hslot, h0, hstart⟩ := h.armed a List.mem_cons_self hat
  have hnone (b : Alarm) (hb : b ∈ (n.ringing v).activate.outbox.alarms v.now as) :
      b.timer ≠ .activate := by
    intro hbt
    rcases n.mem_alarms_activate hv hb with hb | ⟨hne, -⟩
    · have hslot' := (h.armed b (List.mem_cons_of_mem a hb) hbt).1
      exact h.orderly.ne_of_mem hb (Option.some.inj (hslot.symm.trans hslot'))
    · exact hne hbt
  have hafter (b : Alarm) (hb : b ∈ (n.ringing v).activate.outbox.alarms v.now as)
      (hbt : b.timer = .stop) : n.schedule.start < b.due := by
    rcases n.mem_alarms_activate hv hb with hb | ⟨-, hne⟩
    · -- it was armed earlier, so it would have gone off first
      have hlt := h.stopFirst b (List.mem_cons_of_mem a hb) a List.mem_cons_self hbt hat
      rcases Alarm.before_iff.1 (h.orderly.before_of_mem hb) with hlt' | ⟨-, hlt'⟩
      · exact Timestamp.lt_of_le_of_lt hstart hlt'
      · exact absurd hlt (Nat.lt_asymm hlt')
    · exact absurd hbt hne
  have hact : (n.ringing v).activate.node.counters.activations = 1 := by
    rw [Turn.activations_activate]
    exact congrArg (· + 1) h0
  have hsched : (n.ringing v).activate.node.schedule = n.schedule := by
    rw [Turn.node_activate]
    rfl
  rw [n.visit_activate hv, Turn.outbox_noteRole]
  refine Turn.singleShot_noteRole ⟨?_, ?_, ?_, ?_, .inr ⟨hact, ?_, ?_⟩⟩ _
  · exact (n.steps_activate hv).orderly (h.orderly.tail.mono hnext)
  · rw [Turn.node_activate]
    exact h.forward
  · exact fun b hb hbt => absurd hbt (hnone b hb)
  · exact fun b hb b' hb' _ hbt => absurd hbt (hnone b' hb')
  · rw [hsched, ← hdue]
    exact hstart
  · rw [hsched]
    exact hafter

/-- What makes a node activate at most once is kept from visit to visit, if it is not started
again. -/
lemma visit (h : n.SingleShot now next as) (hs : v.call ≠ .start) (hnow : now ≤ v.now)
    (hnext : next ≤ v.nextHandle) {as' : List Alarm} (hr : Bench.Rung v as as') :
    (n.visit v).node.SingleShot v.now (n.visit v).outbox.nextHandle
      ((n.visit v).outbox.alarms v.now as') := by
  by_cases ha : v.call = .timer .activate
  · cases hr with
    | none _ hne => exact absurd ha (hne _)
    | @first a _ hv hd =>
      have hat : a.timer = .activate := Call.timer.inj (hv.symm.trans ha)
      exact h.activation hat ha hd hnext
  · have hl := h.later hnow hnext hr
    have h₀ : (Turn.start n v.now v.position v.nextHandle).SingleShot v as' := by
      refine ⟨hl, fun hv h1 => ?_⟩
      cases hr with
      | none _ hne => exact absurd hv (hne _)
      | @first a _ hv' hd =>
        have hst : a.timer = .stop := Call.timer.inj (hv'.symm.trans hv)
        rcases h.once with h0 | ⟨-, -, hstop⟩
        · exact absurd (h0.symm.trans h1) (by decide)
        · exact hd ▸ hstop a List.mem_cons_self hst
    have hm := (moves_visit n v).induct (P := fun t => t.now = v.now ∧ t.SingleShot v as')
      ⟨rfl, h₀⟩ fun t t' ht m => ⟨m.alike.now.trans ht.1, m.singleShot hs ha ht.2⟩
    exact hm.1 ▸ hm.2.node

/-- The start of a node arms no activation. -/
lemma start (hv : v.call = .start) (hf : n.settings.reverse = false)
    (h0 : n.counters.activations = 0) :
    (n.visit v).node.SingleShot v.now (n.visit v).outbox.nextHandle
      ((n.visit v).outbox.alarms v.now []) := by
  have hsteps := Turn.steps_onStart (Turn.start n v.now v.position v.nextHandle)
  rw [n.visit_of_start hv]
  have hnone : ∀ a ∈ (Turn.start n v.now v.position v.nextHandle).onStart.outbox.alarms v.now [],
      a.timer ≠ .activate := by
    intro a ha hat
    rcases hsteps.mem_alarms ha with ha | ⟨delay, -, -, hne⟩
    · cases ha
    · exact hne a.handle delay (by rw [hat])
  refine ⟨hsteps.orderly (.nil _), ?_, fun a ha hat => absurd hat (hnone a ha),
    fun a ha a' ha' _ hat => absurd hat (hnone a' ha'), .inl ?_⟩
  · rw [Turn.node_onStart]
    exact hf
  · rw [Turn.node_onStart]
    exact h0

end Node.SingleShot

/-! ### Runs -/

/-- The node with its alarms is going to activate by a given time, if it does. -/
structure Node.ActivatesBy (n : Node) (due : Timestamp) (as : List Alarm) : Prop where
  forward : n.settings.reverse = false
  start : n.schedule.start ≤ due
  armed : ∀ a ∈ as, a.timer = .activate → a.due ≤ due

lemma Move.activatesBy {due : Timestamp} (m : Move n v t t')
    (h : t.node.ActivatesBy due (t.outbox.alarms t.now as)) :
    t'.node.ActivatesBy due (t'.outbox.alarms t'.now as) := by
  have hs : t'.node.schedule.start ≤ due := Timestamp.le_trans m.ratchet.start h.start
  refine ⟨m.alike.settings ▸ h.forward, hs, fun a ha hat => ?_⟩
  rcases m.mem_alarms_of_activate h.forward ha hat with ha | harms
  · exact h.armed a ha hat
  · exact harms.due ▸ hs

lemma Node.ActivatesBy.visit {due : Timestamp} (h : n.ActivatesBy due as) :
    (n.visit v).node.ActivatesBy due ((n.visit v).outbox.alarms v.now as) := by
  have hm := (moves_visit n v).induct
    (P := fun t => t.now = v.now ∧ t.node.ActivatesBy due (t.outbox.alarms t.now as))
    ⟨rfl, h⟩ fun t t' ht m => ⟨m.alike.now.trans ht.1, m.activatesBy ht.2⟩
  exact hm.1 ▸ hm.2

namespace Bench

variable {b b' : Bench}

def SingleShot (b : Bench) : Prop := b.node.SingleShot b.now b.nextHandle b.alarms

def ActivatesBy (b : Bench) (due : Timestamp) : Prop := b.node.ActivatesBy due b.alarms

lemma SingleShot.attended (h : b.SingleShot) (hs : v.call ≠ .start) (ha : b.Attended v b') :
    b'.SingleShot := by
  obtain ⟨as, hr, has⟩ := ha.alarms
  simp only [SingleShot]
  rw [ha.node, ha.now, ha.nextHandle, has]
  exact Node.SingleShot.visit h hs ha.clock ha.handles hr

lemma ActivatesBy.attended {due : Timestamp} (h : b.ActivatesBy due) (ha : b.Attended v b') :
    b'.ActivatesBy due := by
  obtain ⟨as, hr, has⟩ := ha.alarms
  simp only [ActivatesBy]
  rw [ha.node, has]
  exact Node.ActivatesBy.visit ⟨h.forward, h.start, fun a hm => h.armed a (hr.mem hm)⟩

/-- Two alarms for the activation are the same one, and it goes off at the start or later. -/
lemma SingleShot.activatesBy (h : b.SingleShot) {a : Alarm} (ha : a ∈ b.alarms)
    (hat : a.timer = .activate) : b.ActivatesBy a.due := by
  obtain ⟨hslot, -, hstart⟩ := h.armed a ha hat
  refine ⟨h.forward, hstart, fun a' ha' hat' => ?_⟩
  have hslot' := (h.armed a' ha' hat').1
  rw [h.orderly.eq_of_handle ha' ha (Option.some.inj (hslot'.symm.trans hslot))]
  exact Timestamp.le_refl _

/-- A new node that is started once, before everything else, activates at most once in every run of
a bench that behaves well, and the time for which its activation is armed never moves later. -/
theorem activates_once {b₀ : Bench} {v₀ : Visit} {vs ws : List Visit} (hn : b₀.node.IsNew)
    (hf : b₀.node.settings.reverse = false) (ha : b₀.alarms = []) (h₀ : v₀.call = .start)
    (hs : ∀ v ∈ vs ++ ws, v.call ≠ .start) (hb : b₀.run? (v₀ :: vs) = some b)
    (hb' : b.run? ws = some b') :
    b'.node.counters.activations ≤ 1 ∧ ∀ a ∈ b.alarms, ∀ a' ∈ b'.alarms,
      a.timer = .activate → a'.timer = .activate → a'.due ≤ a.due := by
  have hsb : b.SingleShot := by
    rw [run?_cons, Option.bind_eq_some_iff] at hb
    obtain ⟨c, hc, hb⟩ := hb
    refine run?_induct hb ?_ fun v hv b b' h hab =>
      h.attended (hs v (List.mem_append_left ws hv)) hab
    have hat := Bench.attended hc
    obtain ⟨as, hr, has⟩ := hat.alarms
    have hnil : as = [] := by
      rw [ha] at hr
      cases hr
      rfl
    simp only [SingleShot]
    rw [hat.node, hat.now, hat.nextHandle, has, hnil]
    exact .start h₀ hf (congrArg Counters.activations hn.blank.2.2.1)
  have hsb' : b'.SingleShot := run?_induct hb' hsb fun v hv b b' h hab =>
    h.attended (hs v (List.mem_append_right vs hv)) hab
  refine ⟨?_, fun a hm a' hm' hat hat' => ?_⟩
  · rcases hsb'.once with h | ⟨h, -⟩
    · exact h.symm ▸ Nat.zero_le 1
    · exact Nat.le_of_eq h
  · have hby : b'.ActivatesBy a.due := run?_induct (P := fun b => b.ActivatesBy a.due) hb'
      (hsb.activatesBy hm hat) fun v _ b b' h hab => h.attended hab
    exact hby.armed a' hm' hat'

/-- Settings under which clustering ends at once and begins only later. -/
def hastySettings : Settings :=
  { Settings.standard with
    clusteringStart := .ofSecs 60
    clusteringStop := some .zero }

/-- A starter on its own is scheduled at the end of clustering and activates five seconds later. -/
theorem lone_starter_activates_once : ∃ (b₀ b b' : Bench) (v₀ : Visit) (vs ws : List Visit),
    b₀.node.IsNew ∧ b₀.node.settings.reverse = false ∧ b₀.alarms = [] ∧ v₀.call = .start ∧
      (∀ v ∈ vs ++ ws, v.call ≠ .start) ∧ b₀.run? (v₀ :: vs) = some b ∧ b.run? ws = some b' ∧
      (∃ a ∈ b.alarms, a.timer = .activate) ∧ b'.node.counters.activations = 1 ∧
      b'.node.counters.activations ≤ 1 ∧ ∀ a ∈ b.alarms, ∀ a' ∈ b'.alarms,
        a.timer = .activate → a'.timer = .activate → a'.due ≤ a.due := by
  let v₀ : Visit := ⟨.start, Vec3.zero, 1, .start⟩
  let v₁ : Visit := ⟨.start, Vec3.zero, 3, .timer .stop⟩
  let v₂ : Visit := ⟨.ofSecs 5, Vec3.zero, 4, .timer .activate⟩
  have hrun : ((Node.create ⟨1⟩ hastySettings true (some Vec2.zero)).toOption.any fun n =>
      !n.settings.reverse && ((Bench.setUp n Vec3.zero).run? [v₀, v₁]).any fun b =>
        b.alarms.any (fun a => a.timer = .activate) && (b.run? [v₂]).any fun b' =>
          b'.node.counters.activations = 1) = true := by decide +kernel
  simp only [Option.any_eq_true, Bool.and_eq_true, Bool.not_eq_true', List.any_eq_true,
    decide_eq_true_eq] at hrun
  obtain ⟨n, hn, hf, b, hb, harmed, b', hb', h1⟩ := hrun
  have hnew : n.IsNew := .of_toOption hn
  have hs : ∀ v ∈ [v₁] ++ [v₂], v.call ≠ .start := by decide
  exact ⟨.setUp n Vec3.zero, b, b', v₀, [v₁], [v₂], hnew, hf, rfl, rfl, hs, hb, hb', harmed, h1,
    activates_once hnew hf rfl rfl hs hb hb'⟩

end Bench

end ClusterWave
