import ClusterWave.Proofs.Bench.Match
import ClusterWave.Proofs.Wavefront.Ahead
import ClusterWave.Proofs.Wavefront.Ready

/-!
# Schedules that are announced again

A head announces the schedule of its cluster time and again, as long as the wavefront has not
started. A starter that takes over a start takes over the same start again, and schedules its
activation anew. Unless waves run in reverse that changes nothing, as the activation is due at the
start. But in reverse it is due after a delay, which then begins anew: each announcement puts the
activation off, and the starter activates only once none arrives for as long as the delay.
-/

namespace ClusterWave

/-- What a head announces: where and when the wavefront starts in its cluster. -/
structure Notice where
  cluster : NodeId
  starter : NodeId
  startTime : Timestamp
deriving DecidableEq

/-- The message with which a schedule is announced. -/
def Notice.message (s : Notice) (seq : UInt64) (direction : Vec2) : Message :=
  .intraCluster seq s.cluster s.starter s.startTime direction

/-- Whether a node takes the start of a schedule over at a given time. -/
structure Node.TakesOver (n : Node) (now : Timestamp) (s : Notice) : Prop where
  member : n.record.isMember ∧ n.record.cluster = some s.cluster
  starter : s.starter = n.id ∧ n.mayStart ∧ (n.status = .update ∨ n.status = .ready)
  ahead : now < s.startTime
  notLater : s.startTime ≤ n.schedule.start

lemma Node.takesOver_iff {n : Node} {now : Timestamp} {s : Notice} : n.TakesOver now s ↔
    (n.record.isMember ∧ n.record.cluster = some s.cluster) ∧
      (s.starter = n.id ∧ n.mayStart ∧ (n.status = .update ∨ n.status = .ready)) ∧
      now < s.startTime ∧ s.startTime ≤ n.schedule.start :=
  ⟨fun h => ⟨h.member, h.starter, h.ahead, h.notLater⟩, fun h => ⟨h.1, h.2.1, h.2.2.1, h.2.2.2⟩⟩

instance (n : Node) (now : Timestamp) (s : Notice) : Decidable (n.TakesOver now s) :=
  decidable_of_iff _ Node.takesOver_iff.symm

/-- From one turn to another a node handles a message of a packet that arrives. -/
def Node.Reads (n : Node) (v : Visit) (m : Message) (t t' : Turn) : Prop :=
  ∃ sender before after, v.call = .packet sender ⟨before ++ m :: after⟩ ∧
    t = before.foldl (Turn.onMessage sender)
      (Turn.start n v.now v.position v.nextHandle).receive ∧
    t' = t.onMessage sender m

/-- The alarms for the activation at a turn that began with some alarms. -/
def Turn.activations (t : Turn) (as : List Alarm) : List Alarm :=
  (t.outbox.alarms t.now as).filter fun a => a.timer = .activate

/-- Whether the start comes for which an activation is armed. -/
def Node.Comes (n : Node) : Prop := n.slots.activation.isSome → ¬ n.schedule.start.isNever

variable {n : Node} {v : Visit} {t t' : Turn} {as : List Alarm} {s : Notice} {sender : NodeId}
  {seq : UInt64} {d : Vec2} {a : Alarm}

/-! ### Starts that come -/

lemma Timestamp.not_isNever_of_le {t t' : Timestamp} (h : t ≤ t') (h' : ¬ t'.isNever) :
    ¬ t.isNever := by
  intro hn
  rw [isNever_iff.1 hn] at h
  exact h' (isNever_iff.2 (le_antisymm (le_never t') h))

lemma Turn.comes_scheduleActivation (h : t.node.Comes) : t.scheduleActivation.node.Comes := by
  by_cases hp : t.node.schedule.start.isNever ∨ t.node.schedule.start < t.now
  · rw [Turn.scheduleActivation_of_past hp]
    exact h
  · intro _
    rw [Turn.schedule_scheduleActivation]
    exact fun hn => hp (.inl hn)

/-- Starts only move earlier, so that one that comes does not go away. -/
lemma Move.comes (m : Move n v t t') (h : t.node.Comes) : t'.node.Comes := by
  have earlier (u : Turn) (hs : u.node.slots = t.node.slots)
      (hle : u.node.schedule.start ≤ t.node.schedule.start) : u.node.Comes := by
    intro hsome
    rw [hs] at hsome
    exact Timestamp.not_isNever_of_le hle (h hsome)
  have hle : t'.node.schedule.start ≤ t.node.schedule.start := m.ratchet.start
  cases m with
  | @arm slot timer delay hr hne =>
    intro hs
    have hslot : (t.arm slot delay timer).node.slots.activation = t.node.slots.activation :=
      Slots.get_set_of_ne _ _ hne.symm
    rw [hslot] at hs
    exact h hs
  | @forget slot hne =>
    intro hs
    have hslot : (t.setSlot slot none).node.slots.activation = t.node.slots.activation :=
      Slots.get_set_of_ne _ _ hne.symm
    rw [hslot] at hs
    exact h hs
  | @disarm slot hne =>
    rw [Turn.node_disarm]
    intro hs
    have hslot : (t.node.slots.set none slot).activation = t.node.slots.activation :=
      Slots.get_set_of_ne _ _ hne.symm
    rw [hslot] at hs
    exact h hs
  | retransmit =>
    rw [Turn.node_retransmit]
    exact h
  | startFirst =>
    by_cases hlt : t.node.schedule.firstStart < t.node.schedule.start
    · rw [Turn.startFirst_of_lt hlt] at hle ⊢
      rw [Turn.schedule_scheduleActivation] at hle
      exact Turn.comes_scheduleActivation (earlier (t.setSchedule _) rfl hle)
    · rw [Turn.startFirst_of_not_lt hlt]
      exact h
  | startAlone =>
    rw [Turn.startAlone, Turn.schedule_scheduleActivation] at hle
    exact Turn.comes_scheduleActivation (earlier (t.setSchedule _) rfl hle)
  | adopt | relax =>
    rw [Turn.schedule_scheduleActivation] at hle
    exact Turn.comes_scheduleActivation (earlier (t.setSchedule _) rfl hle)
  | activate =>
    intro hs
    rw [Turn.activation_activate] at hs
    cases hs
  | _ => exact h

lemma Moves.comes (h : Moves n v t t') (hc : t.node.Comes) : t'.node.Comes :=
  h.induct (P := fun t => t.node.Comes) hc fun _ _ hc m => m.comes hc

/-! ### Reading a message -/

namespace Node.Reads

variable {m : Message}

/-- A message is handled in the course of a visit. -/
lemma moves (h : n.Reads v m t t') :
    Moves n v (Turn.start n v.now v.position v.nextHandle) t ∧ Moves n v t t' := by
  obtain ⟨sender, before, after, hv, rfl, rfl⟩ := h
  have hr : Moves n v (Turn.start n v.now v.position v.nextHandle)
      (Turn.start n v.now v.position v.nextHandle).receive :=
    (Move.locate _).moves.tail (.count _ _ fun _ => rfl)
  refine ⟨hr.trans (Moves.foldl (fun u m' hm' => .onMessage sender u ?_) _), ?_⟩
  · exact Visit.brings_iff.2 ⟨sender, _, hv, List.mem_append_left _ hm'⟩
  · refine .onMessage sender _ (Visit.brings_iff.2 ⟨sender, _, hv, ?_⟩)
    exact List.mem_append_right _ List.mem_cons_self

lemma alike (h : n.Reads v m t t') :
    (Turn.start n v.now v.position v.nextHandle).Alike t := h.moves.1.alike

/-- While a packet is read, the node knows its alarms. -/
lemma matches_alarms (h : n.Reads v m t t')
    (hk : Kept n.slots n.reliable.pending v.nextHandle as)
    (hm : Matched n.slots n.reliable.pending as none) : t.Matches as ∧ t'.Matches as := by
  have step (u u' : Turn) (hu : u.Matches as) (mv : Move n v u u') : u'.Matches as := by
    obtain ⟨sender, before, after, hv, -⟩ := h
    refine mv.matches (fun timer hc => ?_) (fun peer kind hc => ?_) hu
    · exact Call.noConfusion (hv.symm.trans hc)
    · exact Call.noConfusion (hv.symm.trans hc)
  have ht : t.Matches as := h.moves.1.induct (Outbox.Matches.fresh hk hm) step
  exact ⟨ht, h.moves.2.induct ht step⟩

end Node.Reads

namespace Turn

/-! ### Alarms for the activation -/

lemma mem_activations : a ∈ t.activations as ↔
    a ∈ t.outbox.alarms t.now as ∧ a.timer = .activate := by
  rw [activations, List.mem_filter, decide_eq_true_eq]

/-- The alarms for the activation are the one of which the handle is kept, or none. -/
lemma Matches.map_activations (h : t.Matches as) :
    (t.activations as).map Alarm.handle = t.node.slots.activation.toList := by
  apply h.keeps.orderly.map_handle_filter
  · intro a ha hat
    refine h.matched.held a ha .activation ?_
    rw [of_decide_eq_true hat]
    rfl
  · intro handle hs
    obtain ⟨a, ha, he, hr⟩ := h.keeps.armed .activation handle hs
    refine ⟨a, ha, he, decide_eq_true ?_⟩
    exact Timer.eq_of_slot? (Slot.rings_iff.1 hr) rfl (by decide)

/-- There is one alarm for the activation at most. -/
lemma Matches.activations_eq (h : t.Matches as) (ha : a ∈ t.activations as) :
    t.activations as = [a] := by
  have hl : (t.activations as).length ≤ 1 := by
    rw [← List.length_map Alarm.handle, h.map_activations]
    exact Option.length_toList_le
  match hm : t.activations as with
  | [] =>
    rw [hm] at ha
    cases ha
  | [b] =>
    rw [hm, List.mem_singleton] at ha
    rw [ha]
  | b :: b' :: bs =>
    rw [hm] at hl
    simp at hl

lemma Matches.not_isNever (h : t.Matches as) (hc : t.node.Comes) (ha : a ∈ t.activations as) :
    ¬ t.node.schedule.start.isNever := by
  have hs : [a].map Alarm.handle = t.node.slots.activation.toList :=
    h.activations_eq ha ▸ h.map_activations
  apply hc
  cases hslot : t.node.slots.activation with
  | none =>
    rw [hslot] at hs
    cases hs
  | some handle => rfl

/-! ### Handling a schedule -/

/-- The schedule of a node that takes a start over. -/
def takeOver (t : Turn) (s : Notice) (d : Vec2) : Turn :=
  (t.setDirection (some d)).setSchedule
    ((t.setDirection (some d)).node.schedule.adoptStart s.startTime t.node.id t.now).1

lemma adopts_of_takesOver (h : t.node.TakesOver t.now s) (d : Vec2) :
    ((t.setDirection (some d)).node.schedule.adoptStart s.startTime t.node.id t.now).2 = true ∧
      (t.takeOver s d).node.schedule.start = s.startTime := by
  have hahead : t.now < s.startTime ∧
      s.startTime ≤ (t.setDirection (some d)).node.schedule.start := ⟨h.ahead, h.notLater⟩
  exact Schedule.adoptStart_of_ahead hahead t.node.id

lemma onMessage_of_takesOver (h : t.node.TakesOver t.now s) :
    t.onMessage sender (s.message seq d) = (t.takeOver s d).scheduleActivation := by
  show t.onIntraCluster s.cluster s.starter s.startTime d = _
  rw [onIntraCluster, if_pos h.member, if_pos h.starter]
  exact if_pos (adopts_of_takesOver h d).1

/-- Nothing but the direction may change at a node that does not take a start over. -/
lemma onMessage_of_not_takesOver (h : ¬ t.node.TakesOver t.now s) (sender : NodeId)
    (seq : UInt64) (d : Vec2) :
    ∃ direction, t.onMessage sender (s.message seq d) = t.setDirection direction := by
  show ∃ direction, t.onIntraCluster s.cluster s.starter s.startTime d = t.setDirection direction
  simp only [onIntraCluster]
  split
  · rename_i hmember
    refine ⟨some d, ?_⟩
    split
    · rename_i hstarter
      refine if_neg ?_
      have hnot : ¬ ((t.setDirection (some d)).now < s.startTime ∧
          s.startTime ≤ (t.setDirection (some d)).node.schedule.start) :=
        fun hc => h ⟨hmember, hstarter, hc.1, hc.2⟩
      rw [Schedule.adoptStart_of_not hnot]
      exact Bool.false_ne_true
    · rfl
  · exact ⟨t.node.schedule.direction, rfl⟩

/-- Who takes a start over takes it over again, as long as it lies ahead. -/
lemma takesOver_again (h : t.node.TakesOver t.now s) {now : Timestamp} (hnow : now < s.startTime) :
    (t.onMessage sender (s.message seq d)).node.TakesOver now s := by
  rw [onMessage_of_takesOver h]
  refine ⟨?_, ?_, hnow, ?_⟩
  · rw [node_scheduleActivation]
    exact h.member
  · rw [node_scheduleActivation]
    exact ⟨h.starter.1, h.starter.2.1, .inr rfl⟩
  · rw [schedule_scheduleActivation, (adopts_of_takesOver h d).2]
    exact Timestamp.le_refl _

/-- In reverse, an activation that is scheduled is due after a delay. -/
lemma exists_activation_of_reverse (hr : t.node.settings.reverse)
    (hp : ¬ (t.node.schedule.start.isNever ∨ t.node.schedule.start < t.now)) (as : List Alarm) :
    ∃ handle, ⟨t.now + t.node.settings.activationDelay, handle, .activate⟩ ∈
      t.scheduleActivation.activations as := by
  refine ⟨((t.setStatus .ready).disarm .activation).outbox.handle, mem_activations.2 ⟨?_, rfl⟩⟩
  rw [now_scheduleActivation, scheduleActivation_of_ahead hp, if_pos hr, arm, schedule,
    Outbox.alarms_schedule]
  exact Alarm.mem_insert.2 (.inl rfl)

/-- In reverse, the activation of a node that takes a start over is due after a delay. -/
lemma Matches.activations_of_takesOver (h : t.Matches as) (ht : t.node.TakesOver t.now s)
    (hr : t.node.settings.reverse) (hn : ¬ s.startTime.isNever) (sender : NodeId) (seq : UInt64)
    (d : Vec2) : ∃ handle, (t.onMessage sender (s.message seq d)).activations as =
      [⟨t.now + t.node.settings.activationDelay, handle, .activate⟩] := by
  have hm : (t.takeOver s d).Matches as := h
  have hp : ¬ ((t.takeOver s d).node.schedule.start.isNever ∨
      (t.takeOver s d).node.schedule.start < (t.takeOver s d).now) := by
    rw [(adopts_of_takesOver ht d).2]
    exact fun hc => hc.elim hn (Timestamp.not_lt.2 (Timestamp.le_of_lt ht.ahead))
  obtain ⟨handle, ha⟩ := exists_activation_of_reverse (t := t.takeOver s d) hr hp as
  rw [onMessage_of_takesOver ht]
  exact ⟨handle, hm.scheduleActivation.activations_eq ha⟩

end Turn

/-! ### Benches -/

namespace Bench

variable {b₀ b b' c c' : Bench} {v' : Visit} {u u' : Turn} {seq' : UInt64} {d' : Vec2}

lemma Reaches.comes (hn : b₀.node.IsNew) (h : b₀.Reaches b) : b.node.Comes := by
  induction h with
  | refl =>
    obtain ⟨-, -, -, hs⟩ := hn.blank
    intro hsome
    rw [hs] at hsome
    cases hsome
  | @step b b' v _ hv ih =>
    rw [hv.node]
    exact (moves_visit b.node v).comes ih

lemma Reaches.settings (h : b₀.Reaches b) : b.node.settings = b₀.node.settings := by
  induction h with
  | refl => rfl
  | @step b b' v _ hv ih =>
    rw [hv.node]
    exact (moves_visit b.node v).alike.settings.trans ih

/-- What is known of a message that is handled at a bench. -/
structure Reading (b₀ b : Bench) (v : Visit) (t t' : Turn) : Prop where
  now : t.now = v.now
  settings : t.node.settings = b₀.node.settings
  before : t.Matches b.alarms
  after : t'.Matches b.alarms
  comes : t.node.Comes
  comes' : t'.node.Comes

lemma Reaches.reading (hn : b₀.node.IsNew) (ha : b₀.alarms = []) (h : b₀.Reaches b)
    (hs : b.Serves v c) {m : Message} (hv : b.node.Reads v m t t') : Reading b₀ b v t t' := by
  have hm : b.Matches := (Matches.of_isNew hn ha).reaches h
  obtain ⟨ht, ht'⟩ := hv.matches_alarms (Kept.mono hm.keeps hs.handles) hm.matched
  have hc := hv.moves.1.comes (h.comes hn)
  exact ⟨hv.alike.now, hv.alike.settings.trans h.settings, ht, ht', hc, hv.moves.2.comes hc⟩

/-- In reverse, the activation of a starter that takes a start over is due after a delay, and it
takes the same start over again as long as that lies ahead. When the same schedule is announced
again before the activation is due, the activation is put off until after another delay if the start
is taken over again; else it stays as it is. So it is due no later than it was exactly if the
start is not taken over again, or the delay ends no later. -/
theorem announcement_puts_activation_off (hn : b₀.node.IsNew) (ha : b₀.alarms = [])
    (hr : b₀.node.settings.reverse) (hb : b₀.Reaches b) (hv : b.Serves v c)
    (h : b.node.Reads v (s.message seq d) t t') (hs : t.node.TakesOver v.now s)
    (hb' : b₀.Reaches b') (hv' : b'.Serves v' c')
    (h' : b'.node.Reads v' (s.message seq' d') u u') (hm : a ∈ t'.activations b.alarms)
    (hm' : a ∈ u.activations b'.alarms) :
    a.due = v.now + b₀.node.settings.activationDelay ∧
      (∀ now, now < s.startTime → t'.node.TakesOver now s) ∧
      ∃ a', u'.activations b'.alarms = [a'] ∧
        (u.node.TakesOver v'.now s → a'.due = v'.now + b₀.node.settings.activationDelay) ∧
        (¬ u.node.TakesOver v'.now s → a' = a) ∧
        (a'.due ≤ a.due ↔ ¬ u.node.TakesOver v'.now s ∨
          v'.now + b₀.node.settings.activationDelay ≤
            v.now + b₀.node.settings.activationDelay) := by
  have hread := hb.reading hn ha hv h
  have hread' := hb'.reading hn ha hv' h'
  rw [← hread.now] at hs
  obtain ⟨sender, -, -, -, -, rfl⟩ := h
  obtain ⟨sender', -, -, -, -, rfl⟩ := h'
  -- An activation is armed for the start, so that it is not the time that never comes.
  have hnever : ¬ s.startTime.isNever := by
    have hstart := hread.after.not_isNever hread.comes' hm
    rw [Turn.onMessage_of_takesOver hs, Turn.schedule_scheduleActivation,
      (Turn.adopts_of_takesOver hs _).2] at hstart
    exact hstart
  have hdue : a.due = v.now + b₀.node.settings.activationDelay := by
    obtain ⟨handle, hone⟩ := hread.before.activations_of_takesOver hs (hread.settings ▸ hr)
      hnever sender seq d
    rw [hone, List.mem_singleton, hread.now, hread.settings] at hm
    rw [hm]
  refine ⟨hdue, fun now hnow => Turn.takesOver_again hs hnow, ?_⟩
  by_cases hs' : u.node.TakesOver v'.now s
  · rw [← hread'.now] at hs'
    obtain ⟨handle, hone⟩ := hread'.before.activations_of_takesOver hs'
      (hread'.settings ▸ hr) hnever sender' seq' d'
    rw [hread'.now, hread'.settings] at hone
    rw [hread'.now] at hs'
    refine ⟨_, hone, fun _ => rfl, fun hc => absurd hs' hc, ?_⟩
    rw [hdue, or_iff_right (not_not_intro hs')]
  · obtain ⟨direction, he⟩ := Turn.onMessage_of_not_takesOver (hread'.now.symm ▸ hs') sender'
      seq' d'
    refine ⟨a, ?_, fun hc => absurd hc hs', fun _ => rfl, ?_⟩
    · rw [he]
      exact hread'.before.activations_eq hm'
    · exact iff_of_true (Timestamp.le_refl _) (.inl hs')

open Visit (rings hears)

/-- Settings of a wavefront in reverse. -/
def reverseSettings : Settings := { Settings.standard with reverse := true }

/-- The visits of a node that joins the cluster of a neighbor. -/
def joiningVisits : List Visit :=
  [⟨.start, Vec3.zero, 1, .start⟩, rings 0 2 .start,
    hears 10 4 ⟨9⟩ (.clusterInfo 1 (nearby ⟨9⟩).becomeHead)]

/-- A schedule by which the wavefront starts at node 1, a member of cluster 9, after ten seconds. -/
def distantStart : Notice := ⟨⟨9⟩, ⟨1⟩, .ofSecs 10⟩

/-- The schedule is announced, and once more after fifty milliseconds. -/
def announcement : Visit := hears 20 4 ⟨9⟩ (distantStart.message 2 .zero)

def repetition : Visit := hears 70 5 ⟨9⟩ (distantStart.message 3 .zero)

/-- A member takes over the start that its head announces, and when the schedule is announced again
the activation is put off. -/
theorem repetition_puts_activation_off : ∃ (b₀ b c c' : Bench) (t t' u u' : Turn) (a : Alarm),
    b₀.node.IsNew ∧ b₀.alarms = [] ∧ b₀.node.settings.reverse ∧ b₀.Reaches b ∧
      b.Serves announcement c ∧ b.node.Reads announcement (distantStart.message 2 .zero) t t' ∧
      t.node.TakesOver announcement.now distantStart ∧ b₀.Reaches c ∧
      c.Serves repetition c' ∧ c.node.Reads repetition (distantStart.message 3 .zero) u u' ∧
      a ∈ t'.activations b.alarms ∧ a ∈ u.activations c.alarms ∧
      a.due = announcement.now + b₀.node.settings.activationDelay ∧
      (∀ now, now < distantStart.startTime → t'.node.TakesOver now distantStart) ∧
      ∃ a', u'.activations c.alarms = [a'] ∧
        (u.node.TakesOver repetition.now distantStart →
          a'.due = repetition.now + b₀.node.settings.activationDelay) ∧
        (¬ u.node.TakesOver repetition.now distantStart → a' = a) ∧
        (a'.due ≤ a.due ↔ ¬ u.node.TakesOver repetition.now distantStart ∨
          repetition.now + b₀.node.settings.activationDelay ≤
            announcement.now + b₀.node.settings.activationDelay) := by
  let reads (n : Node) (v : Visit) : Turn := (Turn.start n v.now v.position v.nextHandle).receive
  have hrun : ((Node.create ⟨1⟩ reverseSettings false none).toOption.any fun n =>
      n.settings.reverse && ((Bench.setUp n Vec3.zero).run? joiningVisits).any fun b =>
        (b.attend? announcement).any fun c => (c.attend? repetition).any fun _ =>
          (reads b.node announcement).node.TakesOver announcement.now distantStart &&
          (((reads b.node announcement).onMessage ⟨9⟩
            (distantStart.message 2 .zero)).activations b.alarms).any fun a =>
              a ∈ (reads c.node repetition).activations c.alarms) = true := by decide +kernel
  simp only [Option.any_eq_true, Bool.and_eq_true, List.any_eq_true, decide_eq_true_eq] at hrun
  obtain ⟨n, hn, hr, b, hb, c, hc, c', hc', hs, a, ha, ha'⟩ := hrun
  have hreach : (Bench.setUp n Vec3.zero).Reaches b := .of_run? hb
  have hv := Serves.of_attend? hc
  have hv' := Serves.of_attend? hc'
  have h : b.node.Reads announcement (distantStart.message 2 .zero) _ _ :=
    ⟨⟨9⟩, [], [], rfl, rfl, rfl⟩
  have h' : c.node.Reads repetition (distantStart.message 3 .zero) _ _ :=
    ⟨⟨9⟩, [], [], rfl, rfl, rfl⟩
  exact ⟨.setUp n Vec3.zero, b, c, c', _, _, _, _, a, .of_toOption hn, rfl, hr, hreach, hv, h, hs,
    hreach.step hv, hv', h', ha, ha', announcement_puts_activation_off (.of_toOption hn) rfl hr
      hreach hv h hs (hreach.step hv) hv' h' ha ha'⟩

/-- An announcement that is repeated may let the activation be due later than it was. -/
theorem repetition_delays_activation : ∃ (b₀ b c c' : Bench) (a a' : Alarm),
    b₀.node.IsNew ∧ b₀.alarms = [] ∧ b₀.node.settings.reverse ∧
      b₀.run? joiningVisits = some b ∧ b.node.record.isMember ∧
      b.attend? announcement = some c ∧ c.node.schedule.start = distantStart.startTime ∧
      c.attend? repetition = some c' ∧ announcement.now ≤ repetition.now ∧
      repetition.now < distantStart.startTime ∧
      (c.alarms.filter fun a => a.timer = .activate) = [a] ∧
      (c'.alarms.filter fun a => a.timer = .activate) = [a'] ∧ a.due < a'.due := by
  have hrun : ((Node.create ⟨1⟩ reverseSettings false none).toOption.any fun n =>
      n.settings.reverse && ((Bench.setUp n Vec3.zero).run? joiningVisits).any fun b =>
        b.node.record.isMember && (b.attend? announcement).any fun c =>
          c.node.schedule.start = distantStart.startTime && (c.attend? repetition).any fun c' =>
            (c.alarms.filter fun a => a.timer = .activate).any fun a =>
              (c'.alarms.filter fun a => a.timer = .activate).any fun a' =>
                (c.alarms.filter fun a => a.timer = .activate) = [a] ∧
                (c'.alarms.filter fun a => a.timer = .activate) = [a'] ∧
                a.due < a'.due) = true := by decide +kernel
  simp only [Option.any_eq_true, Bool.and_eq_true, List.any_eq_true, decide_eq_true_eq] at hrun
  obtain ⟨n, hn, hr, b, hb, hm, c, hc, hs, c', hc', a, -, a', -, ha, ha', hlt⟩ := hrun
  exact ⟨.setUp n Vec3.zero, b, c, c', a, a', .of_toOption hn, rfl, hr, hb, hm, hc, hs, hc',
    by decide, by decide, ha, ha', hlt⟩

end Bench

end ClusterWave
