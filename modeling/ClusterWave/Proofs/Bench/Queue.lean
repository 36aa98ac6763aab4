import ClusterWave.Proofs.Bench.Keep

/-!
# Maps that wait for their turn

A map that was taken up for a peer is first sent when its alarm goes off. Until then nothing touches
the map and its alarm, but an acknowledgment in the name of the peer and the two ends of an exchange
of maps: the beginning of another one, and the decision.
-/

namespace ClusterWave

namespace Kept

variable {slots : Slots} {pending : Table (NodeId × MessageKind) Pending} {next : Nat}
  {as : List Alarm} {a : Alarm}

/-- The alarm of a message is in no slot. -/
lemma slot_ne (h : Kept slots pending next as) (ha : a ∈ as) (ht : a.timer.slot? = none)
    {slot : Slot} {handle : TimerHandle} (hs : slots.get slot = some handle) :
    handle ≠ a.handle := by
  rintro rfl
  obtain ⟨b, hb, he, hr⟩ := h.armed slot _ hs
  rw [h.orderly.eq_of_handle hb ha he, Slot.rings_iff, ht] at hr
  cases hr

/-- The alarm of a message is not that of another one. -/
lemma timer_ne (h : Kept slots pending next as) (key : NodeId × MessageKind) (ha : a ∈ as)
    (ht : a.timer = .retransmit key.1 key.2) {key' : NodeId × MessageKind} {p : Pending}
    (hp : pending.get? key' = some p) (hne : key' ≠ key) : p.timer ≠ a.handle := by
  intro he
  have hk := h.apart key' p hp a ha he.symm
  rw [ht] at hk
  obtain ⟨h₁, h₂⟩ := Timer.retransmit.inj hk
  exact hne (Prod.ext h₁.symm h₂.symm)

end Kept

namespace Outbox

variable {o : Outbox} {now : Timestamp} {as : List Alarm} {a : Alarm}

lemma mem_alarms_schedule (h : a ∈ o.alarms now as) (delay : Duration) (timer : Timer) :
    a ∈ (o.schedule delay timer).alarms now as := by
  rw [alarms_schedule]
  exact Alarm.mem_insert.2 (.inr h)

lemma mem_alarms_cancel (h : a ∈ o.alarms now as) {handle : TimerHandle}
    (hne : handle ≠ a.handle) : a ∈ (o.cancel handle).alarms now as := by
  rw [alarms_cancel]
  exact List.mem_filter.2 ⟨h, bne_iff_ne.2 hne.symm⟩

lemma mem_alarms_cancels {ps : List Pending} (h : a ∈ o.alarms now as)
    (hne : ∀ p ∈ ps, p.timer ≠ a.handle) :
    a ∈ (ps.foldl (fun o p => o.cancel p.timer) o).alarms now as := by
  induction ps generalizing o with
  | nil => exact h
  | cons p ps ih =>
    exact ih (mem_alarms_cancel h (hne p List.mem_cons_self))
      fun q hq => hne q (List.mem_cons_of_mem p hq)

end Outbox

/-- A map is pending for a peer that was never sent, and its alarm has not gone off. The turn began
with some alarms. -/
structure Turn.Queues (as : List Alarm) (peer : NodeId) (m : Message) (a : Alarm) (t : Turn) :
    Prop where
  timer : a.timer = .retransmit peer .densityMap
  pending : t.node.reliable.pending.get? (peer, .densityMap) = some ⟨m, 0, a.handle⟩
  alarm : a ∈ t.outbox.alarms t.now as

namespace Turn.Queues

variable {as : List Alarm} {peer : NodeId} {m : Message} {a : Alarm} {t : Turn}

lemma arm (h : t.Queues as peer m a) (slot : Slot) (delay : Duration) (timer : Timer) :
    (t.arm slot delay timer).Queues as peer m a :=
  { h with alarm := Outbox.mem_alarms_schedule h.alarm delay timer }

lemma schedule (h : t.Queues as peer m a) (delay : Duration) (timer : Timer) :
    (t.schedule delay timer).Queues as peer m a :=
  { h with alarm := Outbox.mem_alarms_schedule h.alarm delay timer }

lemma disarm (h : t.Queues as peer m a) (hk : t.Keeps as) (slot : Slot) :
    (t.disarm slot).Queues as peer m a := by
  simp only [Turn.disarm]
  split
  · exact h
  · rename_i handle hs
    have ht : a.timer.slot? = none := by rw [h.timer]; rfl
    exact { h with alarm := Outbox.mem_alarms_cancel h.alarm (hk.slot_ne h.alarm ht hs) }

lemma broadcastPacket (h : t.Queues as peer m a) (p : Packet) :
    (t.broadcastPacket p).Queues as peer m a := by
  refine { h with alarm := ?_ }
  simp only [Turn.broadcastPacket, Outbox.alarms_broadcast]
  exact h.alarm

lemma send (h : t.Queues as peer m a) (p : NodeId) (m' : Message) :
    (t.send p m').Queues as peer m a := by
  refine { h with alarm := ?_ }
  simp only [Turn.send, Outbox.alarms_send]
  exact h.alarm

lemma noteRole (h : t.Queues as peer m a) (before : Degree × Option NodeId) :
    (t.noteRole before).Queues as peer m a := by
  refine ⟨h.timer, ?_, ?_⟩
  · rw [Turn.node_noteRole]
    exact h.pending
  · rw [Turn.outbox_noteRole, Turn.now_noteRole]
    exact h.alarm

/-! ### The wavefront -/

lemma scheduleActivation (h : t.Queues as peer m a) (hk : t.Keeps as) :
    t.scheduleActivation.Queues as peer m a := by
  have hr : (t.setStatus .ready).Queues as peer m a := ⟨h.timer, h.pending, h.alarm⟩
  simp only [Turn.scheduleActivation]
  split
  · exact hr
  · exact (hr.disarm hk .activation).arm _ _ _

lemma startFirst (h : t.Queues as peer m a) (hk : t.Keeps as) :
    t.startFirst.Queues as peer m a := by
  simp only [Turn.startFirst]
  split
  · exact scheduleActivation (t := t.setSchedule _) ⟨h.timer, h.pending, h.alarm⟩ hk
  · exact ⟨h.timer, h.pending, h.alarm⟩

lemma activate (h : t.Queues as peer m a) (hk : t.Keeps as) : t.activate.Queues as peer m a := by
  let running (f : Counters → Counters) : Turn := ((t.setStatus .running).count f).advanceSeq
  have hb (f : Counters → Counters) (m' : Message) :
      ((running f).broadcast m').Queues as peer m a :=
    broadcastPacket (t := running f) ⟨h.timer, h.pending, h.alarm⟩ _
  have hkb (f : Counters → Counters) (m' : Message) : ((running f).broadcast m').Keeps as :=
    Turn.Keeps.broadcastPacket (t := running f) hk _
  simp only [Turn.activate]
  split
  · exact ((hb _ _).disarm (hkb _ _) .duty).arm _ _ _
  · exact (hb _ _).schedule _ _

/-! ### Reliable delivery -/

/-- Another message may be taken up. -/
lemma sendReliably (h : t.Queues as peer m a) (hk : t.Keeps as) {peer' : NodeId} {m' : Message}
    (hne : (peer', m'.kind) ≠ (peer, .densityMap)) (delay : Duration) :
    (t.sendReliably peer' m' delay).Queues as peer m a := by
  refine ⟨h.timer, (Table.get?_insert_of_ne _ _ hne.symm).trans h.pending, ?_⟩
  have hs := Outbox.mem_alarms_schedule h.alarm delay (.retransmit peer' m'.kind)
  show a ∈ (ReliableSender.silence _ (t.node.reliable.pending.get? (peer', m'.kind))).alarms _ as
  cases hp : t.node.reliable.pending.get? (peer', m'.kind) with
  | none => exact hs
  | some q =>
    exact Outbox.mem_alarms_cancel hs
      (hk.timer_ne (peer, .densityMap) h.alarm h.timer hp hne)

lemma cancelOffers (h : t.Queues as peer m a) (hk : t.Keeps as) :
    (t.cancelKind .interCluster).Queues as peer m a := by
  refine ⟨h.timer, ?_, Outbox.mem_alarms_cancels h.alarm fun q hq => ?_⟩
  · show (Table.filter _ _).get? _ = _
    rw [Table.get?_filter, h.pending]
    rfl
  · obtain ⟨⟨key, q⟩, hm, rfl⟩ := List.mem_map.1 hq
    have hp := Table.get?_eq_some_iff.2 hm
    rw [Table.get?_filter, Option.filter_eq_some_iff] at hp
    refine hk.timer_ne (peer, .densityMap) h.alarm h.timer hp.1 ?_
    rintro rfl
    cases hp.2

lemma onAck (h : t.Queues as peer m a) (hk : t.Keeps as) {name : NodeId} {kind : MessageKind}
    (hne : (name, kind) ≠ (peer, .densityMap)) : (t.onAck name kind).Queues as peer m a := by
  simp only [Turn.onAck, ReliableSender.acknowledge]
  split
  · exact ⟨h.timer, h.pending, h.alarm⟩
  · rename_i q hq
    refine ⟨h.timer, (Table.get?_erase_of_ne _ hne.symm).trans h.pending, ?_⟩
    exact Outbox.mem_alarms_cancel h.alarm
      (hk.timer_ne (peer, .densityMap) h.alarm h.timer hq hne)

lemma retransmit (h : t.Queues as peer m a) {peer' : NodeId} {kind : MessageKind}
    (hne : (peer', kind) ≠ (peer, .densityMap)) :
    (t.retransmit peer' kind).Queues as peer m a := by
  have hp : (t.node.reliable.transmit t.outbox peer' kind).1.pending.get? (peer, .densityMap) =
      some ⟨m, 0, a.handle⟩ := by
    simp only [ReliableSender.transmit]
    split
    · exact h.pending
    · exact (Table.get?_insert_of_ne _ _ hne.symm).trans h.pending
  have ha : a ∈ (t.node.reliable.transmit t.outbox peer' kind).2.1.alarms t.now as := by
    simp only [ReliableSender.transmit]
    split
    · exact h.alarm
    · refine Outbox.mem_alarms_schedule ?_ _ _
      rw [Outbox.alarms_send]
      exact h.alarm
  simp only [Turn.retransmit]
  split
  · exact ⟨h.timer, hp, ha⟩
  · split
    · exact ⟨h.timer, hp, ha⟩
    · exact ⟨h.timer, hp, ha⟩

end Turn.Queues

/-! ### Visits -/

/-- Whether a visit leaves a map alone that waits for its turn to be sent to a peer. -/
structure Visit.Spares (v : Visit) (peer : NodeId) : Prop where
  retransmit : v.call ≠ .timer (.retransmit peer .densityMap)
  stop : v.call ≠ .timer .stop
  decide : v.call ≠ .timer .decide
  ack : ∀ seq, ¬ v.Brings (.ack seq peer .densityMap)

variable {n : Node} {v : Visit} {t t' : Turn} {as : List Alarm} {peer : NodeId} {m : Message}
  {a : Alarm}

lemma Move.queues (move : Move n v t t') (hv : v.Spares peer) (hk : t.Keeps as)
    (h : t.Queues as peer m a) : t'.Queues as peer m a := by
  cases move with
  | arm => exact h.arm _ _ _
  | disarm => exact h.disarm hk _
  | lifecycle | decideLater | incidentLater => exact h.schedule _ _
  | broadcast | announce => exact h.broadcastPacket _
  | send | answer => exact h.send _ _
  | offer =>
    refine h.sendReliably hk (fun he => ?_) _
    cases congrArg Prod.snd he
  | sendMap _ _ _ _ hs => exact absurd hs hv.stop
  | cancelOffers => exact h.cancelOffers hk
  | satisfyAll hd => exact absurd hd hv.decide
  | retransmit hr =>
    refine h.retransmit fun he => hv.retransmit (hr.trans ?_)
    cases he
    rfl
  | acknowledged hm =>
    refine h.onAck hk fun he => ?_
    cases he
    exact hv.ack _ hm
  | startFirst => exact h.startFirst hk
  | startAlone | adopt | relax =>
    exact Turn.Queues.scheduleActivation (t := t.setSchedule _)
      ⟨h.timer, h.pending, h.alarm⟩ hk
  | activate =>
    exact Turn.Queues.activate (t := t.setSlot .activation none)
      ⟨h.timer, h.pending, h.alarm⟩ (Kept.forget hk .activation)
  | _ => exact ⟨h.timer, h.pending, h.alarm⟩

/-- When the alarm goes off, the map is sent. -/
lemma Node.send_mem_visit (n : Node) {kind : MessageKind} {p : Pending}
    (hv : v.call = .timer (.retransmit peer kind))
    (hp : n.reliable.pending.get? (peer, kind) = some p) :
    .send peer (Packet.single p.message) ∈ (n.visit v).outbox.effects := by
  have ht (t : Turn) (hp : t.node.reliable.pending.get? (peer, kind) = some p) :
      .send peer (Packet.single p.message) ∈ (t.retransmit peer kind).outbox.effects := by
    have hm : .send peer (Packet.single p.message) ∈
        (t.node.reliable.transmit t.outbox peer kind).2.1.effects := by
      simp only [ReliableSender.transmit, hp, Outbox.schedule, Outbox.send, Outbox.add]
      simp
    simp only [Turn.retransmit]
    split
    · exact hm
    · split
      · exact hm
      · exact hm
  rw [Node.visit, hv]
  show _ ∈ (Turn.onTimer _ (.retransmit peer kind)).outbox.effects
  rw [Turn.onTimer, Turn.outbox_noteRole]
  exact ht _ hp

end ClusterWave
