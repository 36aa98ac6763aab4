import ClusterWave.Proofs.Bench.Serve

/-!
# Handles that are kept

A node keeps handles of its timers in slots, and with the messages that are pending. A handle that
is kept in a slot is that of a timer that is still pending: the slot is emptied when the timer goes
off, and the timer is cancelled when the slot is emptied otherwise. And no handle is mistaken for
another, so that a timer in a slot is not cancelled along with a message.
-/

namespace ClusterWave

/-- The slot under which a timer is armed, if its handle is kept in one. -/
def Timer.slot? : Timer → Option Slot
  | .send => some .send
  | .electionCheck => some .election
  | .upkeep => some .upkeep
  | .intraBroadcast => some .intra
  | .activate => some .activation
  | .dutyActive | .dutyInactive => some .duty
  | _ => none

lemma Slot.rings_iff {slot : Slot} {timer : Timer} :
    slot.rings timer ↔ timer.slot? = some slot := by
  cases timer <;> cases slot <;> simp [rings, Timer.slot?]

lemma Slot.eq_of_rings {slot slot' : Slot} {timer : Timer} (h : slot.rings timer)
    (h' : slot'.rings timer) : slot = slot' := by
  rw [rings_iff] at h h'
  exact Option.some.inj (h.symm.trans h')

/-- There are two timers under the slot of the duty cycle, and one under every other. -/
lemma Timer.eq_of_slot? {slot : Slot} {timer timer' : Timer} (h : timer.slot? = some slot)
    (h' : timer'.slot? = some slot) (hne : slot ≠ .duty) : timer = timer' := by
  cases slot with
  | duty => exact absurd rfl hne
  | _ =>
    cases timer <;> cases h
    cases timer' <;> first | rfl | cases h'

/-- What holds of the slots and the pending messages of a node with some alarms. -/
structure Kept (slots : Slots) (pending : Table (NodeId × MessageKind) Pending) (next : Nat)
    (as : List Alarm) : Prop where
  orderly : Alarm.Orderly as next
  armed : ∀ slot handle, slots.get slot = some handle →
    ∃ a ∈ as, a.handle = handle ∧ slot.rings a.timer
  old : ∀ key p, pending.get? key = some p → p.timer.val < next
  apart : ∀ key p, pending.get? key = some p →
    ∀ a ∈ as, a.handle = p.timer → a.timer = .retransmit key.1 key.2

namespace Kept

variable {slots : Slots} {pending pending' : Table (NodeId × MessageKind) Pending}
  {next next' : Nat}
  {as : List Alarm} {slot : Slot} {timer : Timer} {handle : TimerHandle}
  {key : NodeId × MessageKind} {p : Pending}

lemma mono (h : Kept slots pending next as) (hle : next ≤ next') : Kept slots pending next' as :=
  { h with
    orderly := h.orderly.mono hle
    old := fun key p hp => Nat.lt_of_lt_of_le (h.old key p hp) hle }

/-- A timer of which the handle is kept is pending. -/
lemma exists_alarm (h : Kept slots pending next as) (slot : Slot)
    (hs : (slots.get slot).isSome) (ht : timer.slot? = some slot) (hne : slot ≠ .duty) :
    ∃ a ∈ as, a.timer = timer := by
  obtain ⟨handle, hs⟩ := Option.isSome_iff_exists.1 hs
  obtain ⟨a, ha, -, hr⟩ := h.armed slot handle hs
  exact ⟨a, ha, Timer.eq_of_slot? (Slot.rings_iff.1 hr) ht hne⟩

/-! ### Slots -/

lemma forget (h : Kept slots pending next as) (slot : Slot) :
    Kept (slots.set none slot) pending next as := by
  refine { h with armed := fun slot' handle hs => ?_ }
  by_cases he : slot' = slot
  · rw [he, Slots.get_set_self] at hs
    cases hs
  · rw [Slots.get_set_of_ne _ _ he] at hs
    exact h.armed slot' handle hs

lemma schedule (h : Kept slots pending next as) (due : Timestamp) (timer : Timer) :
    Kept slots pending (next + 1) (Alarm.insert ⟨due, ⟨next⟩, timer⟩ as) := by
  refine ⟨h.orderly.insert due timer, fun slot handle hs => ?_,
    fun key p hp => Nat.lt_succ_of_lt (h.old key p hp), fun key p hp a ha he => ?_⟩
  · obtain ⟨a, ha, hr⟩ := h.armed slot handle hs
    exact ⟨a, Alarm.mem_insert.2 (.inr ha), hr⟩
  · rcases Alarm.mem_insert.1 ha with rfl | ha
    · exact absurd (congrArg TimerHandle.val he) (Nat.ne_of_gt (h.old key p hp))
    · exact h.apart key p hp a ha he

lemma arm (h : Kept slots pending next as) (due : Timestamp) (hr : slot.rings timer) :
    Kept (slots.set (some ⟨next⟩) slot) pending (next + 1)
      (Alarm.insert ⟨due, ⟨next⟩, timer⟩ as) := by
  refine { h.schedule due timer with armed := fun slot' handle hs => ?_ }
  by_cases he : slot' = slot
  · subst he
    rw [Slots.get_set_self] at hs
    exact ⟨_, Alarm.mem_insert.2 (.inl rfl), Option.some.inj hs, hr⟩
  · rw [Slots.get_set_of_ne _ _ he] at hs
    exact (h.schedule due timer).armed slot' handle hs

/-- A handle that is in no slot can be cancelled. -/
lemma cancel (h : Kept slots pending next as) (hs : ∀ slot, slots.get slot ≠ some handle) :
    Kept slots pending next (as.filter fun a => a.handle != handle) := by
  refine ⟨h.orderly.filter _, fun slot handle' hs' => ?_, h.old,
    fun key p hp a ha => h.apart key p hp a (List.mem_filter.1 ha).1⟩
  obtain ⟨a, ha, he, hr⟩ := h.armed slot handle' hs'
  refine ⟨a, List.mem_filter.2 ⟨ha, bne_iff_ne.2 fun hx => hs slot ?_⟩, he, hr⟩
  rw [hs', ← he, hx]

lemma disarm (h : Kept slots pending next as) (hs : slots.get slot = some handle) :
    Kept (slots.set none slot) pending next (as.filter fun a => a.handle != handle) := by
  refine (h.forget slot).cancel fun slot' hs' => ?_
  have hne : slot' ≠ slot := by
    rintro rfl
    rw [Slots.get_set_self] at hs'
    cases hs'
  rw [Slots.get_set_of_ne _ _ hne] at hs'
  obtain ⟨a, ha, he, hr⟩ := h.armed slot handle hs
  obtain ⟨a', ha', he', hr'⟩ := h.armed slot' handle hs'
  rw [h.orderly.eq_of_handle ha ha' (he.trans he'.symm)] at hr
  exact hne (Slot.eq_of_rings hr' hr)

/-! ### Pending messages -/

/-- The timer of a pending message can be cancelled. -/
lemma silence (h : Kept slots pending next as) (hp : pending.get? key = some p) :
    Kept slots pending next (as.filter fun a => a.handle != p.timer) := by
  refine h.cancel fun slot hs => ?_
  obtain ⟨a, ha, he, hr⟩ := h.armed slot p.timer hs
  rw [h.apart key p hp a ha he] at hr
  cases slot <;> cases hr

lemma drop (h : Kept slots pending next as)
    (hp : ∀ key p, pending'.get? key = some p → pending.get? key = some p) :
    Kept slots pending' next as :=
  { h with
    old := fun key p hk => h.old key p (hp key p hk)
    apart := fun key p hk => h.apart key p (hp key p hk) }

lemma await (h : Kept slots pending next as) (hn : p.timer.val < next)
    (ha : ∀ a ∈ as, a.handle = p.timer → a.timer = .retransmit key.1 key.2) :
    Kept slots (pending.insert key p) next as := by
  refine { h with old := fun key' p' hp' => ?_, apart := fun key' p' hp' => ?_ }
  all_goals
    rcases Table.of_get?_insert hp' with ⟨rfl, rfl⟩ | ⟨-, hp'⟩
    · first | exact hn | exact ha
    · first | exact h.old key' p' hp' | exact h.apart key' p' hp'

end Kept

/-! ### Reliable delivery -/

/-- What holds of the slots and the reliable sender of a node, while an outbox is filled that began
with some alarms. -/
def Outbox.Keeps (o : Outbox) (slots : Slots) (s : ReliableSender) (now : Timestamp)
    (as : List Alarm) : Prop := Kept slots s.pending o.nextHandle (o.alarms now as)

namespace Outbox.Keeps

variable {o : Outbox} {slots : Slots} {s : ReliableSender} {now : Timestamp} {as : List Alarm}
  {p : Pending}

lemma schedule (h : o.Keeps slots s now as) (delay : Duration) (timer : Timer) :
    (o.schedule delay timer).Keeps slots s now as := by
  rw [Outbox.Keeps, alarms_schedule]
  exact Kept.schedule h _ timer

lemma silence (h : o.Keeps slots s now as) {key : NodeId × MessageKind}
    (hp : s.pending.get? key = some p) : (o.cancel p.timer).Keeps slots s now as := by
  rw [Outbox.Keeps, alarms_cancel]
  exact Kept.silence h hp

lemma send (h : o.Keeps slots s now as) (peer : NodeId) (packet : Packet) :
    (o.send peer packet).Keeps slots s now as := by
  rw [Outbox.Keeps, alarms_send]
  exact h

/-- An alarm under the next handle is the one that is armed next. -/
lemma timer_of_next (h : o.Keeps slots s now as) {delay : Duration} {timer : Timer} {a : Alarm}
    (ha : a ∈ (o.schedule delay timer).alarms now as) (he : a.handle = o.handle) :
    a.timer = timer := by
  rw [alarms_schedule] at ha
  rcases Alarm.mem_insert.1 ha with rfl | ha
  · rfl
  · exact absurd (congrArg TimerHandle.val he) (Nat.ne_of_lt (h.orderly.fresh a ha))

/-- The message that was pending is silenced, but not before the new one is armed. -/
lemma arm (h : o.Keeps slots s now as) (peer : NodeId) (m : Message) (delay : Duration) :
    (s.arm o peer m delay).2.Keeps slots (s.arm o peer m delay).1 now as := by
  have hs := h.schedule delay (.retransmit peer m.kind)
  simp only [ReliableSender.arm]
  cases hp : s.pending.get? (peer, m.kind) with
  | none => exact Kept.await hs (Nat.lt_succ_self _) fun a => h.timer_of_next
  | some q =>
    refine Kept.await (hs.silence hp) (Nat.lt_succ_self _) fun a ha => ?_
    rw [ReliableSender.silence, alarms_cancel] at ha
    exact h.timer_of_next (List.mem_filter.1 ha).1

lemma transmit (h : o.Keeps slots s now as) (peer : NodeId) (kind : MessageKind) :
    (s.transmit o peer kind).2.1.Keeps slots (s.transmit o peer kind).1 now as := by
  simp only [ReliableSender.transmit]
  split
  · exact h
  · rename_i p hp
    have hs := h.send peer (Packet.single p.message)
    exact Kept.await (hs.schedule s.retryInterval (.retransmit peer kind)) (Nat.lt_succ_self _)
      fun a => hs.timer_of_next

lemma acknowledge (h : o.Keeps slots s now as) (peer : NodeId) (kind : MessageKind) :
    (s.acknowledge o peer kind).2.1.Keeps slots (s.acknowledge o peer kind).1 now as := by
  simp only [ReliableSender.acknowledge]
  split
  · exact h
  · rename_i p hp
    exact (h.silence hp).drop fun _ _ hq => Table.of_get?_erase hq

lemma cancels (h : o.Keeps slots s now as) {ps : List Pending}
    (hp : ∀ p ∈ ps, ∃ key, s.pending.get? key = some p) :
    (ps.foldl (fun o p => o.cancel p.timer) o).Keeps slots s now as := by
  induction ps generalizing o with
  | nil => exact h
  | cons p ps ih =>
    obtain ⟨key, hk⟩ := hp p List.mem_cons_self
    exact ih (h.silence hk) fun q hq => hp q (List.mem_cons_of_mem p hq)

lemma giveUp (h : o.Keeps slots s now as) (test : NodeId × MessageKind → Bool) :
    (s.giveUp o test).2.1.Keeps slots (s.giveUp o test).1 now as := by
  refine Kept.drop (h.cancels fun p hp => ?_) fun key p hp => ?_
  · obtain ⟨⟨key, q⟩, hm, rfl⟩ := List.mem_map.1 hp
    have hq := Table.get?_eq_some_iff.2 hm
    rw [Table.get?_filter, Option.filter_eq_some_iff] at hq
    exact ⟨key, hq.1⟩
  · have hp' : (s.pending.filter fun key _ => !test key).get? key = some p := hp
    rw [Table.get?_filter, Option.filter_eq_some_iff] at hp'
    exact hp'.1

end Outbox.Keeps

/-! ### Moves -/

/-- What holds at a turn that began with some alarms. -/
def Turn.Keeps (as : List Alarm) (t : Turn) : Prop :=
  t.outbox.Keeps t.node.slots t.node.reliable t.now as

namespace Turn.Keeps

variable {t : Turn} {as : List Alarm} {slot : Slot} {timer : Timer}

lemma arm (h : t.Keeps as) (delay : Duration) (hr : slot.rings timer) :
    (t.arm slot delay timer).Keeps as := by
  simp only [Turn.Keeps, Outbox.Keeps, Turn.arm, Turn.schedule, Outbox.alarms_schedule]
  exact Kept.arm h _ hr

lemma disarm (h : t.Keeps as) (slot : Slot) : (t.disarm slot).Keeps as := by
  simp only [Turn.disarm]
  split
  · exact h
  · rename_i handle hs
    simp only [Turn.Keeps, Outbox.Keeps, Outbox.alarms_cancel]
    exact Kept.disarm h hs

lemma broadcastPacket (h : t.Keeps as) (p : Packet) : (t.broadcastPacket p).Keeps as := by
  simp only [Turn.Keeps, Outbox.Keeps, Turn.broadcastPacket, Outbox.alarms_broadcast]
  exact h

lemma scheduleActivation (h : t.Keeps as) : t.scheduleActivation.Keeps as := by
  simp only [Turn.scheduleActivation]
  split
  · exact h
  · exact (disarm (t := t.setStatus .ready) h .activation).arm _ rfl

lemma startFirst (h : t.Keeps as) : t.startFirst.Keeps as := by
  simp only [Turn.startFirst]
  split
  · exact scheduleActivation (t := t.setSchedule _) h
  · exact h

lemma activate (h : t.Keeps as) : t.activate.Keeps as := by
  have hb (f : Counters → Counters) (m : Message) :
      (((t.setStatus .running).count f).advanceSeq.broadcast m).Keeps as :=
    broadcastPacket (t := ((t.setStatus .running).count f).advanceSeq) h _
  simp only [Turn.activate]
  split
  · exact ((hb _ _).disarm .duty).arm _ rfl
  · exact Outbox.Keeps.schedule (hb _ _) _ _

lemma retransmit (h : t.Keeps as) (peer : NodeId) (kind : MessageKind) :
    (t.retransmit peer kind).Keeps as := by
  have ht := Outbox.Keeps.transmit h peer kind
  simp only [Turn.retransmit]
  split
  · exact ht
  · split
    · exact ht
    · exact ht

end Turn.Keeps

lemma Move.keeps {n₀ : Node} {v : Visit} {t t' : Turn} {as : List Alarm} (m : Move n₀ v t t')
    (h : t.Keeps as) : t'.Keeps as := by
  cases m with
  | arm delay hr => exact h.arm delay hr
  | disarm => exact h.disarm _
  | forget => exact Kept.forget h _
  | lifecycle | decideLater | incidentLater => exact Outbox.Keeps.schedule h _ _
  | broadcast | announce => exact h.broadcastPacket _
  | send | answer => exact Outbox.Keeps.send h _ _
  | offer | sendMap => exact Outbox.Keeps.arm h _ _ _
  | cancelOffers | satisfyAll => exact Outbox.Keeps.giveUp h _
  | retransmit => exact h.retransmit _ _
  | acknowledged => exact Outbox.Keeps.acknowledge h _ _
  | startFirst => exact h.startFirst
  | startAlone | adopt | relax => exact Turn.Keeps.scheduleActivation (t := t.setSchedule _) h
  | activate =>
    exact Turn.Keeps.activate (t := t.setSlot .activation none) (Kept.forget h .activation)
  | _ => exact h

lemma Moves.keeps {n₀ : Node} {v : Visit} {t t' : Turn} {as : List Alarm} (h : Moves n₀ v t t')
    (hk : t.Keeps as) : t'.Keeps as := h.induct hk fun _ _ hk m => m.keeps hk

/-! ### Visits -/

/-- The slots after a timer has gone off. -/
def Slots.release (s : Slots) (timer : Timer) : Slots :=
  match timer.slot? with
  | none => s
  | some slot => s.set none slot

lemma Slots.get_release {s : Slots} {timer : Timer} {slot : Slot} {handle : TimerHandle}
    (h : (s.release timer).get slot = some handle) :
    s.get slot = some handle ∧ ¬ slot.rings timer := by
  rw [Slot.rings_iff]
  unfold release at h
  split at h
  · rename_i ht
    rw [ht]
    exact ⟨h, nofun⟩
  · rename_i slot' ht
    rw [ht]
    by_cases he : slot = slot'
    · rw [he, get_set_self] at h
      cases h
    · rw [get_set_of_ne _ _ he] at h
      exact ⟨h, fun hs => he (Option.some.inj hs).symm⟩

/-- A node that is called for a timer empties its slot, or fills it anew. -/
lemma Node.visit_release (n : Node) {v : Visit} {timer : Timer} (hv : v.call = .timer timer) :
    { n with slots := n.slots.release timer }.visit v = n.visit v := by
  simp only [Node.visit]
  rw [hv]
  cases timer <;> rfl

/-- What a visit keeps. -/
lemma Kept.visit {n : Node} {v : Visit} {as : List Alarm}
    (h : Kept n.slots n.reliable.pending v.nextHandle as) :
    Kept (n.visit v).node.slots (n.visit v).node.reliable.pending (n.visit v).outbox.nextHandle
      ((n.visit v).outbox.alarms v.now as) := by
  have hm := (moves_visit n v).induct (P := fun t => t.now = v.now ∧ t.Keeps as) ⟨rfl, h⟩
    fun t t' ht m => ⟨m.alike.now.trans ht.1, m.keeps ht.2⟩
  exact hm.1 ▸ hm.2

lemma Kept.ring {slots : Slots} {pending : Table (NodeId × MessageKind) Pending} {next : Nat}
    {as : List Alarm} {a : Alarm} (h : Kept slots pending next as) :
    Kept (slots.release a.timer) pending next (as.erase a) := by
  refine ⟨h.orderly.erase a, fun slot handle hs => ?_, h.old, fun key p hp b hb => ?_⟩
  · obtain ⟨hs, hr⟩ := Slots.get_release hs
    obtain ⟨b, hb, he, hr'⟩ := h.armed slot handle hs
    refine ⟨b, (List.mem_erase_of_ne ?_).2 hb, he, hr'⟩
    rintro rfl
    exact hr hr'
  · exact h.apart key p hp b (List.mem_of_mem_erase hb)

namespace Bench

variable {b b' : Bench} {v : Visit}

/-- The handles that the node keeps are those of timers that are pending at the bench. -/
def Keeps (b : Bench) : Prop := Kept b.node.slots b.node.reliable.pending b.nextHandle b.alarms

lemma Keeps.of_isNew (hn : b.node.IsNew) (ha : b.alarms = []) : b.Keeps := by
  obtain ⟨-, hp, -, hs⟩ := hn.blank
  simp only [Keeps]
  rw [hp, hs, ha]
  refine ⟨.nil _, fun slot handle h => ?_, fun key p h => ?_, fun key p h => ?_⟩
  · cases slot <;> cases h
  · cases h
  · cases h

lemma Keeps.serves (h : b.Keeps) (hs : b.Serves v b') : b'.Keeps := by
  obtain ⟨as, hl, has⟩ := hs.alarms
  have hv := Kept.mono h hs.handles
  simp only [Keeps]
  rw [hs.node, hs.nextHandle, has]
  cases hl with
  | all => exact hv.visit
  | others _ hc =>
    rw [← b.node.visit_release hc]
    exact Kept.visit (n := { b.node with slots := _ }) hv.ring

lemma Reaches.keeps {b₀ : Bench} (hn : b₀.node.IsNew) (ha : b₀.alarms = []) (h : b₀.Reaches b) :
    b.Keeps := by
  induction h with
  | refl => exact .of_isNew hn ha
  | step _ hs ih => exact ih.serves hs

end Bench

end ClusterWave
