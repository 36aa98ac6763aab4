import ClusterWave.Proofs.Bench.Keep

/-!
# Slots and alarms

The handles that a node keeps are exactly those of the timers that are pending and can be told by
their slot or their message. A timer is armed only under a slot that is free, so that no alarm is
forgotten, and with every message that is pending there is one alarm for its next transmission.
So whatever timer a node cancels is pending at that moment.
-/

namespace ClusterWave

/-- The message that a timer is to send again. -/
def Timer.resends? : Timer → Option (NodeId × MessageKind)
  | .retransmit peer kind => some (peer, kind)
  | _ => none

lemma Timer.resends?_iff {timer : Timer} {key : NodeId × MessageKind} :
    timer.resends? = some key ↔ timer = .retransmit key.1 key.2 := by
  cases timer with
  | retransmit peer kind =>
    constructor
    · rintro ⟨⟩
      rfl
    · rintro ⟨⟩
      rfl
  | _ => simp [resends?]

lemma Timer.eq_of_retransmit {timer : Timer} {key key' : NodeId × MessageKind}
    (h : timer = .retransmit key.1 key.2) (h' : timer = .retransmit key'.1 key'.2) : key = key' :=
  Option.some.inj ((resends?_iff.2 h).symm.trans (resends?_iff.2 h'))

/-- A timer that is armed under a slot does not send anything again. -/
lemma Slot.resends?_of_rings {slot : Slot} {timer : Timer} (h : slot.rings timer) :
    timer.resends? = none := by
  cases timer <;> first | rfl | (cases slot <;> cases h)

lemma Slot.not_rings_retransmit (slot : Slot) (peer : NodeId) (kind : MessageKind) :
    ¬ slot.rings (.retransmit peer kind) := by
  cases slot <;> exact Bool.false_ne_true

/-- What holds of the alarms for the slots and for the pending messages of a node: the alarm for a
slot is the one in the slot, the alarm for a message is the one of which its entry has the handle,
and for each pending message there is one. The message that is just being sent again is an
exception, as its alarm has gone off. -/
structure Matched (slots : Slots) (pending : Table (NodeId × MessageKind) Pending)
    (as : List Alarm) (resent : Option (NodeId × MessageKind)) : Prop where
  held : ∀ a ∈ as, ∀ slot : Slot, slot.rings a.timer → slots.get slot = some a.handle
  awaited : ∀ a ∈ as, ∀ key, a.timer.resends? = some key →
    ∃ p, pending.get? key = some p ∧ p.timer = a.handle
  live : ∀ key p, pending.get? key = some p → resent ≠ some key → ∃ a ∈ as, a.handle = p.timer

namespace Matched

variable {slots : Slots} {pending : Table (NodeId × MessageKind) Pending} {next : Nat}
  {as as' : List Alarm} {slot : Slot} {timer : Timer} {handle : TimerHandle} {due : Timestamp}
  {key : NodeId × MessageKind} {p : Pending} {resent : Option (NodeId × MessageKind)}

lemma congr (h : Matched slots pending as resent) (ha : ∀ a, a ∈ as' ↔ a ∈ as) :
    Matched slots pending as' resent := by
  constructor
  · intro a hm
    exact h.held a ((ha a).1 hm)
  · intro a hm
    exact h.awaited a ((ha a).1 hm)
  · intro key p hp hr
    obtain ⟨a, hm, he⟩ := h.live key p hp hr
    exact ⟨a, (ha a).2 hm, he⟩

/-! ### Slots -/

/-- A timer is armed under a slot that is free. -/
lemma arm (h : Matched slots pending as resent) (hs : slots.get slot = none)
    (hr : slot.rings timer) :
    Matched (slots.set (some handle) slot) pending (Alarm.insert ⟨due, handle, timer⟩ as)
      resent := by
  constructor
  · intro a ha slot' hr'
    rcases Alarm.mem_insert.1 ha with rfl | ha
    · rw [Slot.eq_of_rings hr' hr, Slots.get_set_self]
    · have hheld := h.held a ha slot' hr'
      have hne : slot' ≠ slot := by
        rintro rfl
        rw [hs] at hheld
        cases hheld
      rw [Slots.get_set_of_ne _ _ hne]
      exact hheld
  · intro a ha key hk
    rcases Alarm.mem_insert.1 ha with rfl | ha
    · rw [Slot.resends?_of_rings hr] at hk
      cases hk
    · exact h.awaited a ha key hk
  · intro key p hp hne
    obtain ⟨a, ha, he⟩ := h.live key p hp hne
    exact ⟨a, Alarm.mem_insert.2 (.inr ha), he⟩

/-- A timer of which the handle is not kept is armed. -/
lemma schedule (h : Matched slots pending as resent) (hs : timer.slot? = none)
    (hr : timer.resends? = none) :
    Matched slots pending (Alarm.insert ⟨due, handle, timer⟩ as) resent := by
  constructor
  · intro a ha slot' hr'
    rcases Alarm.mem_insert.1 ha with rfl | ha
    · rw [Slot.rings_iff, hs] at hr'
      cases hr'
    · exact h.held a ha slot' hr'
  · intro a ha key hk
    rcases Alarm.mem_insert.1 ha with rfl | ha
    · rw [hr] at hk
      cases hk
    · exact h.awaited a ha key hk
  · intro key p hp hne
    obtain ⟨a, ha, he⟩ := h.live key p hp hne
    exact ⟨a, Alarm.mem_insert.2 (.inr ha), he⟩

/-- The alarm in a slot is not that of a message. -/
lemma ne_of_held (hk : Kept slots pending next as) (hs : slots.get slot = some handle)
    (hp : pending.get? key = some p) : p.timer ≠ handle := by
  intro he
  obtain ⟨a, ha, hah, hr⟩ := hk.armed slot handle hs
  have ht := hk.apart key p hp a ha (hah.trans he.symm)
  rw [ht] at hr
  exact slot.not_rings_retransmit _ _ hr

lemma disarm (h : Matched slots pending as resent) (hk : Kept slots pending next as)
    (hs : slots.get slot = some handle) :
    Matched (slots.set none slot) pending (as.filter fun a => a.handle != handle) resent := by
  constructor
  · intro a ha slot' hr
    obtain ⟨ha, hne⟩ := List.mem_filter.1 ha
    have hheld := h.held a ha slot' hr
    have hne : slot' ≠ slot := by
      rintro rfl
      rw [hs] at hheld
      exact bne_iff_ne.1 hne (Option.some.inj hheld).symm
    rw [Slots.get_set_of_ne _ _ hne]
    exact hheld
  · intro a ha
    exact h.awaited a (List.mem_filter.1 ha).1
  · intro key p hp hne
    obtain ⟨a, ha, he⟩ := h.live key p hp hne
    refine ⟨a, List.mem_filter.2 ⟨ha, bne_iff_ne.2 ?_⟩, he⟩
    rw [he]
    exact ne_of_held hk hs hp

/-! ### Pending messages -/

/-- Every message has an alarm of its own. -/
lemma ne_of_ne (h : Matched slots pending as resent) (hk : Kept slots pending next as)
    {key' : NodeId × MessageKind} {p' : Pending} (hp : pending.get? key = some p)
    (hp' : pending.get? key' = some p') (hr : resent ≠ some key') (hne : key' ≠ key) :
    p'.timer ≠ p.timer := by
  intro he
  obtain ⟨a, ha, hah⟩ := h.live key' p' hp' hr
  have ht := hk.apart key' p' hp' a ha hah
  exact hne (Timer.eq_of_retransmit ht (hk.apart key p hp a ha (hah.trans he)))

/-- A message is given up together with its alarm. -/
lemma drop (h : Matched slots pending as none) (hk : Kept slots pending next as)
    (hp : pending.get? key = some p) :
    Matched slots (pending.erase key) (as.filter fun a => a.handle != p.timer) none := by
  constructor
  · intro a ha
    exact h.held a (List.mem_filter.1 ha).1
  · intro a ha key' hr
    obtain ⟨ha, hne⟩ := List.mem_filter.1 ha
    obtain ⟨p', hp', he⟩ := h.awaited a ha key' hr
    have hkey : key' ≠ key := by
      rintro rfl
      rw [hp] at hp'
      rw [Option.some.inj hp'] at hne
      exact bne_iff_ne.1 hne he.symm
    exact ⟨p', by rw [Table.get?_erase_of_ne _ hkey, hp'], he⟩
  · intro key' p' hp' hr
    have hkey : key' ≠ key := by
      rintro rfl
      rw [Table.get?_erase_self] at hp'
      cases hp'
    rw [Table.get?_erase_of_ne _ hkey] at hp'
    obtain ⟨a, ha, he⟩ := h.live key' p' hp' hr
    refine ⟨a, List.mem_filter.2 ⟨ha, bne_iff_ne.2 ?_⟩, he⟩
    rw [he]
    exact h.ne_of_ne hk hp hp' hr hkey

/-- A message is taken up, or sent again, together with an alarm for it. -/
lemma await (h : Matched slots pending as (some key)) (due : Timestamp)
    (hn : ∀ a ∈ as, a.timer.resends? ≠ some key) :
    Matched slots (pending.insert key p)
      (Alarm.insert ⟨due, p.timer, .retransmit key.1 key.2⟩ as) none := by
  constructor
  · intro a ha slot hr
    rcases Alarm.mem_insert.1 ha with rfl | ha
    · exact absurd hr (slot.not_rings_retransmit _ _)
    · exact h.held a ha slot hr
  · intro a hm key' hr
    rcases Alarm.mem_insert.1 hm with rfl | ha
    · obtain rfl : key = key' := Option.some.inj hr
      exact ⟨p, Table.get?_insert_self _ _ _, rfl⟩
    · have hkey : key' ≠ key := fun he => hn a ha (he ▸ hr)
      rw [Table.get?_insert_of_ne _ _ hkey]
      exact h.awaited a ha key' hr
  · intro key' p' hp' _
    rcases Table.of_get?_insert hp' with ⟨rfl, rfl⟩ | ⟨hkey, hp'⟩
    · exact ⟨_, Alarm.mem_insert.2 (.inl rfl), rfl⟩
    · obtain ⟨a, ha, he⟩ := h.live key' p' hp' fun he => hkey (Option.some.inj he).symm
      exact ⟨a, Alarm.mem_insert.2 (.inr ha), he⟩

lemma weaken (h : Matched slots pending as none) (resent : Option (NodeId × MessageKind)) :
    Matched slots pending as resent :=
  { h with live := fun key p hp _ => h.live key p hp (by simp) }

/-! ### Alarms that go off -/

lemma ring {a : Alarm} (h : Matched slots pending as none) (hk : Kept slots pending next as)
    (ha : a ∈ as) :
    Matched (slots.release a.timer) pending (as.erase a) a.timer.resends? := by
  have hne (b : Alarm) (hb : b ∈ as.erase a) : b.handle ≠ a.handle := by
    intro he
    have hba := hk.orderly.eq_of_handle (List.mem_of_mem_erase hb) ha he
    exact hk.orderly.not_mem_erase a (hba ▸ hb)
  constructor
  · intro b hb slot hr
    have hheld := h.held b (List.mem_of_mem_erase hb) slot hr
    have hslot : a.timer.slot? ≠ some slot := by
      intro hs
      have hheld' := h.held a ha slot (Slot.rings_iff.2 hs)
      exact hne b hb (Option.some.inj (hheld.symm.trans hheld'))
    simp only [Slots.release]
    split
    · exact hheld
    · rename_i slot' hs
      have hss : slot ≠ slot' := fun he => hslot (he ▸ hs)
      rw [Slots.get_set_of_ne _ _ hss]
      exact hheld
  · intro b hb
    exact h.awaited b (List.mem_of_mem_erase hb)
  · intro key p hp hr
    obtain ⟨b, hb, he⟩ := h.live key p hp (by simp)
    refine ⟨b, (List.mem_erase_of_ne ?_).2 hb, he⟩
    rintro rfl
    exact hr (Timer.resends?_iff.2 (hk.apart key p hp b hb he))

/-- When the alarm of a message goes off, no other one for the message is left. -/
lemma resends?_ne_of_ring {a : Alarm} (h : Matched slots pending as none)
    (hk : Kept slots pending next as) (ha : a ∈ as) (hr : a.timer.resends? = some key) :
    ∀ b ∈ as.erase a, b.timer.resends? ≠ some key := by
  intro b hb hrb
  obtain ⟨p, hp, he⟩ := h.awaited a ha key hr
  obtain ⟨p', hp', he'⟩ := h.awaited b (List.mem_of_mem_erase hb) key hrb
  obtain rfl : p = p' := Option.some.inj (hp.symm.trans hp')
  have hba := hk.orderly.eq_of_handle (List.mem_of_mem_erase hb) ha (he'.symm.trans he)
  exact hk.orderly.not_mem_erase a (hba ▸ hb)

end Matched

/-- Alarms that pass a test are the one with a given handle, or none, if they all have it and there
is one whenever it is given. -/
lemma Alarm.Orderly.map_handle_filter {as : List Alarm} {next : Nat} (h : Alarm.Orderly as next)
    {test : Alarm → Bool} {handle : Option TimerHandle}
    (hall : ∀ a ∈ as, test a → handle = some a.handle)
    (hone : ∀ x, handle = some x → ∃ a ∈ as, a.handle = x ∧ test a) :
    (as.filter test).map Alarm.handle = handle.toList := by
  have hnodup : ((as.filter test).map Alarm.handle).Nodup :=
    List.pairwise_map.2 (h.distinct.filter test)
  have hmem (x : TimerHandle) :
      x ∈ (as.filter test).map Alarm.handle ↔ x ∈ handle.toList := by
    rw [List.mem_map, Option.mem_toList]
    constructor
    · rintro ⟨a, ha, rfl⟩
      obtain ⟨ha, ht⟩ := List.mem_filter.1 ha
      exact hall a ha ht
    · intro hx
      obtain ⟨a, ha, he, ht⟩ := hone x hx
      exact ⟨a, List.mem_filter.2 ⟨ha, ht⟩, he⟩
  cases handle with
  | none => exact List.eq_nil_iff_forall_not_mem.2 fun x hx => absurd ((hmem x).1 hx) (by simp)
  | some y =>
    have hp : ((as.filter test).map Alarm.handle).Perm [y] :=
      (List.perm_ext_iff_of_nodup hnodup (List.pairwise_singleton _ y)).2 hmem
    exact List.perm_singleton.1 hp

/-- The alarms for a message to a peer are the one of which the pending entry has the handle. -/
lemma Matched.handles_eq_pending {slots : Slots} {pending : Table (NodeId × MessageKind) Pending}
    {next : Nat} {as : List Alarm} (h : Matched slots pending as none)
    (hk : Kept slots pending next as) (peer : NodeId) (kind : MessageKind) :
    (as.filter fun a => a.timer = .retransmit peer kind).map Alarm.handle =
      ((pending.get? (peer, kind)).map Pending.timer).toList := by
  apply hk.orderly.map_handle_filter
  · intro a ha hr
    obtain ⟨p, hp, he⟩ := h.awaited a ha (peer, kind) (Timer.resends?_iff.2 (of_decide_eq_true hr))
    rw [hp, ← he]
    rfl
  · intro handle hs
    obtain ⟨p, hp, rfl⟩ := Option.map_eq_some_iff.1 hs
    obtain ⟨a, ha, he⟩ := h.live _ p hp (by simp)
    exact ⟨a, ha, he, decide_eq_true (hk.apart _ p hp a ha he)⟩

/-! ### Cancellations -/

/-- Whether every timer that is cancelled is pending at that moment. -/
def Outbox.Sound (o : Outbox) (now : Timestamp) (as : List Alarm) : Prop :=
  ∀ before handle after, o.effects = before ++ .cancel handle :: after →
    ∃ a ∈ before.foldl (Alarm.apply now) as, a.handle = handle

lemma Outbox.Sound.fresh (next : Nat) (now : Timestamp) (as : List Alarm) :
    (Outbox.fresh next).Sound now as := by
  intro before handle after he
  cases before <;> cases he

lemma Outbox.Sound.add {o : Outbox} {now : Timestamp} {as : List Alarm} (h : o.Sound now as)
    {e : Effect} (he : ∀ handle, e = .cancel handle → ∃ a ∈ o.alarms now as, a.handle = handle) :
    (o.add e).Sound now as := by
  intro before handle after heff
  have heff : o.effects ++ [e] = before ++ .cancel handle :: after := heff
  rcases cut_append_singleton heff with ⟨rfl, hc, -⟩ | ⟨rest, -, heff⟩
  · exact he handle hc.symm
  · exact h before handle rest heff

/-- What holds of the slots and the reliable sender of a node, while an outbox is filled that began
with some alarms. -/
structure Outbox.Matches (o : Outbox) (slots : Slots) (s : ReliableSender) (now : Timestamp)
    (as : List Alarm) : Prop where
  keeps : o.Keeps slots s now as
  matched : Matched slots s.pending (o.alarms now as) none
  sound : o.Sound now as

namespace Outbox.Matches

variable {o : Outbox} {slots : Slots} {s s' : ReliableSender} {now : Timestamp} {as : List Alarm}
  {p : Pending} {timer : Timer} {slot : Slot} {handle : TimerHandle}

lemma fresh {next : Nat} (hk : Kept slots s.pending next as)
    (hm : Matched slots s.pending as none) : (Outbox.fresh next).Matches slots s now as := by
  exact ⟨hk, hm, .fresh next now as⟩

lemma schedule (h : o.Matches slots s now as) (delay : Duration) (hs : timer.slot? = none)
    (hr : timer.resends? = none) : (o.schedule delay timer).Matches slots s now as := by
  refine ⟨h.keeps.schedule delay timer, ?_, h.sound.add (by simp)⟩
  rw [alarms_schedule]
  exact h.matched.schedule hs hr

lemma arm (h : o.Matches slots s now as) (delay : Duration) (hs : slots.get slot = none)
    (hr : slot.rings timer) :
    (o.schedule delay timer).Matches (slots.set (some o.handle) slot) s now as := by
  refine ⟨?_, ?_, h.sound.add (by simp)⟩
  · rw [Outbox.Keeps, alarms_schedule]
    exact Kept.arm h.keeps _ hr
  · rw [alarms_schedule]
    exact h.matched.arm hs hr

lemma disarm (h : o.Matches slots s now as) (hs : slots.get slot = some handle) :
    (o.cancel handle).Matches (slots.set none slot) s now as := by
  refine ⟨?_, ?_, h.sound.add ?_⟩
  · rw [Outbox.Keeps, alarms_cancel]
    exact Kept.disarm h.keeps hs
  · rw [alarms_cancel]
    exact h.matched.disarm h.keeps hs
  · rintro _ ⟨⟩
    obtain ⟨a, ha, he, -⟩ := h.keeps.armed slot handle hs
    exact ⟨a, ha, he⟩

lemma broadcast (h : o.Matches slots s now as) (packet : Packet) :
    (o.broadcast packet).Matches slots s now as := by
  refine ⟨?_, ?_, h.sound.add (by simp)⟩
  · rw [Outbox.Keeps, alarms_broadcast]
    exact h.keeps
  · rw [alarms_broadcast]
    exact h.matched

lemma send (h : o.Matches slots s now as) (peer : NodeId) (packet : Packet) :
    (o.send peer packet).Matches slots s now as := by
  refine ⟨h.keeps.send peer packet, ?_, h.sound.add (by simp)⟩
  rw [alarms_send]
  exact h.matched

/-! ### Reliable delivery -/

lemma drop (h : o.Matches slots s now as) {key : NodeId × MessageKind}
    (hp : s.pending.get? key = some p) :
    (o.cancel p.timer).Matches slots { s with pending := s.pending.erase key } now as := by
  refine ⟨?_, ?_, h.sound.add ?_⟩
  · exact (h.keeps.silence hp).drop fun _ _ hq => Table.of_get?_erase hq
  · rw [alarms_cancel]
    exact h.matched.drop h.keeps hp
  · rintro _ ⟨⟩
    exact h.matched.live key p hp (by simp)

/-- The message that was pending is silenced, but not before the new one is armed. That makes no
difference for the alarms. -/
lemma take (h : o.Matches slots s now as) (peer : NodeId) (m : Message) (delay : Duration) :
    (s.arm o peer m delay).2.Matches slots (s.arm o peer m delay).1 now as := by
  have hkeeps := h.keeps.arm peer m delay
  simp only [ReliableSender.arm] at hkeeps ⊢
  cases hp : s.pending.get? (peer, m.kind) with
  | none =>
    rw [hp] at hkeeps
    refine ⟨hkeeps, ?_, h.sound.add (by simp)⟩
    rw [ReliableSender.silence, alarms_schedule]
    refine (h.matched.weaken (some (peer, m.kind))).await _ ?_
    intro a ha hr
    obtain ⟨q, hq, -⟩ := h.matched.awaited a ha _ hr
    rw [hp] at hq
    cases hq
  | some q =>
    rw [hp] at hkeeps
    have hd := h.drop hp
    have hold : q.timer ≠ o.handle := fun he =>
      Nat.ne_of_lt (h.keeps.old _ q hp) (congrArg TimerHandle.val he)
    refine ⟨hkeeps, ?_, ?_⟩
    · rw [ReliableSender.silence, alarms_cancel, alarms_schedule, ← Table.insert_erase]
      have hn : ∀ a ∈ (o.cancel q.timer).alarms now as,
          a.timer.resends? ≠ some (peer, m.kind) := by
        intro a ha hr
        obtain ⟨q', hq', -⟩ := hd.matched.awaited a ha _ hr
        rw [Table.get?_erase_self] at hq'
        cases hq'
      refine ((hd.matched.weaken (some (peer, m.kind))).await (now + delay) hn).congr ?_
      intro a
      rw [List.mem_filter, Alarm.mem_insert, Alarm.mem_insert, alarms_cancel, List.mem_filter,
        or_and_right]
      refine or_congr_left (and_iff_left_of_imp ?_)
      rintro rfl
      exact bne_iff_ne.2 hold.symm
    · refine Outbox.Sound.add (o := o.schedule _ _) (h.sound.add (by simp)) ?_
      rintro _ ⟨⟩
      obtain ⟨a, ha, he⟩ := h.matched.live _ q hp (by simp)
      exact ⟨a, by rw [alarms_schedule]; exact Alarm.mem_insert.2 (.inr ha), he⟩

lemma acknowledge (h : o.Matches slots s now as) (peer : NodeId) (kind : MessageKind) :
    (s.acknowledge o peer kind).2.1.Matches slots (s.acknowledge o peer kind).1 now as := by
  simp only [ReliableSender.acknowledge]
  split
  · exact h
  · rename_i p hp
    exact h.drop hp

/-- Some messages are given up one after the other. -/
lemma drops (h : o.Matches slots s now as) {es : List ((NodeId × MessageKind) × Pending)}
    (hn : (es.map Prod.fst).Nodup) (he : ∀ e ∈ es, s.pending.get? e.1 = some e.2)
    (hs : ∀ key, s'.pending.get? key =
      if key ∈ es.map Prod.fst then none else s.pending.get? key) :
    (es.foldl (fun o e => o.cancel e.2.timer) o).Matches slots s' now as := by
  induction es generalizing o s with
  | nil =>
    have hp : s'.pending = s.pending :=
      Table.ext_get? fun key => (hs key).trans (if_neg List.not_mem_nil)
    have hkeeps : o.Keeps slots s' now as := by
      rw [Outbox.Keeps, hp]
      exact h.keeps
    exact ⟨hkeeps, hp ▸ h.matched, h.sound⟩
  | cons e es ih =>
    obtain ⟨hne, hn⟩ := List.nodup_cons.1 hn
    refine ih (h.drop (he e List.mem_cons_self)) hn ?_ ?_
    · intro e' hm
      have hkey : e'.1 ≠ e.1 := by
        intro heq
        exact hne (heq ▸ List.mem_map_of_mem hm)
      rw [Table.get?_erase_of_ne _ hkey]
      exact he e' (List.mem_cons_of_mem e hm)
    · intro key
      rw [hs key, List.map_cons]
      by_cases hm : key ∈ es.map Prod.fst
      · rw [if_pos hm, if_pos (List.mem_cons_of_mem _ hm)]
      · rw [if_neg hm]
        by_cases hkey : key = e.1
        · rw [hkey, if_pos List.mem_cons_self, Table.get?_erase_self]
        · rw [if_neg (List.not_mem_cons_of_ne_of_not_mem hkey hm), Table.get?_erase_of_ne _ hkey]

lemma giveUp (h : o.Matches slots s now as) (test : NodeId × MessageKind → Bool) :
    (s.giveUp o test).2.1.Matches slots (s.giveUp o test).1 now as := by
  simp only [ReliableSender.giveUp, Table.values, List.foldl_map]
  apply h.drops (Table.nodup_keys _)
  · intro e hm
    have hq := Table.get?_eq_some_iff.2 hm
    rw [Table.get?_filter, Option.filter_eq_some_iff] at hq
    exact hq.1
  · intro key
    have hkeys : key ∈ (s.pending.filter fun key _ => test key).entries.map Prod.fst ↔
        (s.pending.get? key).isSome ∧ test key := by
      refine Table.mem_keys_iff.trans ?_
      rw [Table.get?_filter]
      cases s.pending.get? key <;> simp [Option.filter]
    simp only [hkeys, Table.get?_filter]
    cases s.pending.get? key <;> cases test key <;> simp [Option.filter]

/-- A message is sent again when its alarm has gone off. -/
lemma transmit {peer : NodeId} {kind : MessageKind} (hk : o.Keeps slots s now as)
    (hm : Matched slots s.pending (o.alarms now as) (some (peer, kind))) (hs : o.Sound now as)
    (hn : ∀ a ∈ o.alarms now as, a.timer.resends? ≠ some (peer, kind)) :
    (s.transmit o peer kind).2.1.Matches slots (s.transmit o peer kind).1 now as := by
  have hkeeps := hk.transmit peer kind
  simp only [ReliableSender.transmit] at hkeeps ⊢
  split
  · rename_i hp
    refine ⟨hk, ⟨hm.held, hm.awaited, ?_⟩, hs⟩
    intro key p hp' _
    apply hm.live key p hp'
    rintro ⟨⟩
    rw [hp] at hp'
    cases hp'
  · rename_i p hp
    rw [hp] at hkeeps
    refine ⟨hkeeps, ?_, Outbox.Sound.add (o := o.send _ _) (hs.add (by simp)) (by simp)⟩
    rw [alarms_schedule, alarms_send]
    exact hm.await _ hn

end Outbox.Matches

/-! ### Moves -/

/-- What holds at a turn that began with some alarms. -/
def Turn.Matches (as : List Alarm) (t : Turn) : Prop :=
  t.outbox.Matches t.node.slots t.node.reliable t.now as

namespace Turn.Matches

variable {t : Turn} {as : List Alarm} {slot : Slot} {timer : Timer}

lemma arm (h : t.Matches as) (delay : Duration) (hs : t.node.slots.get slot = none)
    (hr : slot.rings timer) : (t.arm slot delay timer).Matches as :=
  Outbox.Matches.arm h delay hs hr

lemma disarm (h : t.Matches as) (slot : Slot) : (t.disarm slot).Matches as := by
  simp only [Turn.disarm]
  split
  · exact h
  · rename_i handle hs
    exact Outbox.Matches.disarm h hs

lemma rearm (h : t.Matches as) (delay : Duration) (hr : slot.rings timer) :
    ((t.disarm slot).arm slot delay timer).Matches as := by
  refine (h.disarm slot).arm delay ?_ hr
  rw [Turn.node_disarm]
  exact Slots.get_set_self _ _ _

lemma scheduleActivation (h : t.Matches as) : t.scheduleActivation.Matches as := by
  simp only [Turn.scheduleActivation]
  split
  · exact h
  · exact rearm (t := t.setStatus .ready) h _ rfl

lemma startFirst (h : t.Matches as) : t.startFirst.Matches as := by
  simp only [Turn.startFirst]
  split
  · exact scheduleActivation (t := t.setSchedule _) h
  · exact h

lemma activate (h : t.Matches as) : t.activate.Matches as := by
  have hb (f : Counters → Counters) (m : Message) :
      (((t.setStatus .running).count f).advanceSeq.broadcast m).Matches as :=
    Outbox.Matches.broadcast h _
  simp only [Turn.activate]
  split
  · exact (hb _ _).rearm _ rfl
  · exact Outbox.Matches.schedule (hb _ _) _ rfl rfl

lemma noteRole (h : t.Matches as) (before : Degree × Option NodeId) :
    (t.noteRole before).Matches as := by
  simp only [Turn.noteRole]
  split
  · exact h
  · exact h

end Turn.Matches

lemma Slots.release_release (s : Slots) (timer : Timer) :
    (s.release timer).release timer = s.release timer := by
  cases timer <;> rfl

/-- In a visit about a timer the slot of the timer has been emptied before. -/
lemma Turn.Free.get_eq_none {n : Node} {v : Visit} {t : Turn} {slot : Slot} (h : t.Free n v slot)
    (hn : ∀ timer, v.call = .timer timer → n.slots.release timer = n.slots) :
    t.node.slots.get slot = none := by
  rcases h with h | ⟨⟨timer, hv, hr⟩, h⟩
  · exact h
  · rw [h, ← hn timer hv]
    cases hg : (n.slots.release timer).get slot with
    | none => rfl
    | some handle => exact absurd hr (Slots.get_release hg).2

/-- A move keeps slots and alarms matched, unless a message is sent again. -/
lemma Move.matches {n : Node} {v : Visit} {t t' : Turn} {as : List Alarm} (m : Move n v t t')
    (hn : ∀ timer, v.call = .timer timer → n.slots.release timer = n.slots)
    (hv : ∀ peer kind, v.call ≠ .timer (.retransmit peer kind)) (h : t.Matches as) :
    t'.Matches as := by
  cases m with
  | arm delay hr hne hf => exact h.arm delay (hf.get_eq_none hn) hr
  | disarm => exact h.disarm _
  | @forget slot hne hf =>
    have hs : t.node.slots.set none slot = t.node.slots := by
      rw [← hf.get_eq_none hn, Slots.set_get]
    exact Eq.subst (motive := fun s => t.outbox.Matches s t.node.reliable t.now as) hs.symm h
  | lifecycle delay hc ht =>
    rcases ht with rfl | rfl
    · exact Outbox.Matches.schedule h delay rfl rfl
    · exact Outbox.Matches.schedule h delay rfl rfl
  | decideLater | incidentLater => exact Outbox.Matches.schedule h _ rfl rfl
  | broadcast | announce => exact Outbox.Matches.broadcast h _
  | send | answer => exact Outbox.Matches.send h _ _
  | offer | sendMap => exact Outbox.Matches.take h _ _ _
  | cancelOffers | satisfyAll => exact Outbox.Matches.giveUp h _
  | retransmit hc => exact absurd hc (hv _ _)
  | acknowledged => exact Outbox.Matches.acknowledge h _ _
  | startFirst => exact h.startFirst
  | startAlone | adopt | relax => exact Turn.Matches.scheduleActivation (t := t.setSchedule _) h
  | activate hc hf =>
    have hs : t.node.slots.set none .activation = t.node.slots := by
      rw [← hf.get_eq_none hn, Slots.set_get]
    have hf : (t.setSlot .activation none).Matches as :=
      Eq.subst (motive := fun s => t.outbox.Matches s t.node.reliable t.now as) hs.symm h
    exact hf.activate
  | _ => exact h

/-! ### Visits -/

namespace Node

variable {n : Node} {v : Visit} {as : List Alarm}

/-- A visit keeps slots and alarms matched. If it is about a timer, the alarm is gone and the slot
is empty already. -/
lemma matches_visit (hn : ∀ timer, v.call = .timer timer → n.slots.release timer = n.slots)
    (hv : ∀ peer kind, v.call ≠ .timer (.retransmit peer kind))
    (hk : Kept n.slots n.reliable.pending v.nextHandle as)
    (hm : Matched n.slots n.reliable.pending as none) : (n.visit v).Matches as := by
  have h₀ : (Turn.start n v.now v.position v.nextHandle).Matches as := Outbox.Matches.fresh hk hm
  exact (moves_visit n v).induct h₀ fun t t' h m => m.matches hn hv h

/-- So does a visit in which a message is sent again. -/
lemma matches_visit_retransmit {peer : NodeId} {kind : MessageKind}
    (hv : v.call = .timer (.retransmit peer kind))
    (hk : Kept n.slots n.reliable.pending v.nextHandle as)
    (hm : Matched n.slots n.reliable.pending as (some (peer, kind)))
    (hn : ∀ a ∈ as, a.timer.resends? ≠ some (peer, kind)) : (n.visit v).Matches as := by
  have ht : (n.reliable.transmit (Outbox.fresh v.nextHandle) peer kind).2.1.Matches n.slots
      (n.reliable.transmit (Outbox.fresh v.nextHandle) peer kind).1 v.now as :=
    Outbox.Matches.transmit hk hm (.fresh v.nextHandle v.now as) hn
  rw [n.visit_eq_retransmit hv]
  apply Turn.Matches.noteRole
  rw [Turn.Matches, Turn.outbox_retransmit, Turn.now_retransmit, Turn.node_retransmit]
  exact ht

end Node

/-! ### Benches -/

namespace Bench

open Visit (rings)

variable {b b' b₀ : Bench} {v : Visit} {as : List Alarm}

/-- The slots and the pending messages of the node match the alarms at the bench. -/
structure Matches (b : Bench) : Prop where
  keeps : b.Keeps
  matched : Matched b.node.slots b.node.reliable.pending b.alarms none

namespace Matches

lemma of_isNew (hn : b.node.IsNew) (ha : b.alarms = []) : b.Matches := by
  refine ⟨.of_isNew hn ha, ?_⟩
  obtain ⟨-, hp, -, -⟩ := hn.blank
  rw [ha, hp]
  constructor
  · intro a hm
    cases hm
  · intro a hm
    cases hm
  · intro key p hp
    cases hp

/-- Whatever the node is called for next, it finds its alarms matched in the visit. -/
lemma visit (h : b.Matches) (hh : b.nextHandle ≤ v.nextHandle) (hl : Left v b.alarms as) :
    (b.node.visit v).Matches as := by
  have hk := Kept.mono h.keeps hh
  cases hl with
  | all hc => exact Node.matches_visit (fun _ hv => absurd hv (hc _)) (fun _ _ => hc _) hk h.matched
  | @others a ha hc =>
    have hring := h.matched.ring hk ha
    rw [← b.node.visit_release hc]
    cases hr : a.timer.resends? with
    | none =>
      rw [hr] at hring
      refine Node.matches_visit (n := { b.node with slots := _ }) ?_ ?_ hk.ring hring
      · intro timer hv
        rw [Call.timer.inj (hv.symm.trans hc)]
        exact Slots.release_release _ _
      · intro peer kind hv
        rw [← Call.timer.inj (hv.symm.trans hc)] at hr
        cases hr
    | some key =>
      rw [hr] at hring
      have hv : v.call = .timer (.retransmit key.1 key.2) :=
        hc.trans (congrArg Call.timer (Timer.resends?_iff.1 hr))
      exact Node.matches_visit_retransmit (n := { b.node with slots := _ }) hv hk.ring hring
        (h.matched.resends?_ne_of_ring hk ha hr)

lemma serves (h : b.Matches) (hs : b.Serves v b') : b'.Matches := by
  obtain ⟨as, hl, has⟩ := hs.alarms
  have hm := (h.visit hs.handles hl).matched
  have hnow : (b.node.visit v).now = v.now := (moves_visit b.node v).alike.now
  rw [hnow] at hm
  refine ⟨h.keeps.serves hs, ?_⟩
  rw [hs.node, has]
  exact hm

/-- A timer that has a slot of its own goes off only if the slot is taken. -/
lemma slot_ne_none (h : b.Matches) (slot : Slot) (hs : b.Serves v b') {timer : Timer}
    (hv : v.call = .timer timer) (hr : slot.rings timer) : b.node.slots.get slot ≠ none := by
  obtain ⟨a, ha, rfl⟩ := hs.exists_alarm hv
  rw [h.matched.held a ha slot hr]
  exact Option.some_ne_none _

lemma reaches (h : b₀.Matches) (hr : b₀.Reaches b) : b.Matches := by
  induction hr with
  | refl => exact h
  | step _ hs ih => exact ih.serves hs

lemma handles_eq_slot (h : b.Matches) (slot : Slot) :
    (b.alarms.filter fun a => slot.rings a.timer).map Alarm.handle =
      (b.node.slots.get slot).toList := by
  apply h.keeps.orderly.map_handle_filter
  · intro a ha hr
    exact h.matched.held a ha slot hr
  · intro handle hs
    exact h.keeps.armed slot handle hs

lemma handles_eq_pending (h : b.Matches) (peer : NodeId) (kind : MessageKind) :
    (b.alarms.filter fun a => a.timer = .retransmit peer kind).map Alarm.handle =
      ((b.node.reliable.pending.get? (peer, kind)).map Pending.timer).toList :=
  h.matched.handles_eq_pending h.keeps peer kind

end Matches

/-- At every bench that serves a new node, whatever it is called for, the node knows its alarms: the
alarms for a slot are the one of which the handle is in the slot, or none if the slot is empty; the
alarms for a message to a peer are the one of which the pending entry has the handle, or none if
nothing is pending. And whatever timer the node cancels in its next visit is pending when it does
so. -/
theorem slots_match_alarms (hn : b₀.node.IsNew) (ha : b₀.alarms = []) (h : b₀.Reaches b) :
    (∀ slot : Slot, (b.alarms.filter fun a => slot.rings a.timer).map Alarm.handle =
      (b.node.slots.get slot).toList) ∧
    (∀ peer kind, (b.alarms.filter fun a => a.timer = .retransmit peer kind).map Alarm.handle =
      ((b.node.reliable.pending.get? (peer, kind)).map Pending.timer).toList) ∧
    ∀ v as, b.nextHandle ≤ v.nextHandle → Left v b.alarms as → ∀ before handle after,
      (b.node.visit v).outbox.effects = before ++ .cancel handle :: after →
        ∃ a ∈ before.foldl (Alarm.apply v.now) as, a.handle = handle := by
  have hm : b.Matches := (Matches.of_isNew hn ha).reaches h
  refine ⟨hm.handles_eq_slot, hm.handles_eq_pending, ?_⟩
  intro v as hh hl
  have hnow : (b.node.visit v).now = v.now := (moves_visit b.node v).alike.now
  rw [← hnow]
  exact (hm.visit hh hl).sound

/-- The visits of a node on its own, until it has greeted. -/
def greetingVisits : List Visit :=
  [⟨.start, Vec3.zero, 1, .start⟩, rings 0 2 .start, rings 100 4 .upkeep, rings 400 5 .upkeep,
    rings 700 6 .upkeep, rings 1000 7 .send]

/-- A node that has greeted has a timer for the check of the election, and no other one for it. -/
theorem greeter_matches_alarms : ∃ b₀ b : Bench, b₀.node.IsNew ∧ b₀.alarms = [] ∧ b₀.Reaches b ∧
    b.node.slots.election.isSome ∧
    (∀ slot : Slot, (b.alarms.filter fun a => slot.rings a.timer).map Alarm.handle =
      (b.node.slots.get slot).toList) ∧
    (∀ peer kind, (b.alarms.filter fun a => a.timer = .retransmit peer kind).map Alarm.handle =
      ((b.node.reliable.pending.get? (peer, kind)).map Pending.timer).toList) ∧
    ∀ v as, b.nextHandle ≤ v.nextHandle → Left v b.alarms as → ∀ before handle after,
      (b.node.visit v).outbox.effects = before ++ .cancel handle :: after →
        ∃ a ∈ before.foldl (Alarm.apply v.now) as, a.handle = handle := by
  have hrun : ((Node.create ⟨1⟩ Settings.standard false none).toOption.any fun n =>
      ((Bench.setUp n Vec3.zero).run? greetingVisits).any fun b =>
        b.node.slots.election.isSome) = true := by decide +kernel
  simp only [Option.any_eq_true] at hrun
  obtain ⟨n, hn, b, hb, hs⟩ := hrun
  exact ⟨.setUp n Vec3.zero, b, .of_toOption hn, rfl, .of_run? hb, hs,
    slots_match_alarms (.of_toOption hn) rfl (.of_run? hb)⟩

end Bench

end ClusterWave
