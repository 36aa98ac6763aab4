import ClusterWave.Proofs.Simulation.Timeline

/-!
# The balance of packets

What becomes of a packet is decided in three places: when it is routed, when the channel takes it
and when it arrives. Whatever is decided, the tally stays in balance with the agenda and the
timeline: a packet that was handed to the channel is still on its way, or has been delivered,
dropped or found unreadable.
-/

namespace ClusterWave

namespace Occurrence

def isArrival : Occurrence → Bool
  | .delivered _ _ _ _ => true
  | _ => false

/-- Whether a packet was dropped as there is no such receiver. -/
def isUnknownDrop : Occurrence → Bool
  | .dropped _ _ _ reason _ => reason = .unknownNode
  | _ => false

lemma isDrop_of_isUnknownDrop {o : Occurrence} (h : o.isUnknownDrop) : o.isDrop := by
  cases o with
  | dropped => rfl
  | _ => cases h

end Occurrence

/-- Whether a packet is to arrive. -/
def Event.isDelivery : Event → Bool
  | .delivery _ _ _ => true
  | _ => false

/-- A change of a node is neither an arrival nor a drop. -/
lemma countP_changes {p : Occurrence → Bool} (h : ∀ o, p o → o.isArrival ∨ o.isDrop) (id : NodeId)
    (position : Vec3) (now : Timestamp) (before after : Node) :
    (changes id position now before after).countP p = 0 := by
  rw [List.countP_eq_zero]
  intro o ho hp
  have hkind := h o hp
  simp only [changes, List.mem_append] at ho
  rcases ho with (ho | ho) | ho <;> split at ho
  · cases ho
  · cases List.mem_singleton.1 ho
    simp [Occurrence.isArrival, Occurrence.isDrop] at hkind
  · cases ho
  · cases List.mem_singleton.1 ho
    simp [Occurrence.isArrival, Occurrence.isDrop] at hkind
  · cases List.mem_singleton.1 ho
    simp [Occurrence.isArrival, Occurrence.isDrop] at hkind
  · cases ho

/-- The channel drops what is out of range, what a rule says and what is lost by chance. -/
lemma Channel.transmit_ne_unknownNode (c : Channel) (sender receiver : NodeId)
    (kinds : List MessageKind) (distance : Option Binary64) :
    (c.transmit sender receiver kinds distance).1 ≠ .drop .unknownNode := by
  simp only [transmit]
  split
  · simp
  · split
    · simp
    · split <;> simp

namespace Agenda

/-- How many packets are to arrive. -/
def underway (g : Agenda) : Nat := g.appointments.countP fun a => a.event.isDelivery

lemma underway_push (g : Agenda) (time : Timestamp) (e : Event) :
    (g.push time e).underway = g.underway + if e.isDelivery then 1 else 0 := by
  show (Appointment.insert _ _).countP _ = _
  rw [(Appointment.perm_insert _ _).countP_eq, List.countP_cons]
  rfl

lemma underway_apply (g : Agenda) (id : NodeId) (now : Timestamp) (e : Effect) :
    (g.apply id now e).underway = g.underway := by
  cases e with
  | schedule handle delay timer =>
    exact underway_push { g with nextHandle := g.nextHandle + 1 } _ (.timer _ _ _)
  | cancel handle =>
    simp only [apply, cancel]
    split <;> rfl
  | broadcast => rfl
  | send => rfl

lemma underway_foldl_apply (g : Agenda) (id : NodeId) (now : Timestamp) (es : List Effect) :
    (es.foldl (apply id now) g).underway = g.underway := by
  refine List.foldlRecOn (motive := fun g' : Agenda => g'.underway = g.underway) _ _ rfl ?_
  intro g' h e _
  rw [underway_apply, h]

/-- What is skipped on the way to the next event is a timer. -/
lemma countP_takeDue {limit : Timestamp} {cancelled cancelled' : List TimerHandle}
    {as rest : List Appointment} {found : Option Appointment}
    (h : takeDue limit cancelled as = (found, rest, cancelled')) :
    as.countP (fun a => a.event.isDelivery) =
      (found.toList ++ rest).countP fun a => a.event.isDelivery := by
  induction as generalizing cancelled with
  | nil =>
    cases h
    rfl
  | cons a as ih =>
    simp only [takeDue] at h
    split at h
    · cases h
      rfl
    · split at h
      · rename_i handle ha
        split at h
        · have hd : ¬ a.event.isDelivery := by
            simp only [Appointment.handle?] at ha
            split at ha
            · rename_i he
              simp [Event.isDelivery, he]
            · cases ha
          rw [List.countP_cons, if_neg hd]
          exact ih h
        · cases h
          rfl
      · cases h
        rfl

lemma underway_popDue {g g' : Agenda} {limit : Timestamp} {found : Option Appointment}
    (h : g.popDue limit = (found, g')) :
    g.underway = g'.underway + found.toList.countP fun a => a.event.isDelivery := by
  obtain ⟨hf, rfl⟩ := Prod.mk.inj h
  show g.appointments.countP _ = List.countP _ _ + _
  rw [countP_takeDue (Prod.ext hf rfl), List.countP_append, Nat.add_comm]

end Agenda

namespace Simulation

variable {s s' : Simulation} {k : Nat}

/-- How often something was taken down. -/
def occurrences (s : Simulation) (p : Occurrence → Bool) : Nat := s.timeline.toList.countP p

lemma occurrences_record (s : Simulation) (o : Occurrence) (p : Occurrence → Bool) :
    (s.record o).occurrences p = s.occurrences p + if p o then 1 else 0 := by
  show (s.timeline.push o).toList.countP p = _
  rw [Timeline.toList_push, List.countP_append, List.countP_singleton]
  rfl

/-- The tally is in balance, if there are `k` packets that have been taken out of the agenda or have
been counted as transmitted, and of which it is not decided yet what becomes of them. -/
structure Balanced (k : Nat) (s : Simulation) : Prop where
  transmissions : s.tally.transmissions + s.occurrences Occurrence.isUnknownDrop =
    s.tally.deliveries + s.tally.dropped + s.tally.decodeErrors + s.agenda.underway + k
  deliveries : s.tally.deliveries = s.occurrences Occurrence.isArrival
  dropped : s.tally.dropped = s.occurrences Occurrence.isDrop

namespace Balanced

lemma of_eq (h : s.Balanced k) (ht : s'.tally = s.tally)
    (hl : s'.timeline.toList = s.timeline.toList) (hu : s'.agenda.underway = s.agenda.underway) :
    s'.Balanced k := by
  have ho (p : Occurrence → Bool) : s'.occurrences p = s.occurrences p := by
    rw [occurrences, hl]
    rfl
  obtain ⟨h₁, h₂, h₃⟩ := h
  constructor
  · rw [ht, ho, hu, h₁]
  · rw [ht, ho, h₂]
  · rw [ht, ho, h₃]

/-- What happens otherwise does not touch the balance. -/
lemma record (h : s.Balanced k) {o : Occurrence} (ha : ¬ o.isArrival) (hd : ¬ o.isDrop) :
    (s.record o).Balanced k := by
  have hu : ¬ o.isUnknownDrop := fun hu => hd (Occurrence.isDrop_of_isUnknownDrop hu)
  obtain ⟨h₁, h₂, h₃⟩ := h
  constructor
  · rwa [occurrences_record, if_neg hu]
  · rwa [occurrences_record, if_neg ha]
  · rwa [occurrences_record, if_neg hd]

/-! ### Sending -/

/-- A packet for a receiver that there is not is dropped before it is transmitted. -/
lemma drop_unknown (h : s.Balanced k) (sender receiver : NodeId) (kinds : List MessageKind) :
    (s.drop sender receiver kinds .unknownNode).Balanced k := by
  obtain ⟨h₁, h₂, h₃⟩ := h
  constructor
  · rw [Simulation.drop, occurrences_record, if_pos (by rfl)]
    show s.tally.transmissions + (s.occurrences _ + 1) =
      s.tally.deliveries + (s.tally.dropped + 1) + s.tally.decodeErrors + s.agenda.underway + k
    omega
  · rw [Simulation.drop, occurrences_record, if_neg (by simp [Occurrence.isArrival])]
    exact h₂
  · rw [Simulation.drop, occurrences_record, if_pos (by rfl)]
    exact congrArg (· + 1) h₃

/-- Any other drop decides what becomes of a packet. -/
lemma drop (h : s.Balanced (k + 1)) (sender receiver : NodeId) (kinds : List MessageKind)
    {reason : DropReason} (hr : reason ≠ .unknownNode) :
    (s.drop sender receiver kinds reason).Balanced k := by
  obtain ⟨h₁, h₂, h₃⟩ := h
  constructor
  · rw [Simulation.drop, occurrences_record, if_neg (by simpa [Occurrence.isUnknownDrop])]
    show s.tally.transmissions + s.occurrences _ =
      s.tally.deliveries + (s.tally.dropped + 1) + s.tally.decodeErrors + s.agenda.underway + k
    omega
  · rw [Simulation.drop, occurrences_record, if_neg (by simp [Occurrence.isArrival])]
    exact h₂
  · rw [Simulation.drop, occurrences_record, if_pos (by rfl)]
    exact congrArg (· + 1) h₃

lemma transmit (h : s.Balanced k) :
    (s.count fun t => { t with transmissions := t.transmissions + 1 }).Balanced (k + 1) := by
  obtain ⟨h₁, h₂, h₃⟩ := h
  refine ⟨?_, h₂, h₃⟩
  show s.tally.transmissions + 1 + s.occurrences _ =
    s.tally.deliveries + s.tally.dropped + s.tally.decodeErrors + s.agenda.underway + (k + 1)
  omega

/-- A packet that goes into the agenda is on its way. -/
lemma push (h : s.Balanced (k + 1)) (time : Timestamp) (receiver sender : NodeId)
    (data : List UInt8) :
    ({ s with agenda := s.agenda.push time (.delivery receiver sender data) }).Balanced k := by
  obtain ⟨h₁, h₂, h₃⟩ := h
  refine ⟨?_, h₂, h₃⟩
  rw [Agenda.underway_push, if_pos (by rfl)]
  show s.tally.transmissions + s.occurrences _ =
    s.tally.deliveries + s.tally.dropped + s.tally.decodeErrors + (s.agenda.underway + 1) + k
  omega

lemma sendTo (h : s.Balanced k) (sender : NodeId) (kinds : List MessageKind) (data : List UInt8)
    (receiver : NodeId × Option Binary64) : (s.sendTo sender kinds data receiver).Balanced k := by
  have hne := s.channel.transmit_ne_unknownNode sender receiver.1 kinds receiver.2
  simp only [Simulation.sendTo]
  split
  · exact h.of_eq rfl rfl rfl
  · rename_i reason _ he
    refine drop (transmit ?_) _ _ _ ?_
    · exact h.of_eq rfl rfl rfl
    · rintro rfl
      exact hne he
  · refine push (transmit ?_) _ _ _ _
    exact h.of_eq rfl rfl rfl

lemma route (h : s.Balanced k) (id : NodeId) (origin : Vec3) (e : Effect) :
    (s.route id origin e).Balanced k := by
  cases e with
  | broadcast packet =>
    exact List.foldlRecOn (motive := Balanced k) _ _ h fun _ hs receiver _ =>
      hs.sendTo id packet.kinds (encode packet) receiver
  | send peer packet =>
    simp only [Simulation.route]
    split
    · exact h.sendTo _ _ _ _
    · exact h.drop_unknown _ _ _
  | schedule => exact h
  | cancel => exact h

lemma recordChanges (h : s.Balanced k) (id : NodeId) (position : Vec3) (before after : Node) :
    (s.recordChanges id position before after).Balanced k := by
  have ho {p : Occurrence → Bool} (hp : ∀ o, p o → o.isArrival ∨ o.isDrop) :
      (s.recordChanges id position before after).occurrences p = s.occurrences p := by
    rw [occurrences, toList_recordChanges, List.countP_append, countP_changes hp]
    rfl
  obtain ⟨h₁, h₂, h₃⟩ := h
  constructor
  · rw [ho fun o hu => .inr (Occurrence.isDrop_of_isUnknownDrop hu), recordChanges_eq]
    exact h₁
  · rw [ho fun o => .inl, recordChanges_eq]
    exact h₂
  · rw [ho fun o => .inr, recordChanges_eq]
    exact h₃

lemma call (h : s.Balanced k) (id : NodeId) (c : Call) : (s.call id c).Balanced k := by
  simp only [Simulation.call]
  split
  · refine List.foldlRecOn (motive := Balanced k) _ _ (recordChanges ?_ _ _ _ _) ?_
    · exact h.of_eq rfl rfl (Agenda.underway_foldl_apply _ _ _ _)
    · exact fun _ hs e _ => hs.route _ _ e
  · exact h

/-! ### Arriving -/

/-- What becomes of a packet is decided when it arrives. -/
lemma deliver (h : s.Balanced (k + 1)) (receiver sender : NodeId) (data : List UInt8) :
    (s.deliver receiver sender data).Balanced k := by
  simp only [Simulation.deliver]
  split
  · obtain ⟨h₁, h₂, h₃⟩ := h
    refine ⟨?_, h₂, h₃⟩
    show s.tally.transmissions + s.occurrences _ =
      s.tally.deliveries + s.tally.dropped + (s.tally.decodeErrors + 1) + s.agenda.underway + k
    omega
  · split
    · refine call ?_ _ _
      obtain ⟨h₁, h₂, h₃⟩ := h
      constructor
      · rw [occurrences_record, if_neg (by simp [Occurrence.isUnknownDrop])]
        show s.tally.transmissions + s.occurrences _ =
          s.tally.deliveries + 1 + s.tally.dropped + s.tally.decodeErrors + s.agenda.underway + k
        omega
      · rw [occurrences_record, if_pos (by rfl)]
        exact congrArg (· + 1) h₂
      · rw [occurrences_record, if_neg (by simp [Occurrence.isDrop])]
        exact h₃
    · exact h.drop _ _ _ (by simp)

lemma process {e : Event} (h : s.Balanced (k + if e.isDelivery then 1 else 0)) :
    (s.process e).Balanced k := by
  cases e with
  | timer node handle timer => exact h.call node _
  | delivery receiver sender data => exact h.deliver receiver sender data
  | departure node =>
    refine record ?_ (by simp [Occurrence.isArrival]) (by simp [Occurrence.isDrop])
    exact h.of_eq rfl rfl rfl

lemma advance (h : s.Balanced k) (time : Timestamp) : (s.advance time).Balanced k := by
  simp only [Simulation.advance]
  split
  · exact h.of_eq rfl rfl rfl
  · exact h

lemma step (h : s.Balanced k) (limit : Timestamp) : (s.step limit).1.Balanced k := by
  rcases hp : s.agenda.popDue limit with ⟨found, g⟩
  have hu := Agenda.underway_popDue hp
  cases found with
  | none =>
    simp only [Simulation.step, hp]
    exact h.of_eq rfl rfl hu.symm
  | some a =>
    simp only [Simulation.step, hp]
    have ha : ({ s with agenda := g }).Balanced (k + if a.event.isDelivery then 1 else 0) := by
      obtain ⟨h₁, h₂, h₃⟩ := h
      refine ⟨?_, h₂, h₃⟩
      rw [Option.toList_some, List.countP_singleton] at hu
      show s.tally.transmissions + s.occurrences _ =
        s.tally.deliveries + s.tally.dropped + s.tally.decodeErrors + g.underway + (k + _)
      omega
    obtain ⟨h₁, h₂, h₃⟩ := process (ha.advance a.time)
    exact ⟨h₁, h₂, h₃⟩

end Balanced

/-- The books of a simulation are always in balance. -/
lemma Reached.balanced (hs : s.Reached) : s.Balanced 0 := by
  induction hs with
  | create h =>
    obtain ⟨channel, rfl⟩ := exists_of_create h
    exact ⟨rfl, rfl, rfl⟩
  | addNode _ h ih =>
    obtain ⟨node, directory, -, -, rfl⟩ := exists_of_addNode h
    refine Balanced.call ?_ _ .start
    exact ih.of_eq rfl rfl rfl
  | addDropRule r _ ih => exact ih.of_eq rfl rfl rfl
  | scheduleDeparture id time _ ih =>
    exact ih.of_eq rfl rfl (Agenda.underway_push _ _ (.departure id))
  | runUntil _ h ih =>
    exact runUntil?_induct (p := Balanced 0) (fun _ limit hs => hs.step limit)
      (fun _ limit hs => hs.advance limit) ih h

end Simulation

end ClusterWave
