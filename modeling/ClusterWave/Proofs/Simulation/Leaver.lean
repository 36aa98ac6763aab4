import ClusterWave.Proofs.Simulation.Channel
import ClusterWave.Proofs.Simulation.Chronicle
import ClusterWave.Proofs.Simulation.Replay

/-!
# Nodes that have left

When a node leaves, its timers and the packets that are on their way to it are still in the agenda,
and other nodes may still send to it. None of this reaches it: it cannot be resolved any more, so
its timers are skipped and its packets are dropped, on arrival or before they are sent. It stays as
it is, whatever the others do, and nothing more comes from it but the packets that it had sent.
-/

namespace ClusterWave

variable {id : NodeId}

/-! ### The directory -/

namespace Directory

variable {d d' : Directory}

/-- A node was there and has left. -/
def HasLeft (d : Directory) (id : NodeId) : Prop :=
  ∃ r, d.residents.get? id = some r ∧ r.departed

lemma hasLeft_depart (h : d.residents.contains id) : (d.depart id).HasLeft id := by
  obtain ⟨r, hr⟩ := Option.isSome_iff_exists.1 h
  simp only [depart, hr]
  exact ⟨{ r with departed := true }, Table.get?_insert_self _ _ _, rfl⟩

namespace HasLeft

lemma resolve? (h : d.HasLeft id) (now : Timestamp) : d.resolve? id now = none := by
  obtain ⟨r, hr, hdeparted⟩ := h
  simp only [Directory.resolve?, hr, if_pos hdeparted]

/-- The number of a node that has left is not given out again. -/
lemma register? (h : d.HasLeft id) (motion : Motion) : d.register? id motion = none := by
  obtain ⟨r, hr, -⟩ := h
  have hc : d.residents.contains id = true := by rw [Table.contains, hr, Option.isSome_some]
  rw [Directory.register?, if_pos hc]

lemma of_register? (h : d.HasLeft id) {id' : NodeId} {motion : Motion}
    (hd : d.register? id' motion = some d') : d'.HasLeft id := by
  have hne : id ≠ id' := by
    rintro rfl
    rw [h.register? motion] at hd
    cases hd
  obtain ⟨-, hresidents⟩ := contains_register? hd
  obtain ⟨r, hr, hdeparted⟩ := h
  refine ⟨r, ?_, hdeparted⟩
  rw [hresidents, Table.get?_insert_of_ne _ _ hne, hr]

lemma depart (h : d.HasLeft id) (id' : NodeId) : (d.depart id').HasLeft id := by
  by_cases he : id' = id
  · obtain ⟨r, hr, -⟩ := h
    rw [he]
    exact hasLeft_depart (by rw [Table.contains, hr, Option.isSome_some])
  · obtain ⟨r, hr, hdeparted⟩ := h
    simp only [Directory.depart]
    split
    · exact ⟨r, hr, hdeparted⟩
    · exact ⟨r, (Table.get?_insert_of_ne _ _ (Ne.symm he)).trans hr, hdeparted⟩

end HasLeft

end Directory

namespace Simulation

variable {s s' s'' : Simulation}

/-! ### What is put on the channel -/

/-- What a node at a given place puts on the channel for an effect of its turn. -/
def emissions (s : Simulation) (id : NodeId) (origin : Vec3) : Effect → List Transmission
  | .broadcast packet =>
    (s.listeners id origin).map fun receiver => ⟨id, receiver.1, packet.kinds, receiver.2⟩
  | .send peer packet => if s.isActive peer then [⟨id, peer, packet.kinds, none⟩] else []
  | _ => []

/-- What is put on the channel in a visit, if there is one. -/
def output (s : Simulation) : Option Deed → List Transmission
  | some d => (d.before.visit d.visit).outbox.effects.flatMap (s.emissions d.id d.visit.position)
  | none => []

/-- What is put on the channel with the next event, if one is due by `limit`. -/
def nextOutput (s : Simulation) (limit : Timestamp) : List Transmission :=
  match s.agenda.popDue limit with
  | (none, _) => []
  | (some a, agenda) =>
    let s := { s with agenda }.advance a.time
    s.output (s.answer? a.event)

lemma sender_of_mem_output {d : Deed} {t : Transmission} (h : t ∈ s.output (some d)) :
    t.sender = d.id := by
  obtain ⟨e, -, ht⟩ := List.mem_flatMap.1 h
  cases e with
  | broadcast packet =>
    obtain ⟨receiver, -, rfl⟩ := List.mem_map.1 ht
    rfl
  | send peer packet =>
    simp only [emissions] at ht
    split at ht
    · rw [List.mem_singleton.1 ht]
    · cases ht
  | schedule => cases ht
  | cancel => cases ht

/-- Time and places stay the same while the channel carries what it is given. -/
structure Carries (ts : List Transmission) (s s' : Simulation) : Prop where
  now : s'.now = s.now
  directory : s'.directory = s.directory
  channel : s'.channel = ts.foldl Channel.cross s.channel

namespace Carries

variable {ts ts' : List Transmission}

lemma trans (h : Carries ts s s') (h' : Carries ts' s' s'') : Carries (ts ++ ts') s s'' := by
  refine ⟨h'.now.trans h.now, h'.directory.trans h.directory, ?_⟩
  rw [h'.channel, h.channel, List.foldl_append]

lemma sendTo (sender : NodeId) (kinds : List MessageKind) (data : List UInt8) (s : Simulation)
    (receiver : NodeId × Option Binary64) :
    Carries [⟨sender, receiver.1, kinds, receiver.2⟩] s (s.sendTo sender kinds data receiver) := by
  simp only [Simulation.sendTo]
  split <;> exact ⟨rfl, rfl, rfl⟩

lemma emissions_eq (h : Carries ts s s') : s'.emissions = s.emissions := by
  funext id origin e
  simp only [emissions, listeners, isActive, h.now, h.directory]
  cases e <;> rfl

lemma route (id : NodeId) (origin : Vec3) (s : Simulation) (e : Effect) :
    Carries (s.emissions id origin e) s (s.route id origin e) := by
  cases e with
  | broadcast packet =>
    simp only [emissions, Simulation.route]
    induction s.listeners id origin generalizing s with
    | nil => exact ⟨rfl, rfl, rfl⟩
    | cons receiver rest ih =>
      exact (sendTo id packet.kinds (encode packet) s receiver).trans (ih _)
  | send peer packet =>
    simp only [emissions, Simulation.route]
    split
    · exact sendTo id packet.kinds (encode packet) s (peer, none)
    · exact ⟨rfl, rfl, rfl⟩
  | schedule => exact ⟨rfl, rfl, rfl⟩
  | cancel => exact ⟨rfl, rfl, rfl⟩

lemma routes (id : NodeId) (origin : Vec3) (es : List Effect) (s : Simulation) :
    Carries (es.flatMap (s.emissions id origin)) s (es.foldl (Simulation.route id origin) s) := by
  induction es generalizing s with
  | nil => exact ⟨rfl, rfl, rfl⟩
  | cons e es ih =>
    have he := Carries.route id origin s e
    have hes := ih (s.route id origin e)
    rw [he.emissions_eq] at hes
    rw [List.flatMap_cons, List.foldl_cons]
    exact he.trans hes

lemma call (s : Simulation) (id : NodeId) (c : Call) :
    Carries (s.output (s.deed? id c)) s (s.call id c) := by
  cases hp : s.directory.resolve? id s.now with
  | none =>
    simp only [deed?, Simulation.call, hp]
    exact ⟨rfl, rfl, rfl⟩
  | some position =>
    cases hn : s.nodes.get? id with
    | none =>
      simp only [deed?, Simulation.call, hp, hn]
      exact ⟨rfl, rfl, rfl⟩
    | some node =>
      simp only [deed?, Simulation.call, hp, hn, output]
      -- the node is written back and its changes are taken down before anything is sent
      have hrecord (nodes : Table NodeId Node) (agenda : Agenda) (after : Node) :
          Carries [] s ({ s with nodes, agenda }.recordChanges id position node after) := by
        rw [recordChanges_eq]
        exact ⟨rfl, rfl, rfl⟩
      have hroutes := routes id position
        (node.visit ⟨s.now, position, s.agenda.nextHandle, c⟩).outbox.effects
      rw [← (hrecord _ _ _).emissions_eq]
      exact (hrecord _ _ _).trans (hroutes _)

end Carries

lemma deed?_eq_none_of_not_isActive {c : Call} (h : ¬ s.isActive id) : s.deed? id c = none := by
  have hp : s.directory.resolve? id s.now = none := by
    rw [← Option.not_isSome_iff_eq_none]
    exact h
  simp only [deed?, hp]

/-- The channel is given what a call, an event or a step puts on it, and nothing else. -/
lemma channel_process (s : Simulation) (e : Event) :
    (s.process e).channel = (s.output (s.answer? e)).foldl Channel.cross s.channel := by
  cases e with
  | timer node handle timer => exact (Carries.call s node (.timer timer)).channel
  | departure node => rfl
  | delivery receiver sender data =>
    cases hdata : Packet.decode? data with
    | error fault =>
      simp only [answer?, process, deliver, hdata]
      rfl
    | ok packet =>
      simp only [answer?, process, deliver, hdata]
      split
      · refine Eq.trans (Carries.call ((s.count _).record _) receiver _).channel ?_
        rfl
      · rename_i hactive
        rw [deed?_eq_none_of_not_isActive hactive]
        rfl

lemma directory_advance (s : Simulation) (time : Timestamp) :
    (s.advance time).directory = s.directory := by
  simp only [advance]
  split <;> rfl

lemma channel_advance (s : Simulation) (time : Timestamp) :
    (s.advance time).channel = s.channel := by
  simp only [advance]
  split <;> rfl

lemma channel_step (s : Simulation) (limit : Timestamp) :
    (s.step limit).1.channel = (s.nextOutput limit).foldl Channel.cross s.channel := by
  rcases hp : s.agenda.popDue limit with ⟨found, g⟩
  simp only [step, nextOutput, hp]
  cases found with
  | none => rfl
  | some a =>
    refine (channel_process _ a.event).trans ?_
    rw [channel_advance]

/-! ### What comes of a simulation -/

/-- What comes of a simulation, event by event, and what is put on the channel in the meantime. -/
inductive Unfolds (s₀ : Simulation) : List Transmission → Simulation → Prop where
  | refl : Unfolds s₀ [] s₀
  | addNode {ts : List Transmission} {s : Simulation} {id : NodeId} {settings : Settings}
      {isStarter : Bool} {velocity : Option Vec2} {motion : Motion} {node : Node}
      {directory : Directory} (hs : Unfolds s₀ ts s)
      (hn : Node.create id settings isStarter velocity = .ok node)
      (hd : s.directory.register? id motion = some directory) :
      Unfolds s₀
        (ts ++ (s.join id node directory).output ((s.join id node directory).deed? id .start))
        ((s.join id node directory).call id .start)
  | addDropRule {ts : List Transmission} {s : Simulation} (r : DropRule) (hs : Unfolds s₀ ts s) :
      Unfolds s₀ ts (s.addDropRule r)
  | scheduleDeparture {ts : List Transmission} {s : Simulation} (id : NodeId) (time : Timestamp)
      (hs : Unfolds s₀ ts s) : Unfolds s₀ ts (s.scheduleDeparture id time)
  | step {ts : List Transmission} {s : Simulation} (limit : Timestamp) (hs : Unfolds s₀ ts s) :
      Unfolds s₀ (ts ++ s.nextOutput limit) (s.step limit).1
  | advance {ts : List Transmission} {s : Simulation} (time : Timestamp) (hs : Unfolds s₀ ts s) :
      Unfolds s₀ ts (s.advance time)

/-- A run unfolds a simulation. -/
lemma exists_unfolds_of_runUntil? {s₀ : Simulation} {ts : List Transmission} {limit : Timestamp}
    {fuel : Nat} (hs : Unfolds s₀ ts s) (hr : s.runUntil? limit fuel = some s') :
    ∃ ts', Unfolds s₀ ts' s' :=
  runUntil?_induct (p := fun s => ∃ ts, Unfolds s₀ ts s) (fun _ limit ⟨_, h⟩ => ⟨_, h.step limit⟩)
    (fun _ limit ⟨_, h⟩ => ⟨_, h.advance limit⟩) ⟨ts, hs⟩ hr

end Simulation

/-! ### Silence -/

/-- Whether an occurrence is a change of a node or a packet that has reached it. -/
def Occurrence.concerns (id : NodeId) : Occurrence → Bool
  | .statusChanged node _ _ _ => node == id
  | .roleChanged node _ _ _ => node == id
  | .delivered _ receiver _ _ => receiver == id
  | .activated node _ _ => node == id
  | .dropped .. => false
  | .departed .. => false

lemma Occurrence.concerns_of_isDrop {o : Occurrence} (h : o.isDrop) :
    o.concerns id = false := by
  cases o with
  | dropped => rfl
  | _ => cases h

lemma concerns_of_mem_changes {id' : NodeId} (hne : id' ≠ id) {position : Vec3} {now : Timestamp}
    {before after : Node} {o : Occurrence} (h : o ∈ changes id' position now before after) :
    o.concerns id = false := by
  have hid : (id' == id) = false := beq_false_of_ne hne
  simp only [changes, List.mem_append] at h
  rcases h with (h | h) | h
  · split at h
    · cases h
    · rw [List.mem_singleton.1 h]
      exact hid
  · split at h
    · cases h
    · rw [List.mem_singleton.1 h]
      exact hid
  · split at h
    · rw [List.mem_singleton.1 h]
      exact hid
    · cases h

/-- Whether an appointment is for a packet that a node has sent. -/
def Appointment.IsMailFrom (id : NodeId) (a : Appointment) : Prop :=
  ∃ receiver data, a.event = .delivery receiver id data

namespace Simulation

variable {s s' s'' : Simulation}

/-- A node that has left says nothing and hears nothing. -/
structure Silence (id : NodeId) (ts : List Transmission) (s s' : Simulation) : Prop where
  left : s'.directory.HasLeft id
  node : s'.nodes.get? id = s.nodes.get? id
  timeline : ∃ os, s'.timeline.toList = s.timeline.toList ++ os ∧ ∀ o ∈ os, o.concerns id = false
  mail : ∀ a ∈ s'.agenda.appointments, a.IsMailFrom id → a ∈ s.agenda.appointments
  silent : ∀ t ∈ ts, t.sender ≠ id

namespace Silence

variable {ts ts' : List Transmission}

lemma of_eq (h : s'.directory.HasLeft id) (hn : s'.nodes = s.nodes)
    (ht : s'.timeline = s.timeline)
    (ha : ∀ a ∈ s'.agenda.appointments, a.IsMailFrom id → a ∈ s.agenda.appointments) :
    Silence id [] s s' :=
  ⟨h, congrArg (·.get? id) hn, ⟨[], by rw [ht, List.append_nil], List.forall_mem_nil _⟩, ha,
    List.forall_mem_nil _⟩

lemma refl (h : s.directory.HasLeft id) : Silence id [] s s := of_eq h rfl rfl fun _ ha _ => ha

lemma trans (h : Silence id ts s s') (h' : Silence id ts' s' s'') :
    Silence id (ts ++ ts') s s'' := by
  obtain ⟨os, ht, hos⟩ := h.timeline
  obtain ⟨os', ht', hos'⟩ := h'.timeline
  refine ⟨h'.left, h'.node.trans h.node, ⟨os ++ os', ?_, ?_⟩, ?_, ?_⟩
  · rw [ht', ht, List.append_assoc]
  · intro o ho
    rcases List.mem_append.1 ho with ho | ho
    · exact hos o ho
    · exact hos' o ho
  · intro a ha hmail
    exact h.mail a (h'.mail a ha hmail) hmail
  · intro t ht
    rcases List.mem_append.1 ht with ht | ht
    · exact h.silent t ht
    · exact h'.silent t ht

lemma trans_nil (h : Silence id ts s s') (h' : Silence id [] s' s'') : Silence id ts s s'' :=
  List.append_nil ts ▸ h.trans h'

lemma record (h : s.directory.HasLeft id) {o : Occurrence} (ho : o.concerns id = false) :
    Silence id [] s (s.record o) := by
  refine ⟨h, rfl, ⟨[o], Timeline.toList_push _ _, ?_⟩, fun _ ha _ => ha, List.forall_mem_nil _⟩
  intro o' ho'
  rw [List.mem_singleton.1 ho', ho]

lemma count (h : s.directory.HasLeft id) (f : Tally → Tally) : Silence id [] s (s.count f) :=
  of_eq h rfl rfl fun _ ha _ => ha

lemma drop (h : s.directory.HasLeft id) (sender receiver : NodeId) (kinds : List MessageKind)
    (reason : DropReason) : Silence id [] s (s.drop sender receiver kinds reason) := by
  have hcount := count h fun t => { t with dropped := t.dropped + 1 }
  exact hcount.trans (record hcount.left rfl)

/-- A node that has left does not handle calls. -/
lemma call_eq (h : s.directory.HasLeft id) (c : Call) : s.call id c = s := by
  simp only [Simulation.call, h.resolve?]

/-- Another node leaves it alone when it handles a call. -/
lemma call (h : s.directory.HasLeft id) (id' : NodeId) (c : Call) :
    Silence id (s.output (s.deed? id' c)) s (s.call id' c) := by
  cases hd : s.deed? id' c with
  | none =>
    rw [call_of_deed?_eq_none hd]
    exact refl h
  | some d =>
    obtain ⟨rfl, -, hc⟩ := called_of_deed? hd
    have hne : d.id ≠ id := by
      intro he
      have hp := hc.position
      rw [he, h.resolve?] at hp
      cases hp
    refine ⟨hc.directory ▸ h, ?_, ?_, ?_, ?_⟩
    · rw [hc.nodes, Table.get?_insert_of_ne _ _ hne.symm]
    · obtain ⟨drops, ht, hdrops⟩ := timeline_call c hc.position hc.node
      refine ⟨_, ht.trans (List.append_assoc _ _ _), ?_⟩
      intro o ho
      rcases List.mem_append.1 ho with ho | ho
      · exact concerns_of_mem_changes hne ho
      · exact Occurrence.concerns_of_isDrop (hdrops o ho).1
    · rintro a ha ⟨receiver, data, he⟩
      rcases hc.grows.mem ha with ha | ⟨e, -, hb⟩
      · exact ha
      · exact absurd (hb.exists_packet he).1.symm hne
    · intro t ht
      rw [sender_of_mem_output ht]
      exact hne

lemma deliver (h : s.directory.HasLeft id) (receiver sender : NodeId) (data : List UInt8) :
    Silence id (s.output (s.answer? (.delivery receiver sender data))) s
      (s.deliver receiver sender data) := by
  cases hdata : Packet.decode? data with
  | error fault =>
    simp only [answer?, Simulation.deliver, hdata]
    exact count h _
  | ok packet =>
    simp only [answer?, Simulation.deliver, hdata]
    split
    · rename_i hactive
      have hne : receiver ≠ id := by
        rintro rfl
        simp [isActive, h.resolve?] at hactive
      have hcount := count h fun t => { t with deliveries := t.deliveries + 1 }
      have hrecord := hcount.trans (record hcount.left
        (o := .delivered sender receiver packet.kinds s.now) (beq_false_of_ne hne))
      exact hrecord.trans (call hrecord.left receiver (.packet sender packet))
    · rename_i hactive
      rw [deed?_eq_none_of_not_isActive hactive]
      exact drop h _ _ _ _

lemma process (h : s.directory.HasLeft id) (e : Event) :
    Silence id (s.output (s.answer? e)) s (s.process e) := by
  cases e with
  | timer node handle timer => exact call h node (.timer timer)
  | delivery receiver sender data => exact deliver h receiver sender data
  | departure node =>
    have hleft : Silence id [] s { s with directory := s.directory.depart node } :=
      of_eq (h.depart node) rfl rfl fun _ ha _ => ha
    exact hleft.trans (record hleft.left rfl)

lemma advance (h : s.directory.HasLeft id) (time : Timestamp) :
    Silence id [] s (s.advance time) := by
  simp only [Simulation.advance]
  split
  · exact of_eq h rfl rfl fun _ ha _ => ha
  · exact refl h

lemma step (h : s.directory.HasLeft id) (limit : Timestamp) :
    Silence id (s.nextOutput limit) s (s.step limit).1 := by
  rcases hp : s.agenda.popDue limit with ⟨found, g⟩
  have hpop : Silence id [] s { s with agenda := g } :=
    of_eq h rfl rfl fun a ha _ =>
      (Agenda.append_sublist_of_popDue hp).subset (List.mem_append_right _ ha)
  simp only [Simulation.step, nextOutput, hp]
  cases found with
  | none => exact hpop
  | some a =>
    have hadvance := hpop.trans (advance hpop.left a.time)
    have hprocess := hadvance.trans (process hadvance.left a.event)
    exact hprocess.trans_nil (count hprocess.left fun t => { t with events := t.events + 1 })

/-- Whatever comes of a simulation, a node that has left stays silent. -/
lemma unfolds {s₀ : Simulation} (h : s₀.directory.HasLeft id) (hs : Unfolds s₀ ts s) :
    Silence id ts s₀ s := by
  induction hs with
  | refl => exact refl h
  | @addNode ts s id' settings isStarter velocity motion node directory _ hn hd ih =>
    have hne : id ≠ id' := by
      rintro rfl
      rw [ih.left.register? motion] at hd
      cases hd
    have hleft := ih.left.of_register? hd
    have hjoin : Silence id [] s (s.join id' node directory) :=
      ⟨hleft, Table.get?_insert_of_ne _ _ hne,
        ⟨[], (List.append_nil _).symm, List.forall_mem_nil _⟩, fun _ ha _ => ha,
        List.forall_mem_nil _⟩
    exact ih.trans (hjoin.trans (call hleft id' .start))
  | addDropRule r _ ih => exact ih.trans_nil (of_eq ih.left rfl rfl fun _ ha _ => ha)
  | scheduleDeparture id' time _ ih =>
    refine ih.trans_nil (of_eq ih.left rfl rfl ?_)
    rintro a ha ⟨receiver, data, he⟩
    rcases List.mem_cons.1 ((Appointment.perm_insert _ _).mem_iff.1 ha) with rfl | ha
    · cases he
    · exact ha
  | step limit _ ih => exact ih.trans (step ih.left limit)
  | advance time _ ih => exact ih.trans_nil (advance ih.left time)

end Silence

lemma exists_timeline_call (s : Simulation) (id : NodeId) (c : Call) :
    ∃ os, (s.call id c).timeline.toList = s.timeline.toList ++ os := by
  rcases s.called id c with he | ⟨n, v, -, hv⟩
  · exact ⟨[], by rw [he, List.append_nil]⟩
  · obtain ⟨drops, ht, -⟩ := timeline_call c hv.position hv.node
    exact ⟨_, ht.trans (List.append_assoc _ _ _)⟩

/-- Once a node that has been registered has left, it cannot be found any more, it stays as it was
and handles nothing, whatever else takes place. The timeline goes on without a change of it or a
packet that reaches it, and nothing is put on the channel in its name; the channel is given nothing
but what the steps put on it. Its number cannot be used for another node. The packets that it had
sent stay under way, no others join them, and those that can be read still reach their receivers if
these have not left. -/
theorem departed_node_stays_silent {s₀ : Simulation} {limit : Timestamp} {a : Appointment}
    {agenda : Agenda} (hid : s₀.directory.residents.contains id)
    (hpop : s₀.agenda.popDue limit = (some a, agenda)) (ha : a.event = .departure id)
    {ts : List Transmission} (hs : Unfolds (s₀.step limit).1 ts s) :
    (∀ now, s.directory.resolve? id now = none) ∧
      s.nodes.get? id = s₀.nodes.get? id ∧
      (∀ c, s.call id c = s) ∧
      (∃ os, s.timeline.toList = (s₀.step limit).1.timeline.toList ++ os ∧
        ∀ o ∈ os, o.concerns id = false) ∧
      (∀ t ∈ ts, t.sender ≠ id) ∧
      (∀ limit, (s.step limit).1.channel = (s.nextOutput limit).foldl Channel.cross s.channel ∧
        ∀ t ∈ s.nextOutput limit, t.sender ≠ id) ∧
      (∀ settings isStarter velocity motion, settings.check = .ok () →
        s.addNode id settings isStarter velocity motion = .error (.duplicate id)) ∧
      (s₀.step limit).1.agenda = agenda ∧
      (∀ b ∈ s.agenda.appointments, b.IsMailFrom id → b ∈ agenda.appointments) ∧
      ∀ receiver data packet, Packet.decode? data = .ok packet → s.isActive receiver →
        ∃ os, (s.process (.delivery receiver id data)).timeline.toList =
          s.timeline.toList ++ .delivered id receiver packet.kinds s.now :: os := by
  have hagenda : (s₀.step limit).1.agenda = agenda := by
    simp only [step, hpop, ha]
    exact agenda_advance _ _
  have hleft : (s₀.step limit).1.directory.HasLeft id := by
    simp only [step, hpop, ha]
    refine Directory.hasLeft_depart ?_
    rw [directory_advance]
    exact hid
  have hnode : (s₀.step limit).1.nodes = s₀.nodes := by
    simp only [step, hpop, ha]
    exact nodes_advance _ _
  have hsilence := Silence.unfolds hleft hs
  refine ⟨hsilence.left.resolve?, hsilence.node.trans (congrArg (·.get? id) hnode),
    Silence.call_eq hsilence.left, hsilence.timeline, hsilence.silent,
    fun limit => ⟨channel_step s limit, (Silence.step hsilence.left limit).silent⟩, ?_, hagenda,
    hagenda ▸ hsilence.mail, ?_⟩
  · intro settings isStarter velocity motion hcheck
    simp only [addNode, Node.create, hcheck, hsilence.left.register? motion]
  · intro receiver data packet hdata hactive
    simp only [process, Simulation.deliver, hdata, if_pos hactive]
    obtain ⟨os, ht⟩ := exists_timeline_call ((s.count fun t =>
      { t with deliveries := t.deliveries + 1 }).record (.delivered id receiver packet.kinds s.now))
      receiver (.packet id packet)
    refine ⟨os, ht.trans ?_⟩
    rw [record, Timeline.toList_push, List.append_assoc]
    rfl

/-- Two nodes at the same place just before the second one leaves, when a packet from it is on its
way to the first one. -/
def parting? : Option Simulation := do
  let s ← (create ChannelSettings.standard).toOption
  let s ← (s.addNode ⟨1⟩ Settings.standard false none (.parked Vec2.zero)).toOption
  let s ← (s.addNode ⟨2⟩ Settings.standard false none (.parked Vec2.zero)).toOption
  (s.scheduleDeparture ⟨2⟩ ⟨1000500⟩).runUntil? ⟨1000400⟩ 100

/-- Whether a packet from the second node has reached the first one. -/
def isFromSecond : Occurrence → Bool
  | .delivered sender receiver _ _ => sender == ⟨2⟩ && receiver == ⟨1⟩
  | _ => false

/-- A node leaves with a packet under way. It stays as it is while the other one runs on and hears
the packet. -/
theorem parting_node_stays_silent : ∃ (s₀ s : Simulation) (a : Appointment) (agenda : Agenda)
    (ts : List Transmission), s₀.directory.residents.contains ⟨2⟩ ∧
      s₀.agenda.popDue ⟨1000600⟩ = (some a, agenda) ∧ a.event = .departure ⟨2⟩ ∧
      Unfolds (s₀.step ⟨1000600⟩).1 ts s ∧ s.nodes.get? ⟨2⟩ = s₀.nodes.get? ⟨2⟩ ∧
      (∀ t ∈ ts, t.sender ≠ ⟨2⟩) ∧
      ∃ os, s.timeline.toList = (s₀.step ⟨1000600⟩).1.timeline.toList ++ os ∧
        (∀ o ∈ os, o.concerns ⟨2⟩ = false) ∧ os.any isFromSecond := by
  have h : (parting?.any fun s₀ => s₀.directory.residents.contains ⟨2⟩ &&
      (s₀.agenda.popDue ⟨1000600⟩).1.any (·.event == .departure ⟨2⟩) &&
      ((s₀.step ⟨1000600⟩).1.runUntil? (.ofSecs 3) 100).any fun s =>
        (s.timeline.toList.drop (s₀.step ⟨1000600⟩).1.timeline.toList.length).any isFromSecond) =
      true := by
    decide +kernel
  simp only [Option.any_eq_true, Bool.and_eq_true, beq_iff_eq] at h
  obtain ⟨s₀, -, ⟨hid, a, hpop, ha⟩, s, hs, hheard⟩ := h
  have hpop : s₀.agenda.popDue ⟨1000600⟩ = (some a, (s₀.agenda.popDue ⟨1000600⟩).2) :=
    Prod.ext hpop rfl
  obtain ⟨ts, hts⟩ := exists_unfolds_of_runUntil? .refl hs
  obtain ⟨-, hnode, -, ⟨os, ht, hos⟩, hsilent, -⟩ := departed_node_stays_silent hid hpop ha hts
  rw [ht, List.drop_left] at hheard
  exact ⟨s₀, s, a, _, ts, hid, hpop, ha, hts, hnode, hsilent, os, ht, hos, hheard⟩

end Simulation

end ClusterWave
