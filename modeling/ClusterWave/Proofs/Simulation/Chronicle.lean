import ClusterWave.Proofs.Network.Basic
import ClusterWave.Proofs.Node.Writable
import ClusterWave.Proofs.Simulation.Basic

/-!
# The chronicle of a simulation

The chronicle of a simulation lists the visits that took place in it, first one first, each with the
appointment for which it did. From it one can tell where a packet has come from: whatever a node is
handed was in an appointment that nobody has kept before, and this one was made when the sender had
asked to send the packet.
-/

namespace ClusterWave

/-- A visit that took place in a simulation, and the appointment for which it did. A node is started
without an appointment. -/
structure Episode where
  cause : Option Appointment
  deed : Deed
deriving DecidableEq

/-- Whether a node asks, in a visit, to send a packet to a receiver. -/
def Deed.Sends (d : Deed) (receiver : NodeId) (p : Packet) : Prop :=
  ∃ e ∈ (d.before.visit d.visit).outbox.effects, e.packetFor? receiver = some p

/-- The appointment for a delivery that comes of an effect holds the packet of the effect. -/
lemma Effect.Books.exists_packet {id : NodeId} {now : Timestamp} {e : Effect} {a : Appointment}
    (h : e.Books id now a) {receiver sender : NodeId} {data : List UInt8}
    (he : a.event = .delivery receiver sender data) :
    sender = id ∧ ∃ q, e.packetFor? receiver = some q ∧ data = encode q := by
  cases h with
  | timer => cases he
  | broadcast packet =>
    cases he
    exact ⟨rfl, packet, rfl, rfl⟩
  | send packet =>
    cases he
    exact ⟨rfl, packet, if_pos rfl, rfl⟩

/-- The numbers of the appointments for which there were visits. -/
def kept (log : List Episode) : List Nat := (log.filterMap Episode.cause).map Appointment.seq

lemma kept_append (log log' : List Episode) : kept (log ++ log') = kept log ++ kept log' := by
  rw [kept, List.filterMap_append, List.map_append]
  rfl

namespace Simulation

variable {s s' : Simulation} {log : List Episode} {d : Deed}

/-! ### What takes place -/

/-- The visit that a call comes to, unless the node has left. -/
def deed? (s : Simulation) (id : NodeId) (c : Call) : Option Deed :=
  match s.directory.resolve? id s.now, s.nodes.get? id with
  | some position, some node => some ⟨id, node, ⟨s.now, position, s.agenda.nextHandle, c⟩⟩
  | _, _ => none

/-- The visit to which an event leads, if it leads to one. -/
def answer? (s : Simulation) : Event → Option Deed
  | .timer node _ timer => s.deed? node (.timer timer)
  | .delivery receiver sender data =>
    match Packet.decode? data with
    | .error _ => none
    | .ok packet => s.deed? receiver (.packet sender packet)
  | .departure _ => none

/-- What takes place with the next event, if one is due by `limit`. -/
def episode (s : Simulation) (limit : Timestamp) : List Episode :=
  match s.agenda.popDue limit with
  | (none, _) => []
  | (some a, agenda) =>
    ((({ s with agenda }).advance a.time).answer? a.event).toList.map (Episode.mk (some a))

/-- What takes place in a run to `limit`. -/
def episodes (limit : Timestamp) : Nat → Simulation → List Episode
  | 0, _ => []
  | fuel + 1, s =>
    match s.step limit with
    | (_, false) => []
    | (s', true) => s.episode limit ++ episodes limit fuel s'

/-- The chronicles of the simulations that there can be. -/
inductive Chronicle : List Episode → Simulation → Prop where
  | create {settings : ChannelSettings} {s : Simulation} (h : create settings = .ok s) :
      Chronicle [] s
  | addNode {log : List Episode} {s : Simulation} {id : NodeId} {settings : Settings}
      {isStarter : Bool} {velocity : Option Vec2} {motion : Motion} {node : Node}
      {directory : Directory} (hs : Chronicle log s)
      (hn : Node.create id settings isStarter velocity = .ok node)
      (hd : s.directory.register? id motion = some directory) :
      Chronicle (log ++ ((s.join id node directory).deed? id .start).toList.map (Episode.mk none))
        ((s.join id node directory).call id .start)
  | addDropRule {log : List Episode} {s : Simulation} (r : DropRule) (hs : Chronicle log s) :
      Chronicle log (s.addDropRule r)
  | scheduleDeparture {log : List Episode} {s : Simulation} (id : NodeId) (time : Timestamp)
      (hs : Chronicle log s) : Chronicle log (s.scheduleDeparture id time)
  | runUntil {log : List Episode} {s s' : Simulation} {limit : Timestamp} {fuel : Nat}
      (hs : Chronicle log s) (h : s.runUntil? limit fuel = some s') :
      Chronicle (log ++ s.episodes limit fuel) s'

lemma episode_of_step_eq_false {limit : Timestamp} (h : s.step limit = (s', false)) :
    s.episode limit = [] := by
  rcases hp : s.agenda.popDue limit with ⟨found, g⟩
  cases found with
  | none => simp only [episode, hp]
  | some a =>
    simp only [step, hp] at h
    cases h

/-- Every simulation has a chronicle. -/
lemma Reached.chronicle (hs : s.Reached) : ∃ log, Chronicle log s := by
  induction hs with
  | create h => exact ⟨[], .create h⟩
  | addNode _ h ih =>
    obtain ⟨log, hlog⟩ := ih
    obtain ⟨node, directory, hn, hd, rfl⟩ := exists_of_addNode h
    exact ⟨_, hlog.addNode hn hd⟩
  | addDropRule r _ ih =>
    obtain ⟨log, hlog⟩ := ih
    exact ⟨log, hlog.addDropRule r⟩
  | scheduleDeparture id time _ ih =>
    obtain ⟨log, hlog⟩ := ih
    exact ⟨log, hlog.scheduleDeparture id time⟩
  | runUntil _ h ih =>
    obtain ⟨log, hlog⟩ := ih
    exact ⟨_, hlog.runUntil h⟩

/-- Only what can be reached has one. -/
lemma Chronicle.reached (h : Chronicle log s) : s.Reached := by
  induction h with
  | create h => exact .create h
  | @addNode _ s id settings isStarter velocity motion node directory _ hn hd ih =>
    have hadd : s.addNode id settings isStarter velocity motion =
        .ok ((s.join id node directory).call id .start) := by
      simp only [Simulation.addNode, hn, hd]
      rfl
    exact ih.addNode hadd
  | addDropRule r _ ih => exact ih.addDropRule r
  | scheduleDeparture id time _ ih => exact ih.scheduleDeparture id time
  | runUntil _ h ih => exact ih.runUntil h

/-! ### What visits are -/

lemma call_of_deed?_eq_none {id : NodeId} {c : Call} (h : s.deed? id c = none) :
    s.call id c = s := by
  simp only [deed?] at h
  split at h
  · cases h
  · simp only [call]

lemma called_of_deed? {id : NodeId} {c : Call} (h : s.deed? id c = some d) :
    d.id = id ∧ d.visit.call = c ∧ s.Called d.id d.before d.visit (s.call id c) := by
  simp only [deed?] at h
  split at h
  · rename_i position node hp hn
    cases h
    exact ⟨rfl, rfl, called_of_resolve c hp hn⟩
  · cases h

/-- If an event leads to no visit, it leaves the nodes and the agenda alone. -/
lemma process_of_answer?_eq_none {e : Event} (h : s.answer? e = none) :
    (s.process e).nodes = s.nodes ∧ (s.process e).agenda = s.agenda := by
  cases e with
  | timer node handle timer =>
    have hcall : s.process (.timer node handle timer) = s := call_of_deed?_eq_none h
    exact ⟨congrArg nodes hcall, congrArg agenda hcall⟩
  | departure node => exact ⟨rfl, rfl⟩
  | delivery receiver sender data =>
    simp only [answer?] at h
    simp only [process, deliver]
    split
    · exact ⟨rfl, rfl⟩
    · rename_i packet hdata
      rw [hdata] at h
      split
      · refine ⟨(congrArg nodes (call_of_deed?_eq_none ?_)).trans rfl,
          (congrArg agenda (call_of_deed?_eq_none ?_)).trans rfl⟩
        · exact h
        · exact h
      · exact ⟨rfl, rfl⟩

lemma called_of_answer? {e : Event} (h : s.answer? e = some d) :
    s.Called d.id d.before d.visit (s.process e) := by
  cases e with
  | timer node handle timer => exact (called_of_deed? h).2.2
  | departure node => cases h
  | delivery receiver sender data =>
    simp only [answer?] at h
    split at h
    · cases h
    · rename_i packet hdata
      have hactive : s.isActive receiver := by
        simp only [deed?] at h
        split at h
        · rename_i hp _
          simp [isActive, hp]
        · cases h
      simp only [process, deliver, hdata, if_pos hactive]
      obtain ⟨-, -, hc⟩ := called_of_deed? (s := (s.count fun t =>
        { t with deliveries := t.deliveries + 1 }).record
          (.delivered sender receiver packet.kinds s.now)) h
      exact ⟨hc.node, hc.position, hc.visit_now, hc.nextHandle, hc.now, hc.directory, hc.nodes,
        hc.agenda⟩

/-- A packet that is handed over was in the event. -/
lemma event_of_answer? {e : Event} (h : s.answer? e = some d) {sender : NodeId} {p : Packet}
    (hc : d.visit.call = .packet sender p) :
    ∃ data, e = .delivery d.id sender data ∧ Packet.decode? data = .ok p := by
  cases e with
  | timer node handle timer =>
    obtain ⟨-, hcall, -⟩ := called_of_deed? h
    rw [hcall] at hc
    cases hc
  | departure node => cases h
  | delivery receiver sender' data =>
    simp only [answer?] at h
    split at h
    · cases h
    · rename_i packet hdata
      obtain ⟨rfl, hcall, -⟩ := called_of_deed? h
      rw [hcall] at hc
      cases hc
      exact ⟨data, rfl, hdata⟩

/-! ### Where packets come from -/

/-- In one of some visits the sender has asked to send the receiver a packet with this encoding. -/
def Sent (log : List Episode) (sender receiver : NodeId) (data : List UInt8) : Prop :=
  ∃ y ∈ log, y.deed.id = sender ∧ ∃ q, y.deed.Sends receiver q ∧ data = encode q ∧
    (y.deed.before.settings.grid.IsCountable → q.IsWritable)

lemma Sent.append {sender receiver : NodeId} {data : List UInt8}
    (h : Sent log sender receiver data) (log' : List Episode) :
    Sent (log ++ log') sender receiver data := by
  obtain ⟨y, hy, h⟩ := h
  exact ⟨y, List.mem_append_left _ hy, h⟩

/-- What a visit hands over was in the appointment for which it took place, and it was sent in an
earlier visit. -/
def Handed (past : List Episode) (x : Episode) : Prop :=
  ∀ sender p, x.deed.visit.call = .packet sender p →
    ∃ a data, x.cause = some a ∧ a.event = .delivery x.deed.id sender data ∧
      Packet.decode? data = .ok p ∧ Sent past sender x.deed.id data

/-- What a chronicle says about packets. -/
structure Faithful (log : List Episode) (s : Simulation) : Prop where
  nodes : s.Each fun _ n => n.Writes
  numbered : s.agenda.Numbered (kept log)
  queued : ∀ a ∈ s.agenda.appointments, ∀ receiver sender data,
    a.event = .delivery receiver sender data → Sent log sender receiver data
  handed : ∀ past x future, log = past ++ x :: future → Handed past x

namespace Faithful

lemma of_eq (h : Faithful log s) (hn : s'.nodes = s.nodes) (ha : s'.agenda = s.agenda) :
    Faithful log s' := by
  refine ⟨h.nodes.of_nodes hn, ?_, ?_, h.handed⟩
  · rw [ha]
    exact h.numbered
  · rw [ha]
    exact h.queued

/-- The log goes on with a visit, for an appointment that nobody has kept. -/
lemma called (h : Faithful log s) {cause : Option Appointment}
    (hd : s.Called d.id d.before d.visit s')
    (hn : s.agenda.Numbered (kept (log ++ [⟨cause, d⟩]))) (hx : Handed log ⟨cause, d⟩) :
    Faithful (log ++ [⟨cause, d⟩]) s' := by
  have hwrites : d.before.Writes := h.nodes d.id d.before hd.node
  refine ⟨h.nodes.insert (hwrites.visit d.visit) hd.nodes, ?_, ?_, ?_⟩
  · exact hd.agenda.numbered _ (hn.foldl_apply _ _ _)
  · intro a ha receiver sender data he
    obtain ⟨new, hp, hnew⟩ := hd.grows
    rcases List.mem_append.1 (hp.mem_iff.1 ha) with ha | ha
    · obtain ⟨e, hmem, hb⟩ := hnew a ha
      obtain ⟨rfl, q, hq, rfl⟩ := hb.exists_packet he
      exact ⟨⟨cause, d⟩, List.mem_append_right _ List.mem_cons_self, rfl, q, ⟨e, hmem, hq⟩, rfl,
        fun hg => hwrites.isWritable hg hmem hq⟩
    · exact (h.queued a ha receiver sender data he).append _
  · intro past x future heq
    rcases cut_append_singleton heq with ⟨rfl, rfl, -⟩ | ⟨rest, -, heq⟩
    · exact hx
    · exact h.handed past x rest heq

/-- The log goes on with the visit to which a call comes. -/
lemma call (h : Faithful log s) (id : NodeId) {c : Call}
    (hc : ∀ sender p, c ≠ .packet sender p) :
    Faithful (log ++ (s.deed? id c).toList.map (Episode.mk none)) (s.call id c) := by
  cases hd : s.deed? id c with
  | none =>
    rw [call_of_deed?_eq_none hd]
    simpa using h
  | some d =>
    obtain ⟨-, hcall, hd⟩ := called_of_deed? hd
    refine h.called hd ?_ ?_
    · rw [kept_append]
      simpa [kept] using h.numbered
    · intro sender p hpacket
      exact absurd (hcall.symm.trans hpacket) (hc sender p)

lemma advance (h : Faithful log s) (time : Timestamp) : Faithful log (s.advance time) :=
  h.of_eq (nodes_advance s time) (agenda_advance s time)

lemma step (h : Faithful log s) (limit : Timestamp) :
    Faithful (log ++ s.episode limit) (s.step limit).1 := by
  rcases hp : s.agenda.popDue limit with ⟨found, g⟩
  have hnum := h.numbered.popDue hp
  have hsub := (Agenda.append_sublist_of_popDue hp).subset
  have hg : Faithful log { s with agenda := g } :=
    ⟨h.nodes.of_nodes rfl, hnum.of_append,
      fun b hb => h.queued b (hsub (List.mem_append_right _ hb)), h.handed⟩
  cases found with
  | none =>
    simp only [Simulation.step, episode, hp, List.append_nil]
    exact hg
  | some a =>
    have hsent (receiver sender : NodeId) (data : List UInt8)
        (he : a.event = .delivery receiver sender data) : Sent log sender receiver data :=
      h.queued a (hsub List.mem_cons_self) receiver sender data he
    simp only [Simulation.step, episode, hp]
    -- the count of events is all that comes after the event itself
    refine of_eq (s := ({ s with agenda := g }.advance a.time).process a.event) ?_ rfl rfl
    cases hd : (({ s with agenda := g }).advance a.time).answer? a.event with
    | none =>
      obtain ⟨hnodes, hagenda⟩ := process_of_answer?_eq_none hd
      rw [Option.toList_none, List.map_nil, List.append_nil]
      exact (hg.advance a.time).of_eq hnodes hagenda
    | some d =>
      refine (hg.advance a.time).called (called_of_answer? hd) ?_ ?_
      · rw [agenda_advance, kept_append]
        exact hnum
      · intro sender p hc
        obtain ⟨data, he, hdata⟩ := event_of_answer? hd hc
        exact ⟨a, data, rfl, he, hdata, hsent _ _ _ he⟩

lemma runUntil {limit : Timestamp} {fuel : Nat} (h : Faithful log s)
    (hr : s.runUntil? limit fuel = some s') : Faithful (log ++ s.episodes limit fuel) s' := by
  induction fuel generalizing s log with
  | zero => cases hr
  | succ fuel ih =>
    have hstep := h.step limit
    rcases hs : s.step limit with ⟨t, due⟩
    rw [hs] at hstep
    simp only [runUntil?, hs] at hr
    simp only [episodes, hs]
    cases due with
    | true =>
      rw [← List.append_assoc]
      exact ih hstep hr
    | false =>
      cases hr
      rw [episode_of_step_eq_false hs, List.append_nil] at hstep
      rw [List.append_nil]
      exact hstep.advance limit

end Faithful

/-- A chronicle is faithful. -/
lemma Chronicle.faithful (h : Chronicle log s) : Faithful log s := by
  induction h with
  | create h =>
    obtain ⟨channel, rfl⟩ := exists_of_create h
    refine ⟨?_, ⟨List.nodup_nil, List.forall_mem_nil _⟩, List.forall_mem_nil _, ?_⟩
    · intro id n hget
      cases hget
    · intro past x future heq
      cases past <;> cases heq
  | @addNode log s id settings isStarter velocity motion node directory _ hn _ ih =>
    have hnew : node.IsNew := ⟨id, settings, isStarter, velocity, hn⟩
    have hjoin : Faithful log (s.join id node directory) :=
      ⟨ih.nodes.insert hnew.writes rfl, ih.numbered, ih.queued, ih.handed⟩
    refine hjoin.call id ?_
    rintro sender p ⟨⟩
  | addDropRule r _ ih => exact ih.of_eq rfl rfl
  | @scheduleDeparture log s id time _ ih =>
    refine ⟨ih.nodes, ih.numbered.push _ _, ?_, ih.handed⟩
    intro a ha receiver sender data he
    rcases List.mem_cons.1 ((Appointment.perm_insert _ _).mem_iff.1 ha) with rfl | ha
    · cases he
    · exact ih.queued a ha receiver sender data he
  | runUntil _ hr ih => exact ih.runUntil hr

end Simulation

end ClusterWave
