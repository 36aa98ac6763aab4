import ClusterWave.Proofs.Node.Handle
import ClusterWave.Proofs.Wavefront.Launch
import Mathlib.Tactic.Simps.Basic

/-!
# Packets that are delivered together

A node goes through a packet message by message, and only what it counts by packets tells where one
packet ended and the next one began. So it does not matter how messages are packed as long as they
arrive at one time and place: no handler reads these two counters or what has been asked for so far.
Every operation of a turn therefore commutes with taking the two counters away and putting effects
in front.
-/

namespace ClusterWave

/-- The counters without those that depend on where packets end. -/
def Counters.unmetered (c : Counters) : Counters := { c with packetsReceived := 0, roleChanges := 0 }

/-- The node without the counters that depend on where packets end. -/
@[simps]
def Node.unmetered (n : Node) : Node := { n with counters := n.counters.unmetered }

namespace Node

@[simp] lemma id_unmetered (n : Node) : n.unmetered.id = n.id := rfl

@[simp] lemma mayStart_unmetered (n : Node) : n.unmetered.mayStart = n.mayStart := rfl

@[simp] lemma inRange_unmetered (n : Node) (r : Record) : n.unmetered.inRange r = n.inRange r := rfl

@[simp] lemma ackName_unmetered (n : Node) : n.unmetered.ackName = n.ackName := rfl

end Node

/-! ### Effects in front -/

/-- The outbox with some effects that have been asked for before. -/
def Outbox.behind (es : List Effect) (o : Outbox) : Outbox := ⟨o.nextHandle, es ++ o.effects⟩

section Behind

variable (es : List Effect) (o : Outbox)

namespace Outbox

@[simp] lemma handle_behind : (o.behind es).handle = o.handle := rfl

@[simp] lemma add_behind (e : Effect) : (o.behind es).add e = (o.add e).behind es := by
  simp [behind, add]

@[simp] lemma schedule_behind (delay : Duration) (timer : Timer) :
    (o.behind es).schedule delay timer = (o.schedule delay timer).behind es := by
  simp [behind, schedule, handle]

@[simp] lemma cancel_behind (handle : TimerHandle) :
    (o.behind es).cancel handle = (o.cancel handle).behind es := add_behind es o _

@[simp] lemma broadcast_behind (p : Packet) :
    (o.behind es).broadcast p = (o.broadcast p).behind es := add_behind es o _

@[simp] lemma send_behind (peer : NodeId) (p : Packet) :
    (o.behind es).send peer p = (o.send peer p).behind es := add_behind es o _

end Outbox

namespace ReliableSender

variable (s : ReliableSender)

lemma silence_behind (p : Option Pending) :
    silence (o.behind es) p = (silence o p).behind es := by
  cases p with
  | none => rfl
  | some p => exact o.cancel_behind es p.timer

lemma arm_behind (peer : NodeId) (m : Message) (delay : Duration) :
    s.arm (o.behind es) peer m delay =
      ((s.arm o peer m delay).1, (s.arm o peer m delay).2.behind es) := by
  simp [arm, silence_behind]

lemma acknowledge_behind (peer : NodeId) (kind : MessageKind) :
    s.acknowledge (o.behind es) peer kind =
      ((s.acknowledge o peer kind).1, (s.acknowledge o peer kind).2.1.behind es,
        (s.acknowledge o peer kind).2.2) := by
  simp only [acknowledge]
  split <;> simp

lemma cancels_behind (ps : List Pending) :
    ps.foldl (fun o p => o.cancel p.timer) (o.behind es) =
      (ps.foldl (fun o p => o.cancel p.timer) o).behind es := by
  induction ps generalizing o with
  | nil => rfl
  | cons p ps ih => rw [List.foldl_cons, Outbox.cancel_behind, ih, List.foldl_cons]

lemma cancelKind_behind (kind : MessageKind) :
    s.cancelKind (o.behind es) kind =
      ((s.cancelKind o kind).1, (s.cancelKind o kind).2.1.behind es,
        (s.cancelKind o kind).2.2) := by
  simp only [cancelKind, giveUp, cancels_behind]

end ReliableSender

end Behind

/-! ### Resuming a turn -/

namespace Turn

/-- The turn of a node that has asked for some effects before, without the counters that depend on
where packets end. -/
def resumed (es : List Effect) (t : Turn) : Turn :=
  { t with node := t.node.unmetered, outbox := t.outbox.behind es }

variable (es : List Effect) (t : Turn)

@[simp] lemma now_resumed : (t.resumed es).now = t.now := rfl

@[simp] lemma node_resumed : (t.resumed es).node = t.node.unmetered := rfl

@[simp] lemma outbox_resumed : (t.resumed es).outbox = t.outbox.behind es := rfl

/-! ### Shared steps -/

@[simp] lemma setStatus_resumed (s : Status) :
    (t.resumed es).setStatus s = (t.setStatus s).resumed es := rfl

@[simp] lemma setRecord_resumed (r : Record) :
    (t.resumed es).setRecord r = (t.setRecord r).resumed es := rfl

@[simp] lemma setRegistry_resumed (g : Registry) :
    (t.resumed es).setRegistry g = (t.setRegistry g).resumed es := rfl

@[simp] lemma setSchedule_resumed (s : Schedule) :
    (t.resumed es).setSchedule s = (t.setSchedule s).resumed es := rfl

@[simp] lemma setDirection_resumed (d : Option Vec2) :
    (t.resumed es).setDirection d = (t.setDirection d).resumed es := rfl

@[simp] lemma advanceSeq_resumed : (t.resumed es).advanceSeq = t.advanceSeq.resumed es := rfl

@[simp] lemma setSlot_resumed (slot : Slot) (handle : Option TimerHandle) :
    (t.resumed es).setSlot slot handle = (t.setSlot slot handle).resumed es := rfl

@[simp] lemma arm_resumed (slot : Slot) (delay : Duration) (timer : Timer) :
    (t.resumed es).arm slot delay timer = (t.arm slot delay timer).resumed es := by
  simp only [arm, schedule, outbox_resumed, Outbox.handle_behind, setSlot_resumed]
  simp only [resumed, setSlot, edit, Outbox.schedule_behind]

@[simp] lemma disarm_resumed (slot : Slot) :
    (t.resumed es).disarm slot = (t.disarm slot).resumed es := by
  simp only [disarm, node_resumed, Node.unmetered_slots, outbox_resumed, Outbox.cancel_behind,
    setSlot_resumed]
  split <;> rfl

@[simp] lemma queueSend_resumed (delay : Duration) :
    (t.resumed es).queueSend delay = (t.queueSend delay).resumed es := by
  simp only [queueSend, node_resumed, Node.unmetered_slots, arm_resumed]
  split <;> rfl

@[simp] lemma broadcast_resumed (m : Message) :
    (t.resumed es).broadcast m = (t.broadcast m).resumed es := by
  simp only [broadcast, broadcastPacket, outbox_resumed, Outbox.broadcast_behind]
  rfl

@[simp] lemma send_resumed (peer : NodeId) (m : Message) :
    (t.resumed es).send peer m = (t.send peer m).resumed es := by
  simp only [send, outbox_resumed, Outbox.send_behind]
  rfl

@[simp] lemma sendReliably_resumed (peer : NodeId) (m : Message) (delay : Duration) :
    (t.resumed es).sendReliably peer m delay = (t.sendReliably peer m delay).resumed es := by
  simp only [sendReliably, node_resumed, Node.unmetered_reliable, outbox_resumed,
    ReliableSender.arm_behind]
  rfl

@[simp] lemma cancelKind_resumed (kind : MessageKind) :
    (t.resumed es).cancelKind kind = (t.cancelKind kind).resumed es := by
  simp only [cancelKind, node_resumed, Node.unmetered_reliable, outbox_resumed,
    ReliableSender.cancelKind_behind]
  rfl

/-! ### Clusters -/

@[simp] lemma join_resumed (head : NodeId) :
    (t.resumed es).join head = (t.join head).resumed es := by
  simp [join]

lemma merge_resumed : (t.resumed es).merge = t.merge.resumed es := by
  simp only [merge, node_resumed, Node.unmetered_registry, Node.unmetered_record,
    Node.id_unmetered]
  split
  · rfl
  · split <;> rfl

lemma settle_resumed : (t.resumed es).settle = t.settle.resumed es := by
  simp only [settle, node_resumed, Node.unmetered_registry, Node.unmetered_record]
  split <;> simp

lemma weighNeighbor_resumed (r : Record) :
    (t.resumed es).weighNeighbor r = (t.weighNeighbor r).resumed es := by
  simp only [weighNeighbor, node_resumed, Node.unmetered_registry, Node.unmetered_record,
    Node.unmetered_status, Node.id_unmetered, join_resumed, settle_resumed, merge_resumed,
    setRegistry_resumed]
  split <;> simp only [apply_ite (resumed es)]

lemma noteForeign_resumed (r : Record) :
    (t.resumed es).noteForeign r = (t.noteForeign r).resumed es := by
  simp only [noteForeign, node_resumed, Node.unmetered_registry, Node.unmetered_record,
    Node.id_unmetered, setRegistry_resumed]
  split
  · rfl
  · rw [apply_ite (resumed es)]

lemma onClusterInfo_resumed (r : Record) :
    (t.resumed es).onClusterInfo r = (t.onClusterInfo r).resumed es := by
  simp only [onClusterInfo, node_resumed, Node.unmetered_registry, Node.inRange_unmetered,
    setRegistry_resumed, weighNeighbor_resumed, noteForeign_resumed, apply_ite (resumed es)]

lemma onInitiateCluster_resumed (cluster : NodeId) (r : Record) :
    (t.resumed es).onInitiateCluster cluster r = (t.onInitiateCluster cluster r).resumed es := by
  simp only [onInitiateCluster, node_resumed, Node.unmetered_status, Node.unmetered_registry,
    Node.inRange_unmetered, setRegistry_resumed, join_resumed, apply_ite (resumed es)]

lemma onFormCluster_resumed (r : Record) :
    (t.resumed es).onFormCluster r = (t.onFormCluster r).resumed es := by
  simp only [onFormCluster, node_resumed, Node.unmetered_status, Node.unmetered_registry,
    Node.inRange_unmetered, setRegistry_resumed, join_resumed, apply_ite (resumed es)]

lemma onNeighborCluster_resumed (cluster : NodeId) (r : Record) :
    (t.resumed es).onNeighborCluster cluster r = (t.onNeighborCluster cluster r).resumed es := by
  simp only [onNeighborCluster, node_resumed, Node.unmetered_record, Node.unmetered_registry,
    Node.id_unmetered, setRegistry_resumed]
  split
  · split
    · rfl
    · rw [apply_ite (resumed es)]
  · rfl

/-! ### The wavefront -/

@[simp] lemma scheduleActivation_resumed :
    (t.resumed es).scheduleActivation = t.scheduleActivation.resumed es := by
  simp only [scheduleActivation, setStatus_resumed, node_resumed, now_resumed,
    Node.unmetered_schedule, Node.unmetered_settings, disarm_resumed, arm_resumed,
    apply_ite (resumed es)]

@[simp] lemma startFirst_resumed : (t.resumed es).startFirst = t.startFirst.resumed es := by
  simp only [startFirst, node_resumed, Node.unmetered_schedule, setSchedule_resumed,
    scheduleActivation_resumed, apply_ite (resumed es)]

@[simp] lemma announceLater_resumed :
    (t.resumed es).announceLater = t.announceLater.resumed es := by
  simp only [announceLater, node_resumed, Node.unmetered_registry, Node.unmetered_settings,
    disarm_resumed, arm_resumed, apply_ite (resumed es)]

lemma offers_resumed (source : Vec2) (fs : List Forward) (delay : Duration) :
    fs.foldl (offer source) (t.resumed es, delay) =
      ((fs.foldl (offer source) (t, delay)).1.resumed es,
        (fs.foldl (offer source) (t, delay)).2) := by
  induction fs generalizing t delay with
  | nil => rfl
  | cons f fs ih =>
    have ho : offer source (t.resumed es, delay) f =
        ((offer source (t, delay) f).1.resumed es, (offer source (t, delay) f).2) := by
      simp [offer]
    rw [List.foldl_cons, ho, ih, List.foldl_cons]

@[simp] lemma planned_resumed (source : Vec2) (plan : Plan) :
    (t.resumed es).planned source plan = (t.planned source plan).resumed es := by
  simp only [planned, cancelKind_resumed, node_resumed, Node.unmetered_settings, offers_resumed,
    setDirection_resumed, announceLater_resumed]

@[simp] lemma launch_resumed (origin : NodeId) (incoming : Vec2) :
    (t.resumed es).launch origin incoming = (t.launch origin incoming).resumed es := by
  have ho : (t.resumed es).origin? origin = t.origin? origin := rfl
  cases h : t.origin? origin with
  | none => rw [launch_of_none h, launch_of_none (ho.trans h)]
  | some source =>
    have hp : (t.resumed es).plan? source incoming = t.plan? source incoming := rfl
    rw [launch_of_origin h, launch_of_origin (ho.trans h), hp]
    cases t.plan? source incoming with
    | none => exact cancelKind_resumed es t _
    | some plan =>
      simp only [planned_resumed, node_resumed, Node.id_unmetered, Node.mayStart_unmetered,
        startFirst_resumed, apply_ite (resumed es)]

lemma onDensityMap_resumed (seq : UInt64) (cluster : NodeId) (r : Record) (map : DensityMap) :
    (t.resumed es).onDensityMap seq cluster r map =
      (t.onDensityMap seq cluster r map).resumed es := by
  simp only [onDensityMap]
  split
  · rfl
  · have hkeep (u : Turn) :
        ((u.resumed es).edit fun n => { n with neighborMaps := n.neighborMaps.insert cluster map }) =
          (u.edit fun n => { n with neighborMaps := n.neighborMaps.insert cluster map }).resumed
            es := rfl
    simp only [node_resumed, Node.unmetered_registry, setRegistry_resumed, hkeep,
      Node.ackName_unmetered, send_resumed]

lemma considerOffer_resumed (source destination direction : Vec2) (startTime : Timestamp) :
    (t.resumed es).considerOffer source destination direction startTime =
      (t.considerOffer source destination direction startTime).resumed es := by
  have hc : candidate? t.node.unmetered destination = candidate? t.node destination := rfl
  simp only [considerOffer, node_resumed, hc]
  split
  · rfl
  · rename_i c _
    have ha : arrival? t.node.unmetered source c.place direction startTime =
      arrival? t.node source c.place direction startTime := rfl
    simp only [ha]
    split
    · rfl
    · simp only [Node.unmetered_schedule, now_resumed, setSchedule_resumed, launch_resumed,
        apply_ite (resumed es)]

lemma onInterCluster_resumed (seq : UInt64) (cluster : NodeId)
    (source destination direction : Vec2) (startTime : Timestamp) :
    (t.resumed es).onInterCluster seq cluster source destination direction startTime =
      (t.onInterCluster seq cluster source destination direction startTime).resumed es := by
  simp only [onInterCluster, node_resumed, Node.ackName_unmetered, send_resumed,
    Node.unmetered_record, considerOffer_resumed, apply_ite (resumed es)]

lemma onIntraCluster_resumed (cluster starter : NodeId) (startTime : Timestamp)
    (direction : Vec2) :
    (t.resumed es).onIntraCluster cluster starter startTime direction =
      (t.onIntraCluster cluster starter startTime direction).resumed es := by
  simp only [onIntraCluster, node_resumed, now_resumed, Node.unmetered_record,
    Node.unmetered_status, Node.unmetered_schedule, Node.id_unmetered, Node.mayStart_unmetered,
    setDirection_resumed, setSchedule_resumed, scheduleActivation_resumed, apply_ite (resumed es)]

lemma onInterNode_resumed (sender incoming : Vec2) (startTime : Timestamp) :
    (t.resumed es).onInterNode sender incoming startTime =
      (t.onInterNode sender incoming startTime).resumed es := by
  have hd : relayedDirection t.node.unmetered sender incoming =
    relayedDirection t.node sender incoming := rfl
  simp only [onInterNode, node_resumed, now_resumed, hd, Node.unmetered_record,
    Node.unmetered_settings, Node.unmetered_schedule, setSchedule_resumed,
    scheduleActivation_resumed]
  split
  · split
    · rfl
    · simp only [apply_ite (resumed es)]
  · rfl

/-! ### Acknowledgments and incidents -/

lemma onAck_resumed (peer : NodeId) (kind : MessageKind) :
    (t.resumed es).onAck peer kind = (t.onAck peer kind).resumed es := by
  simp only [onAck, node_resumed, Node.unmetered_reliable, outbox_resumed,
    ReliableSender.acknowledge_behind]
  rfl

lemma onIncident_resumed (sender origin : NodeId) (timestamp : Timestamp)
    (cluster : Option NodeId) (severity : Incident) :
    (t.resumed es).onIncident sender origin timestamp cluster severity =
      (t.onIncident sender origin timestamp cluster severity).resumed es := by
  have hown : (t.resumed es).onOwnIncident timestamp =
      (t.onOwnIncident timestamp).resumed es := by
    simp only [onOwnIncident, node_resumed, Node.unmetered_lastIncident]
    split <;> rfl
  simp only [onIncident, node_resumed, Node.unmetered_record, Node.id_unmetered, hown,
    broadcast_resumed, apply_ite (resumed es)]

/-! ### Messages -/

lemma onMessage_resumed (sender : NodeId) (m : Message) :
    (t.resumed es).onMessage sender m = (t.onMessage sender m).resumed es := by
  cases m with
  | clusterInfo => exact onClusterInfo_resumed es t _
  | initiateCluster => exact onInitiateCluster_resumed es t _ _
  | formCluster => exact onFormCluster_resumed es t _
  | neighborCluster => exact onNeighborCluster_resumed es t _ _
  | densityMap => exact onDensityMap_resumed es t _ _ _ _
  | interCluster => exact onInterCluster_resumed es t _ _ _ _ _ _
  | intraCluster => exact onIntraCluster_resumed es t _ _ _ _
  | interNode => exact onInterNode_resumed es t _ _ _
  | ack => exact onAck_resumed es t _ _
  | incident => exact onIncident_resumed es t _ _ _ _ _

/-- The messages of a packet find the node as it has become by then. -/
lemma onMessages_resumed (sender : NodeId) (ms : List Message) :
    ms.foldl (onMessage sender) (t.resumed es) = (ms.foldl (onMessage sender) t).resumed es := by
  induction ms generalizing t with
  | nil => rfl
  | cons m ms ih => rw [List.foldl_cons, onMessage_resumed, ih, List.foldl_cons]

/-- What is counted for a packet is among the counters that are taken away. -/
lemma receive_resumed : t.receive.resumed es = t.locate.resumed es := rfl

lemma noteRole_resumed (before : Degree × Option NodeId) :
    (t.noteRole before).resumed es = t.resumed es := by
  simp only [noteRole]
  split <;> rfl

/-! ### Place and time -/

/-- Whether a turn takes place at a given time and place, and the node has taken them down. -/
structure IsAt (now : Timestamp) (position : Vec3) (t : Turn) : Prop where
  time : t.now = now
  place : t.position = position
  stamp : t.node.record.timestamp = now
  spot : t.node.record.position = position

end Turn

variable {n₀ : Node} {v : Visit} {t t' : Turn} {now : Timestamp} {position : Vec3}
  {sender : NodeId} {packet : Packet}

namespace Turn.IsAt

lemma of_eq (h : t.IsAt now position) (hn : t'.now = t.now) (hp : t'.position = t.position)
    (ht : t'.node.record.timestamp = t.node.record.timestamp)
    (hr : t'.node.record.position = t.node.record.position) : t'.IsAt now position :=
  ⟨hn.trans h.time, hp.trans h.place, ht.trans h.stamp, hr.trans h.spot⟩

lemma scheduleActivation (h : t.IsAt now position) : t.scheduleActivation.IsAt now position :=
  h.of_eq t.now_scheduleActivation t.position_scheduleActivation
    (by rw [Turn.node_scheduleActivation]) (by rw [Turn.node_scheduleActivation])

lemma locate_eq (h : t.IsAt now position) : t.locate = t := by
  have hr : { t.node.record with position := t.position, timestamp := t.now } = t.node.record := by
    rw [h.time, h.place, ← h.stamp, ← h.spot]
  rw [locate, edit, hr]

end Turn.IsAt

/-- Time and place stay as they are while a node goes through a packet. -/
lemma Move.isAt (m : Move n₀ v t t') (hv : v.call = .packet sender packet)
    (h : t.IsAt now position) : t'.IsAt now position := by
  cases m with
  | locate => exact ⟨h.time, h.place, h.time, h.place⟩
  | join head =>
    have hr : (t.node.record.join head).timestamp = t.node.record.timestamp ∧
        (t.node.record.join head).position = t.node.record.position := by
      unfold Record.join
      split <;> exact ⟨rfl, rfl⟩
    exact h.of_eq rfl rfl hr.1 hr.2
  | disarm =>
    exact h.of_eq (t.now_disarm _) (t.position_disarm _) (by rw [Turn.node_disarm])
      (by rw [Turn.node_disarm])
  | startFirst =>
    exact h.of_eq t.now_startFirst t.position_startFirst (by rw [Turn.node_startFirst])
      (by rw [Turn.node_startFirst])
  | adopt | relax => exact .scheduleActivation (h.of_eq rfl rfl rfl rfl)
  | retransmit hc | startAlone hc | activate hc => cases hc.symm.trans hv
  | _ => exact h.of_eq rfl rfl rfl rfl

/-- A packet leaves the time and the place of its delivery in the record of a node. -/
lemma Node.isAt_visit (n : Node) (nextHandle : Nat) (p : Packet) :
    (n.visit ⟨now, position, nextHandle, .packet sender p⟩).IsAt now position := by
  have hr : (Turn.start n now position nextHandle).receive.IsAt now position :=
    ⟨rfl, rfl, rfl, rfl⟩
  rw [n.visit_of_packet rfl]
  have hmoves : Moves n ⟨now, position, nextHandle, .packet sender p⟩
      (Turn.start n now position nextHandle).receive
      ((p.messages.foldl (Turn.onMessage sender)
        (Turn.start n now position nextHandle).receive).noteRole n.record.role) := by
    refine Moves.trans (Moves.foldl (fun t m hm => ?_) _) (Moves.noteRole _ _)
    exact Moves.onMessage sender t (Visit.brings_iff.2 ⟨_, _, rfl, hm⟩)
  exact hmoves.induct (P := Turn.IsAt now position) hr fun _ _ h m => m.isAt rfl h

/-! ### Deliveries -/

namespace Node

/-- What becomes of a node to which packets of a sender are delivered one after the other, at one
time and place, and what it asks for meanwhile. -/
def deliver (n : Node) (now : Timestamp) (position : Vec3) (sender : NodeId) (nextHandle : Nat) :
    List Packet → Node × List Effect
  | [] => (n, [])
  | p :: ps =>
    let t := n.visit ⟨now, position, nextHandle, .packet sender p⟩
    let rest := t.node.deliver now position sender t.outbox.nextHandle ps
    (rest.1, t.outbox.effects ++ rest.2)

/-- The turn in which a node goes through messages of a sender, as if there were no packets. -/
def through (n : Node) (now : Timestamp) (position : Vec3) (sender : NodeId) (nextHandle : Nat)
    (ms : List Message) : Turn :=
  ms.foldl (Turn.onMessage sender) (Turn.start n now position nextHandle)

/-- What comes after a packet finds the node as the packet leaves it. -/
lemma through_append (n : Node) (nextHandle : Nat) (p : Packet) (ms : List Message)
    (h : (Turn.start n now position nextHandle).IsAt now position) {u : Turn}
    (hu : n.visit ⟨now, position, nextHandle, .packet sender p⟩ = u) :
    (n.through now position sender nextHandle (p.messages ++ ms)).resumed [] =
      (u.node.through now position sender u.outbox.nextHandle ms).resumed u.outbox.effects := by
  have hat : u.IsAt now position := hu ▸ n.isAt_visit nextHandle p
  have hvisit : u.resumed [] = (n.through now position sender nextHandle p.messages).resumed [] := by
    rw [← hu, n.visit_of_packet rfl, Turn.noteRole_resumed, ← Turn.onMessages_resumed,
      Turn.receive_resumed, h.locate_eq, Turn.onMessages_resumed]
    rfl
  have hstart : u.resumed [] =
      (Turn.start u.node now position u.outbox.nextHandle).resumed u.outbox.effects := by
    rw [← hat.time, ← hat.place]
    simp [Turn.resumed, Turn.start, Outbox.behind, Outbox.fresh]
  calc (n.through now position sender nextHandle (p.messages ++ ms)).resumed []
      = (ms.foldl (Turn.onMessage sender)
          (n.through now position sender nextHandle p.messages)).resumed [] := by
        rw [through, List.foldl_append]
        rfl
    _ = ms.foldl (Turn.onMessage sender) (u.resumed []) := by
        rw [← Turn.onMessages_resumed, hvisit]
    _ = (u.node.through now position sender u.outbox.nextHandle ms).resumed u.outbox.effects := by
        rw [hstart, Turn.onMessages_resumed, through]

/-- Packets one after the other are as good as all their messages together. -/
lemma deliver_eq_through (n : Node) (sender : NodeId) (nextHandle : Nat) (ps : List Packet)
    (h : (Turn.start n now position nextHandle).IsAt now position) :
    let t := n.through now position sender nextHandle (ps.flatMap Packet.messages)
    (n.deliver now position sender nextHandle ps).1.unmetered = t.node.unmetered ∧
      (n.deliver now position sender nextHandle ps).2 = t.outbox.effects := by
  induction ps generalizing n nextHandle with
  | nil => exact ⟨rfl, rfl⟩
  | cons p ps ih =>
    obtain ⟨u, hu⟩ : ∃ u, n.visit ⟨now, position, nextHandle, .packet sender p⟩ = u := ⟨_, rfl⟩
    have hat : u.IsAt now position := hu ▸ n.isAt_visit nextHandle p
    obtain ⟨hnode, heffects⟩ := ih u.node u.outbox.nextHandle ⟨rfl, rfl, hat.stamp, hat.spot⟩
    have happend := through_append n nextHandle p (ps.flatMap Packet.messages) h hu
    simp only [deliver, hu, List.flatMap_cons]
    constructor
    · exact hnode.trans (congrArg Turn.node happend).symm
    · rw [heffects]
      exact (congrArg (fun t => t.outbox.effects) happend).symm

/-- The first packet has the node take down where it is. -/
lemma deliver_locate (n : Node) (nextHandle : Nat) {ps : List Packet} (h : ps ≠ []) :
    n.deliver now position sender nextHandle ps =
      (Turn.start n now position nextHandle).locate.node.deliver now position sender nextHandle
        ps := by
  cases ps with
  | nil => exact absurd rfl h
  | cons p ps => rfl

/-- It does not matter how messages are packed that arrive at one time and place. Whatever the
limits of the packets, the node is the same afterwards, except for the number of packets received
and of changes of role, and has asked for the same effects in the same order. -/
theorem batching_is_transparent (n : Node) (now : Timestamp) (position : Vec3) (sender : NodeId)
    (nextHandle : Nat) (ms : List Message) (limit limit' : Nat) :
    let a := n.deliver now position sender nextHandle (Packet.batch limit ms)
    let b := n.deliver now position sender nextHandle (Packet.batch limit' ms)
    a.1.unmetered = b.1.unmetered ∧ a.2 = b.2 := by
  cases hms : ms with
  | nil => exact ⟨rfl, rfl⟩
  | cons m rest =>
    rw [← hms]
    have hne (limit : Nat) : Packet.batch limit ms ≠ [] := by
      intro he
      have hl := Packet.flatMap_messages_batch limit ms
      rw [he, hms] at hl
      cases hl
    have hat : (Turn.start (Turn.start n now position nextHandle).locate.node now position
        nextHandle).IsAt now position := ⟨rfl, rfl, rfl, rfl⟩
    have hthrough (limit : Nat) :=
      deliver_eq_through _ sender nextHandle (Packet.batch limit ms) hat
    simp only [Packet.flatMap_messages_batch] at hthrough
    rw [n.deliver_locate nextHandle (hne limit), n.deliver_locate nextHandle (hne limit')]
    constructor
    · rw [(hthrough limit).1, (hthrough limit').1]
    · rw [(hthrough limit).2, (hthrough limit').2]

end Node

end ClusterWave
