import ClusterWave.Node.Inbox

/-!
# Handling events

A node is started once. From then on it handles its own timers and the packets that arrive.
-/

namespace ClusterWave

/-- What a node is called for. -/
inductive Call where
  /-- The run begins. -/
  | start
  /-- The node is asked to form a cluster. -/
  | formCluster
  | timer (timer : Timer)
  | packet (sender : NodeId) (packet : Packet)
deriving DecidableEq

namespace Turn

/-- Arm the timers for the begin and the end of clustering and for the first incident. -/
def onStart (t : Turn) : Turn :=
  let t := t.locate
  let s := t.node.settings
  let t := t.schedule ((Timestamp.ofDuration s.clusteringStart).since t.now) .start
  let t :=
    match s.clusteringStop with
    | some stop => t.schedule ((Timestamp.ofDuration stop).since t.now) .stop
    | none => t
  match s.incidentInterval with
  | some interval => t.schedule interval .incident
  | none => t

/-- Send the pending message of a kind to a peer again. -/
def retransmit (t : Turn) (peer : NodeId) (kind : MessageKind) : Turn :=
  let (reliable, outbox, attempt) := t.node.reliable.transmit t.outbox peer kind
  let t := { t.edit fun n => { n with reliable } with outbox }
  match attempt with
  | none => t
  | some attempt =>
    let t := t.countPacket
    if 1 < attempt then t.count fun c => { c with retransmissions := c.retransmissions + 1 } else t

/-- Originate an incident: a member tells its head, and others tell everyone. -/
def originate (t : Turn) : Turn :=
  match t.node.settings.incidentInterval with
  | none => t
  | some interval =>
    let n := t.node
    let message := Message.incident n.id t.now n.record.cluster .emergency
    let t := t.edit fun n => { n with lastIncident := some t.now }
    let t := t.count fun c => { c with incidentsOriginated := c.incidentsOriginated + 1 }
    let t :=
      match n.record.degree, n.record.headAddress with
      | .member, some head => t.send head message
      | _, _ => t.broadcast message
    t.schedule interval .incident

/-- What a timer sets off. -/
def fire (t : Turn) : Timer → Turn
  | .start => t.beginClustering
  | .stop => t.endClustering
  | .send => (t.setSlot .send none).transmit
  | .electionCheck => (t.setSlot .election none).checkElection
  | .upkeep => (t.setSlot .upkeep none).upkeep
  | .decide => t.decideLaunch
  | .retransmit peer kind => t.retransmit peer kind
  | .intraBroadcast => (t.setSlot .intra none).announce
  | .activate => (t.setSlot .activation none).activate
  | .complete => t.setStatus .complete
  | .dutyActive =>
    (t.setStatus .active).arm .duty t.node.settings.activeWindow .dutyInactive
  | .dutyInactive =>
    (t.setStatus .complete).arm .duty t.node.settings.inactiveWindow .dutyActive
  | .incident => t.originate

/-- A timer comes due. -/
def onTimer (t : Turn) (timer : Timer) : Turn :=
  let t := t.locate
  (t.fire timer).noteRole t.node.record.role

/-- Handle a call. -/
def handle (t : Turn) : Call → Turn
  | .start => t.onStart
  | .formCluster => t.formCluster
  | .timer timer => t.onTimer timer
  | .packet sender packet => t.onPacket sender packet

end Turn

end ClusterWave
