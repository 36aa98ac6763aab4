import ClusterWave.Node.Clustering
import ClusterWave.Node.Launch

/-!
# Handling messages

Records that arrive are stamped with the time of their arrival. A node listens to records of nodes
in range only.
-/

namespace ClusterWave

/-- The record with the time of its arrival. -/
def Record.stamp (r : Record) (now : Timestamp) : Record := { r with timestamp := now }

namespace Turn

/-! ### Clusters -/

/-- Join the highest head in range that outranks the node and its cluster. -/
def merge (t : Turn) : Turn :=
  match t.node.registry.highestHead? with
  | none => t
  | some head =>
    if t.node.record.cluster ≠ some head ∧ t.node.id < head then
      let t := t.setRecord (t.node.record.join head)
      t.setRegistry (t.node.registry.forgetCluster head)
    else t

/-- Join the highest head in range, or lead if there is none. -/
def settle (t : Turn) : Turn :=
  match t.node.registry.highestHead? with
  | some head => t.setRecord (t.node.record.join head)
  | none =>
    ((t.setRecord t.node.record.becomeHead).setStatus .update).queueSend t.node.settings.slot

/-- What the record of a neighbor means for the own role. -/
def weighNeighbor (t : Turn) (r : Record) : Turn :=
  let own := t.node.record
  match t.node.status with
  | .init => if r.isHead && own.isStandalone then t.join r.id else t
  | .update | .headElection =>
    if own.isStandalone then t.settle
    else if own.isHead && r.belongsTo t.node.id then t.setRegistry (t.node.registry.enrol r)
    else if t.node.registry.members.isEmpty then t.merge
    else t
  | _ => t

/-- Note the cluster of a neighbor, if it is a foreign one. -/
def noteForeign (t : Turn) (r : Record) : Turn :=
  match r.cluster with
  | none => t
  | some cluster =>
    if t.node.record.cluster ≠ some cluster ∧ cluster ≠ t.node.id then
      let p : Provenance := if r.isHead then .authoritative else .hearsay
      t.setRegistry (t.node.registry.noteCluster cluster r p)
    else t

/-- A neighbor makes itself known. -/
def onClusterInfo (t : Turn) (r : Record) : Turn :=
  if t.node.inRange r then
    ((t.setRegistry (t.node.registry.hear r)).weighNeighbor r).noteForeign r
  else t

/-- A neighbor runs for head. -/
def onInitiateCluster (t : Turn) (cluster : NodeId) (r : Record) : Turn :=
  if t.node.status = .init ∧ t.node.inRange r ∧ t.node.registry.neighbors.contains r.id then
    (t.setRegistry (t.node.registry.hear r)).join cluster
  else t

/-- A neighbor has formed a cluster. -/
def onFormCluster (t : Turn) (r : Record) : Turn :=
  if t.node.inRange r then
    let t := t.setRegistry (t.node.registry.hear r)
    if t.node.status = .init ∨ t.node.status = .headElection then t.join r.id else t
  else t

/-- A member gossips about a foreign cluster. -/
def onNeighborCluster (t : Turn) (cluster : NodeId) (r : Record) : Turn :=
  let n := t.node
  if n.record.isHead ∧ cluster = n.id ∧ r.id ≠ n.id then
    match r.cluster with
    | none => t
    | some foreign =>
      if foreign ≠ n.id then t.setRegistry (n.registry.noteCluster foreign r .hearsay) else t
  else t

/-! ### Maps and offers -/

/-- A density map arrives: keep it and acknowledge, unless it has the wrong shape. -/
def onDensityMap (t : Turn) (seq : UInt64) (cluster : NodeId) (r : Record) (map : DensityMap) :
    Turn :=
  match map.checkShape with
  | .error _ => t
  | .ok () =>
    let t := t.setRegistry (t.node.registry.noteCluster cluster r .authoritative)
    let t := t.edit fun n => { n with neighborMaps := n.neighborMaps.insert cluster map }
    t.send r.id (.ack seq t.node.ackName .densityMap)

/-- The node of the cluster that is nearest to a place, the head before its members. -/
def candidate? (n : Node) (destination : Vec2) : Option Record :=
  leastBy? (fun r => (r.place.dist destination).totalRank) (n.record :: n.registry.members.values)

/-- When an offered wavefront arrives at a place, with a margin on its delay. -/
def arrival? (n : Node) (source place direction : Vec2) (startTime : Timestamp) :
    Option Timestamp := do
  let delay ← frontDelay? source place direction
  let delay ← Duration.ofSeconds? (delay.seconds * n.settings.delayMargin)
  some (startTime + delay)

/-- A wavefront is offered: a head takes it if it comes earlier than what is known. -/
def considerOffer (t : Turn) (source destination direction : Vec2) (startTime : Timestamp) : Turn :=
  match candidate? t.node destination with
  | none => t
  | some candidate =>
    match arrival? t.node source candidate.place direction startTime with
    | none => t
    | some time =>
      let (schedule, changed) := t.node.schedule.relaxFirstStart time candidate.id t.now
      if changed then (t.setSchedule schedule).launch candidate.id direction else t

/-- A wavefront is offered: every offer is acknowledged, and a head considers it. -/
def onInterCluster (t : Turn) (seq : UInt64) (cluster : NodeId)
    (source destination direction : Vec2) (startTime : Timestamp) : Turn :=
  let t := t.send cluster (.ack seq t.node.ackName .interCluster)
  if t.node.record.isHead then t.considerOffer source destination direction startTime else t

/-! ### Schedules -/

/-- The head announces the schedule: the node at which the wavefront starts adopts it. -/
def onIntraCluster (t : Turn) (cluster starter : NodeId) (startTime : Timestamp)
    (direction : Vec2) : Turn :=
  let n := t.node
  if n.record.isMember ∧ n.record.cluster = some cluster then
    let t := t.setDirection (some direction)
    if starter = n.id ∧ n.mayStart ∧ (n.status = .update ∨ n.status = .ready) then
      let (schedule, changed) := t.node.schedule.adoptStart startTime n.id t.now
      if changed then (t.setSchedule schedule).scheduleActivation else t
    else t
  else t

/-- The direction in which a node takes a wavefront on: its own, if it has one. -/
def relayedDirection (n : Node) (sender incoming : Vec2) : Vec2 :=
  match n.schedule.direction with
  | some d => if d.isZero then relayDirection incoming sender n.record.place else d
  | none => relayDirection incoming sender n.record.place

/-- A node activates: the nodes ahead of it follow, if that makes them start earlier. -/
def onInterNode (t : Turn) (sender incoming : Vec2) (startTime : Timestamp) : Turn :=
  let n := t.node
  let sector : Sector :=
    { apex := sender
      axis := incoming
      radius := n.settings.relayRange
      angle := n.settings.sectorAngle }
  if sector.contains n.record.place then
    let direction := relayedDirection n sender incoming
    match travelTime? (sender.dist n.record.place) direction.norm with
    | none => t
    | some travel =>
      if n.schedule.start ≤ t.now then t
      else
        let (schedule, changed) := n.schedule.relaxStart (startTime + travel) t.now
        if changed then
          (t.setSchedule { schedule with direction := some direction }).scheduleActivation
        else t
  else t

/-! ### Acknowledgments and incidents -/

/-- A peer has received a message of a kind. -/
def onAck (t : Turn) (peer : NodeId) (kind : MessageKind) : Turn :=
  let (reliable, outbox, _) := t.node.reliable.acknowledge t.outbox peer kind
  { t.edit fun n => { n with reliable } with outbox }

/-- The own incident is heard back: measure its delay, once. -/
def onOwnIncident (t : Turn) (timestamp : Timestamp) : Turn :=
  if t.node.lastIncident = some timestamp then
    (t.edit fun n => { n with lastIncident := none }).count fun c =>
      { c with
        incidentsReturned := c.incidentsReturned + 1
        incidentDelay := c.incidentDelay + t.now.since timestamp }
  else t

/-- An incident arrives: a head relays those of its members that come from themselves. -/
def onIncident (t : Turn) (sender origin : NodeId) (timestamp : Timestamp)
    (cluster : Option NodeId) (severity : Incident) : Turn :=
  let n := t.node
  if origin = n.id then t.onOwnIncident timestamp
  else if n.record.isHead ∧ cluster = some n.id ∧ sender = origin then
    t.broadcast (.incident origin timestamp cluster severity)
  else t

/-! ### Packets -/

/-- Handle a message from a sender. -/
def onMessage (sender : NodeId) (t : Turn) : Message → Turn
  | .clusterInfo _ r => t.onClusterInfo (r.stamp t.now)
  | .initiateCluster _ cluster r => t.onInitiateCluster cluster (r.stamp t.now)
  | .formCluster _ r => t.onFormCluster (r.stamp t.now)
  | .neighborCluster _ cluster r => t.onNeighborCluster cluster (r.stamp t.now)
  | .densityMap seq cluster r map => t.onDensityMap seq cluster (r.stamp t.now) map
  | .interCluster seq cluster source destination direction startTime =>
    t.onInterCluster seq cluster source destination direction startTime
  | .intraCluster _ cluster starter startTime direction =>
    t.onIntraCluster cluster starter startTime direction
  | .interNode _ _ position direction startTime => t.onInterNode position direction startTime
  | .ack _ cluster kind => t.onAck cluster kind
  | .incident origin timestamp cluster severity =>
    t.onIncident sender origin timestamp cluster severity

/-- Handle a packet from a sender, message by message. -/
def onPacket (t : Turn) (sender : NodeId) (packet : Packet) : Turn :=
  let t := t.locate.count fun c => { c with packetsReceived := c.packetsReceived + 1 }
  (packet.messages.foldl (onMessage sender) t).noteRole t.node.record.role

end Turn

end ClusterWave
