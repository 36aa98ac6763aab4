import ClusterWave.Node.Turn
import ClusterWave.Wavefront.Plan

/-!
# Launching a wavefront

When clustering ends, heads send each other the density maps of their members. After a while the
head of a starter plans the wavefront: it offers it to other clusters and tells its members. A node
that is scheduled activates when its time comes.
-/

namespace ClusterWave

namespace Turn

/-! ### Activation -/

/-- Get ready and arm the timer for the start, unless the start has passed. -/
def scheduleActivation (t : Turn) : Turn :=
  let t := t.setStatus .ready
  let start := t.node.schedule.start
  if start.isNever ∨ start < t.now then t
  else
    let s := t.node.settings
    (t.disarm .activation).arm .activation
      (if s.reverse then s.activationDelay else start.since t.now) .activate

/-- Run, and pass the wavefront on to the nodes around. -/
def activate (t : Turn) : Turn :=
  let t := (t.setStatus .running).count fun c => { c with activations := c.activations + 1 }
  let t := t.advanceSeq
  let n := t.node
  let direction := n.schedule.direction.getD Vec2.zero
  let t := t.broadcast
    (.interNode n.seq n.record.cluster n.record.place direction n.schedule.start)
  let s := n.settings
  if s.reverse then
    let wait := dutyWait t.now n.schedule.start s.dutyPeriod s.dutyOffset
    (t.disarm .duty).arm .duty wait .dutyActive
  else t.schedule s.runLength .complete

/-- Start with the cluster, as the node at which the wavefront starts. -/
def startFirst (t : Turn) : Turn :=
  let (schedule, changed) := t.node.schedule.startWithCluster
  let t := t.setSchedule schedule
  if changed then t.scheduleActivation else t

/-! ### Planning -/

/-- The place from which a wavefront leaves: the node itself or one of its members. -/
def origin? (t : Turn) (origin : NodeId) : Option Vec2 :=
  if origin = t.node.id then some t.node.record.place
  else (t.node.registry.members.get? origin).map Record.place

/-- The clusters whose map and head are known. -/
def targets (t : Turn) : List Target :=
  t.node.neighborMaps.entries.filterMap fun (cluster, map) =>
    (t.node.registry.foreign.get? cluster).map fun head => { cluster, head := head.place, map }

/-- Offer the wavefront to a cluster after a delay, which grows from one offer to the next. -/
def offer (source : Vec2) (acc : Turn × Duration) (f : Forward) : Turn × Duration :=
  let t := acc.1.advanceSeq
  let n := t.node
  let message :=
    Message.interCluster n.seq n.id source f.destination f.direction n.schedule.firstStart
  (t.sendReliably f.cluster message acc.2, acc.2 + n.settings.forwardStride)

/-- Announce the schedule to the members, if there are any. -/
def announceLater (t : Turn) : Turn :=
  if t.node.registry.members.isEmpty then t
  else (t.disarm .intra).arm .intra t.node.settings.backoff .intraBroadcast

/-- Send the wavefront off that leaves `origin` with a given velocity. -/
def launch (t : Turn) (origin : NodeId) (incoming : Vec2) : Turn :=
  match t.origin? origin with
  | none => t
  | some source =>
    let t := t.cancelKind .interCluster
    let s := t.node.settings
    match Plan.make? source incoming t.targets s.candidateRadius s.sectorAngle with
    | none => t
    | some plan =>
      let (t, _) := plan.forwards.foldl (offer source) (t, s.backoff)
      let t := (t.setDirection (some plan.direction)).announceLater
      if origin = t.node.id ∧ t.node.mayStart then t.startFirst else t

/-- Announce the schedule to the members, and again after an interval, as long as the wavefront has
not started. -/
def announce (t : Turn) : Turn :=
  match t.node.schedule.firstNode with
  | none => t
  | some starter =>
    let start := t.node.schedule.firstStart
    if start ≤ t.now then t
    else
      let t := t.advanceSeq
      let n := t.node
      let direction := n.schedule.direction.getD Vec2.zero
      (t.broadcast (.intraCluster n.seq n.id starter start direction)).arm .intra
        n.settings.interval .intraBroadcast

/-! ### The end of clustering -/

/-- The places of the head and its members, seen from the head. -/
def memberOffsets (n : Node) : List Vec2 :=
  Vec2.zero :: n.registry.members.values.map fun m => m.place - n.record.place

/-- Send the density map to a foreign cluster. The wait grows with the numbers of both heads, so
that exchanges keep out of each other's way. -/
def sendMap (map : DensityMap) (acc : Turn × Duration) (peer : NodeId) : Turn × Duration :=
  let t := acc.1.advanceSeq
  let n := t.node
  let slots := min (peer.val.toNat + n.id.val.toNat) (UInt32.size - 1)
  let stagger := acc.2 + n.settings.slot.scale slots
  (t.sendReliably peer (.densityMap n.seq n.id n.record map) stagger, stagger)

/-- Send the density map of the members to every foreign cluster, and decide after a while. -/
def exchangeMaps (t : Turn) : Turn :=
  let t := t.setStatus .exchangeMaps
  let map := DensityMap.estimate t.node.settings.grid (memberOffsets t.node)
  let (t, _) := t.node.registry.foreign.keys.foldl (sendMap map) (t, Duration.zero)
  let t := t.edit fun n => { n with ownMap := some map }
  t.schedule t.node.settings.exchangeGrace .decide

/-- Start by oneself, after the lead time. -/
def startAlone (t : Turn) : Turn :=
  let n := t.node
  let (schedule, _) := n.schedule.relaxFirstStart (t.now + n.settings.startLead) n.id t.now
  let (schedule, _) := schedule.startWithCluster
  (t.setSchedule { schedule with direction := n.record.velocity }).scheduleActivation

/-- Clustering ends: a head exchanges maps, and a starter that stands alone starts by itself. -/
def endClustering (t : Turn) : Turn :=
  let t := t.edit fun n => { n with clustering := false }
  let t := ((t.disarm .upkeep).disarm .send).disarm .election
  match t.node.record.degree with
  | .head => t.exchangeMaps
  | .member => t
  | .standalone => if t.node.record.isStarter then t.startAlone else t

/-- The starter of a cluster: the head, or else the highest member that is one. -/
def starter? (n : Node) : Option Record :=
  if n.record.isStarter then some n.record
  else (n.registry.members.values.filter Record.isStarter).getLast?

/-- The exchange is over: forget maps of unknown clusters and launch the wavefront of the
starter. -/
def decideLaunch (t : Turn) : Turn :=
  let t := (t.setStatus .decide).satisfyAll
  let t := t.edit fun n =>
    { n with
      neighborMaps := n.neighborMaps.filter fun cluster _ => n.registry.foreign.contains cluster }
  match starter? t.node with
  | none => t
  | some starter =>
    match starter.velocity with
    | none => t
    | some velocity =>
      let (schedule, changed) :=
        t.node.schedule.relaxFirstStart (t.now + t.node.settings.startLead) starter.id t.now
      if changed then (t.setSchedule schedule).launch starter.id velocity else t

end Turn

end ClusterWave
