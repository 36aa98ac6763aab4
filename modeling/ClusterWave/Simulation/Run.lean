import ClusterWave.Node.Handler
import ClusterWave.Simulation.Agenda
import ClusterWave.Simulation.Directory
import ClusterWave.Simulation.Snapshot
import ClusterWave.Simulation.Timeline

/-!
# Running a simulation

A simulation runs many nodes against one clock. What a node asks of its timers goes into the agenda
at once. What it sends is routed when its turn is over: a packet crosses the channel encoded, once
for every receiver, and is decoded on arrival.
-/

namespace ClusterWave

/-- What is counted over a run. -/
structure Tally where
  events : Nat
  /-- Packets handed to the channel, once for every receiver. -/
  transmissions : Nat
  deliveries : Nat
  dropped : Nat
  encodeErrors : Nat
  decodeErrors : Nat
deriving DecidableEq

def Tally.zero : Tally := ⟨0, 0, 0, 0, 0, 0⟩

structure Simulation where
  now : Timestamp
  nodes : Table NodeId Node
  directory : Directory
  agenda : Agenda
  channel : Channel
  timeline : Timeline
  tally : Tally
deriving DecidableEq

/-- Why a node cannot be added. -/
inductive AdmissionFault where
  | settings (fault : SettingsFault)
  | duplicate (id : NodeId)
deriving DecidableEq

def AdmissionFault.message : AdmissionFault → String
  | .settings fault => "cluster error: " ++ fault.message
  | .duplicate id => "duplicate node " ++ id.text

namespace Simulation

/-- A simulation without nodes. -/
def create (settings : ChannelSettings) : Except ChannelFault Simulation :=
  match Channel.create settings with
  | .error fault => .error fault
  | .ok channel =>
    .ok
      { now := Timestamp.start
        nodes := Table.empty
        directory := Directory.empty
        agenda := Agenda.empty
        channel
        timeline := Timeline.empty
        tally := Tally.zero }

/-- Note an occurrence. -/
def record (s : Simulation) (o : Occurrence) : Simulation :=
  { s with timeline := s.timeline.push o }

/-- Change the tally. -/
def count (s : Simulation) (f : Tally → Tally) : Simulation := { s with tally := f s.tally }

/-- Whether a node can be reached. -/
def isActive (s : Simulation) (id : NodeId) : Bool := (s.directory.resolve? id s.now).isSome

/-! ### Sending -/

/-- Note a packet that does not arrive. -/
def drop (s : Simulation) (sender receiver : NodeId) (kinds : List MessageKind)
    (reason : DropReason) : Simulation :=
  (s.count fun t => { t with dropped := t.dropped + 1 }).record
    (.dropped sender receiver kinds reason s.now)

/-- Send an encoded packet to one receiver. A receiver out of range never hears of it. -/
def sendTo (sender : NodeId) (kinds : List MessageKind) (data : List UInt8) (s : Simulation)
    (receiver : NodeId × Option Binary64) : Simulation :=
  let (verdict, channel) := s.channel.transmit sender receiver.1 kinds receiver.2
  let s := { s with channel }
  match verdict with
  | .drop .outOfRange => s
  | .drop reason =>
    (s.count fun t => { t with transmissions := t.transmissions + 1 }).drop sender receiver.1 kinds
      reason
  | .deliver latency =>
    let s := s.count fun t => { t with transmissions := t.transmissions + 1 }
    { s with agenda := s.agenda.push (s.now + latency) (.delivery receiver.1 sender data) }

/-- The receivers of a broadcast with their distances. -/
def listeners (s : Simulation) (sender : NodeId) (origin : Vec3) :
    List (NodeId × Option Binary64) :=
  ((s.directory.reachable s.now).filter fun (id, _) => id != sender).map fun (id, position) =>
    (id, some (origin.dist position))

/-- Send what a node at a given place has asked to send. -/
def route (sender : NodeId) (origin : Vec3) (s : Simulation) : Effect → Simulation
  | .broadcast packet =>
    (s.listeners sender origin).foldl (sendTo sender packet.kinds (encode packet)) s
  | .send peer packet =>
    if s.isActive peer then s.sendTo sender packet.kinds (encode packet) (peer, none)
    else s.drop sender peer packet.kinds .unknownNode
  | _ => s

/-! ### Turns -/

/-- Note how a turn has changed a node. -/
def recordChanges (s : Simulation) (id : NodeId) (position : Vec3) (before after : Node) :
    Simulation :=
  let s :=
    if before.status = after.status then s
    else s.record (.statusChanged id before.status after.status s.now)
  let s :=
    if before.record.role = after.record.role then s
    else s.record (.roleChanged id after.record.degree after.record.cluster s.now)
  if before.counters.activations < after.counters.activations then
    s.record (.activated id position s.now)
  else s

/-- Let a node handle a call, unless it has left. -/
def call (s : Simulation) (id : NodeId) (c : Call) : Simulation :=
  match s.directory.resolve? id s.now, s.nodes.get? id with
  | some position, some node =>
    let turn := (Turn.start node s.now position s.agenda.nextHandle).handle c
    let effects := turn.outbox.effects
    let s :=
      { s with
        nodes := s.nodes.insert id turn.node
        agenda := effects.foldl (Agenda.apply id s.now) s.agenda }
    effects.foldl (route id position) (s.recordChanges id position node turn.node)
  | _, _ => s

/-! ### Setting up -/

/-- Add a node and start it. -/
def addNode (s : Simulation) (id : NodeId) (settings : Settings) (isStarter : Bool)
    (velocity : Option Vec2) (motion : Motion) : Except AdmissionFault Simulation :=
  match Node.create id settings isStarter velocity with
  | .error fault => .error (.settings fault)
  | .ok node =>
    match s.directory.register? id motion with
    | none => .error (.duplicate id)
    | some directory =>
      .ok ({ s with directory, nodes := s.nodes.insert id node }.call id .start)

def addDropRule (s : Simulation) (r : DropRule) : Simulation :=
  { s with channel := s.channel.addRule r }

/-- Let a node leave at a time. -/
def scheduleDeparture (s : Simulation) (id : NodeId) (time : Timestamp) : Simulation :=
  { s with agenda := s.agenda.push time (.departure id) }

/-! ### Events -/

/-- Move the clock forward. -/
def advance (s : Simulation) (time : Timestamp) : Simulation :=
  if s.now < time then { s with now := time } else s

/-- An encoded packet arrives. -/
def deliver (s : Simulation) (receiver sender : NodeId) (data : List UInt8) : Simulation :=
  match Packet.decode? data with
  | .error _ => s.count fun t => { t with decodeErrors := t.decodeErrors + 1 }
  | .ok packet =>
    if s.isActive receiver then
      let s := s.count fun t => { t with deliveries := t.deliveries + 1 }
      (s.record (.delivered sender receiver packet.kinds s.now)).call receiver
        (.packet sender packet)
    else s.drop sender receiver packet.kinds .departed

/-- An event takes place. -/
def process (s : Simulation) : Event → Simulation
  | .timer node _ timer => s.call node (.timer timer)
  | .delivery receiver sender data => s.deliver receiver sender data
  | .departure node =>
    { s with directory := s.directory.depart node }.record (.departed node s.now)

/-- Let the next event take place, if one is due by `limit`. Otherwise what is left of the
simulation comes without an event. -/
def step (s : Simulation) (limit : Timestamp) : Simulation × Bool :=
  let (next, agenda) := s.agenda.popDue limit
  let s := { s with agenda }
  match next with
  | none => (s, false)
  | some a =>
    (((s.advance a.time).process a.event).count fun t => { t with events := t.events + 1 }, true)

/-- Let events take place until none is due by `limit`, at most `fuel` of them, then set the clock
to `limit`. There is no answer if more of them are due. -/
def runUntil? (limit : Timestamp) : Nat → Simulation → Option Simulation
  | 0, _ => none
  | fuel + 1, s =>
    match s.step limit with
    | (s, false) => some (s.advance limit)
    | (s, true) => runUntil? limit fuel s

/-! ### Looking at a simulation -/

/-- The nodes that have not left. -/
def snapshot (s : Simulation) : Snapshot :=
  Snapshot.ofNodes s.now <| s.nodes.entries.filterMap fun (id, node) =>
    (s.directory.resolve? id s.now).map fun position =>
      { id
        status := node.status
        degree := node.record.degree
        cluster := node.record.cluster
        position
        startTime := node.schedule.start
        activations := UInt64.ofNat node.counters.activations }

end Simulation

end ClusterWave
