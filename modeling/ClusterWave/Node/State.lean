import ClusterWave.Node.Reliable
import ClusterWave.Node.Settings
import ClusterWave.Peer.Registry
import ClusterWave.Wavefront.Schedule

/-!
# The state of a node

A node goes through the formation of clusters, the exchange of density maps and the wavefront. Its
status tells how far it has come.
-/

namespace ClusterWave

inductive Status where
  | init
  | headElection
  | formation
  | update
  | exchangeMaps
  | decide
  | ready
  | running
  | complete
  /-- The active window of a duty cycle. -/
  | active
deriving DecidableEq

namespace Status

/-- Whether clusters are still being formed. -/
def isClustering : Status → Bool
  | .init | .headElection | .formation | .update => true
  | _ => false

def text : Status → String
  | .init => "INIT"
  | .headElection => "HEAD_ELECTION"
  | .formation => "FORMATION"
  | .update => "UPDATE"
  | .exchangeMaps => "EXCHANGE_DISTRO_MAP"
  | .decide => "DECIDE_PROPAGATION_PARAM"
  | .ready => "PROPAGATION_READY"
  | .running => "PROPAGATION_RUNNING"
  | .complete => "PROPAGATION_COMPLETE"
  | .active => "ACTIVE"

end Status

/-- What a node counts about itself. -/
structure Counters where
  packetsSent : Nat
  packetsReceived : Nat
  /-- Reliable messages sent again. -/
  retransmissions : Nat
  roleChanges : Nat
  /-- Messages that start or form a cluster. -/
  formationMessages : Nat
  activations : Nat
  incidentsOriginated : Nat
  /-- Own incidents heard back. -/
  incidentsReturned : Nat
  /-- Time that own incidents took to be heard back, in total. -/
  incidentDelay : Duration
deriving DecidableEq

namespace Counters

def zero : Counters := ⟨0, 0, 0, 0, 0, 0, 0, 0, Duration.zero⟩

/-- The mean time of own incidents to be heard back, for a positive 32-bit number of them. -/
def meanIncidentDelay? (c : Counters) : Option Duration :=
  if 0 < c.incidentsReturned ∧ c.incidentsReturned < UInt32.size then
    some (c.incidentDelay.divide c.incidentsReturned)
  else none

end Counters

/-- The timers of which a node keeps the handle. -/
inductive Slot where
  | send
  | election
  | upkeep
  | intra
  | activation
  | duty
deriving DecidableEq

/-- The handles of the timers that are armed. -/
structure Slots where
  send : Option TimerHandle
  election : Option TimerHandle
  upkeep : Option TimerHandle
  intra : Option TimerHandle
  activation : Option TimerHandle
  duty : Option TimerHandle
deriving DecidableEq

namespace Slots

def empty : Slots := ⟨none, none, none, none, none, none⟩

def get (s : Slots) : Slot → Option TimerHandle
  | .send => s.send
  | .election => s.election
  | .upkeep => s.upkeep
  | .intra => s.intra
  | .activation => s.activation
  | .duty => s.duty

def set (s : Slots) (handle : Option TimerHandle) : Slot → Slots
  | .send => { s with send := handle }
  | .election => { s with election := handle }
  | .upkeep => { s with upkeep := handle }
  | .intra => { s with intra := handle }
  | .activation => { s with activation := handle }
  | .duty => { s with duty := handle }

@[simp] theorem get_set_self (s : Slots) (h : Option TimerHandle) (slot : Slot) :
    (s.set h slot).get slot = h := by cases slot <;> rfl

theorem get_set_of_ne (s : Slots) (h : Option TimerHandle) {slot slot' : Slot}
    (hne : slot' ≠ slot) : (s.set h slot).get slot' = s.get slot' := by
  cases slot <;> cases slot' <;> simp_all [get, set]

end Slots

structure Node where
  settings : Settings
  /-- The own record. -/
  record : Record
  status : Status
  registry : Registry
  /-- The density maps of other clusters. -/
  neighborMaps : Table NodeId DensityMap
  ownMap : Option DensityMap
  schedule : Schedule
  reliable : ReliableSender
  counters : Counters
  slots : Slots
  /-- Whether clusters are being formed. -/
  clustering : Bool
  /-- When the incident was originated that has not been heard back. -/
  lastIncident : Option Timestamp
  /-- The last sequence number. -/
  seq : UInt64
deriving DecidableEq

namespace Node

/-- A node before its start; there is none with faulty settings. -/
def create (id : NodeId) (settings : Settings) (isStarter : Bool) (velocity : Option Vec2) :
    Except SettingsFault Node :=
  match settings.check with
  | .error fault => .error fault
  | .ok () =>
    .ok
      { settings
        record := { Record.lone id Vec3.zero Timestamp.start with isStarter, velocity }
        status := .init
        registry := Registry.empty
        neighborMaps := Table.empty
        ownMap := none
        schedule := Schedule.idle
        reliable := ReliableSender.idle settings.retryInterval
        counters := Counters.zero
        slots := Slots.empty
        clustering := false
        lastIncident := none
        seq := 0 }

def id (n : Node) : NodeId := n.record.id

/-- Whether the node may accept a schedule as the first node. -/
def mayStart (n : Node) : Bool := !n.settings.startersOnly || n.record.isStarter

/-- Whether a node is near enough to be heard. -/
def inRange (n : Node) (r : Record) : Bool := n.record.place.dist r.place < n.settings.range

/-- The name under which the node acknowledges: its cluster, or itself. -/
def ackName (n : Node) : NodeId := n.record.cluster.getD n.id

end Node

end ClusterWave
