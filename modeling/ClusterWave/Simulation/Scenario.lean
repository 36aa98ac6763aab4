import ClusterWave.Simulation.Run

/-!
# Scenarios

A scenario names the nodes of a run, the settings that they share and the channel over which they
talk.
-/

namespace ClusterWave

/-- A node of a scenario. -/
structure NodeSpec where
  id : NodeId
  position : Vec2
  /-- The velocity of a node that moves. -/
  velocity : Option Vec2
  isStarter : Bool
  /-- The velocity of a wavefront that starts here. -/
  waveVelocity : Option Vec2
  /-- When the node leaves. -/
  departure : Option Duration
deriving DecidableEq

namespace NodeSpec

/-- A parked node. -/
def parked (id : NodeId) (position : Vec2) : NodeSpec := ⟨id, position, none, false, none, none⟩

def starting (n : NodeSpec) (velocity : Vec2) : NodeSpec :=
  { n with isStarter := true, waveVelocity := some velocity }

def moving (n : NodeSpec) (velocity : Vec2) : NodeSpec := { n with velocity := some velocity }

def departing (n : NodeSpec) (time : Duration) : NodeSpec := { n with departure := some time }

def motion (n : NodeSpec) : Motion :=
  match n.velocity with
  | some velocity => .linear n.position velocity
  | none => .parked n.position

end NodeSpec

structure Scenario where
  name : String
  duration : Duration
  settings : Settings
  channel : ChannelSettings
  nodes : List NodeSpec
  dropRules : List DropRule

/-- Why a scenario cannot be run. -/
inductive ScenarioFault where
  | channel (fault : ChannelFault)
  | admission (fault : AdmissionFault)
deriving DecidableEq

def ScenarioFault.message : ScenarioFault → String
  | .channel fault => fault.message
  | .admission fault => fault.message

namespace Scenario

/-- A scenario without nodes on a standard channel. -/
def bare (name : String) (duration : Duration) (settings : Settings) : Scenario :=
  ⟨name, duration, settings, ChannelSettings.standard, [], []⟩

/-- Two clusters side by side, with a starter in the western one that heads east. -/
def demo : Scenario :=
  let place (id : UInt64) (x y : Nat) : NodeSpec :=
    NodeSpec.parked ⟨id⟩ ⟨Binary64.ofNat x, Binary64.ofNat y⟩
  let settings := { Settings.standard with clusteringStop := some (Duration.ofSecs 8) }
  { bare "two-clusters" (Duration.ofSecs 30) settings with
    nodes :=
      [ place 20 0 0,
        (place 2 40 0).starting ⟨Binary64.ofNat 10, Binary64.zero⟩,
        place 3 20 30,
        place 30 160 0,
        place 4 110 0,
        place 5 150 40 ] }

/-- When the run ends. -/
def endTime (s : Scenario) : Timestamp := Timestamp.ofDuration s.duration

/-- Add a node of a scenario to a simulation and start it. Its departure stays unplanned. -/
def enter (settings : Settings) (sim : Simulation) (n : NodeSpec) :
    Except AdmissionFault Simulation :=
  sim.addNode n.id settings n.isStarter n.waveVelocity n.motion

/-- Add a node of a scenario to a simulation and plan its departure. -/
def enlist (settings : Settings) (sim : Simulation) (n : NodeSpec) :
    Except AdmissionFault Simulation :=
  match enter settings sim n with
  | .error fault => .error fault
  | .ok sim =>
    match n.departure with
    | none => .ok sim
    | some time => .ok (sim.scheduleDeparture n.id (Timestamp.ofDuration time))

/-- The simulation of a scenario, all nodes started. -/
def build (s : Scenario) : Except ScenarioFault Simulation :=
  match Simulation.create s.channel with
  | .error fault => .error (.channel fault)
  | .ok sim =>
    match s.nodes.foldlM (enlist s.settings) (s.dropRules.foldl Simulation.addDropRule sim) with
    | .error fault => .error (.admission fault)
    | .ok sim => .ok sim

end Scenario

end ClusterWave
