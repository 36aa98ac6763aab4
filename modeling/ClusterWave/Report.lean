import ClusterWave.Form.Scenario
import ClusterWave.Form.Timeline

/-!
# The report of a run

The command line names a scenario document and a file for the timeline. Without a scenario the
built-in one is run. The report is printed in three parts: what is run, what came of it, and where
the timeline was written.
-/

namespace ClusterWave

/-- What the command line asks for. -/
structure Command where
  scenario : Option String
  timeline : Option String
deriving DecidableEq

namespace Command

/-- Read the arguments after the ones read so far; the last path counts. -/
def parseFrom (c : Command) : List String → Option Command
  | [] => some c
  | arg :: rest =>
    if arg == "--timeline" then
      match rest with
      | [] => none
      | path :: rest => parseFrom { c with timeline := some path } rest
    else parseFrom { c with scenario := some arg } rest

/-- Read the arguments; `--timeline` needs a path. -/
def parse? (args : List String) : Option Command := parseFrom ⟨none, none⟩ args

end Command

namespace Report

/-- The lines of a text, each with its end. -/
def lines (ls : List String) : String := String.join (ls.map (· ++ "\n"))

/-- Fill a text up with blanks to a width. -/
def pad (width : Nat) (s : String) : String := s.pushn ' ' (width - s.length)

/-- What is run. -/
def opening (s : Scenario) : String :=
  lines
    [ "Wavefront Simulator",
      "===================",
      "",
      "Running '" ++ s.name ++ "' with " ++ toString s.nodes.length ++ " nodes for "
        ++ s.duration.text ++ "..." ]

/-- A cluster: its head and its members. -/
def clusterLine (cluster : NodeId × List NodeId) : String :=
  "  CH " ++ cluster.1.text ++ " <- [" ++ ", ".intercalate (cluster.2.map NodeId.text) ++ "]"

/-- The nodes that stand alone. -/
def standaloneLine (ids : List NodeId) : String :=
  "  Standalone: [" ++ ", ".intercalate (ids.map fun id => "NodeId(" ++ id.text ++ ")") ++ "]"

def nodeLine (n : NodeSummary) : String :=
  "  " ++ n.id.text ++ " " ++ pad 26 n.status.text ++ " " ++ pad 10 n.degree.text ++ " start "
    ++ pad 12 n.startTime.text ++ " activations " ++ toString n.activations

/-- What came of the run. -/
def outcome (s : Simulation) : String :=
  let snapshot := s.snapshot
  let clusters := snapshot.clusters
  lines <|
    [ "",
      "Simulation complete at " ++ s.now.text ++ ":",
      "  Events: " ++ toString s.tally.events,
      "  Transmissions: " ++ toString s.tally.transmissions ++ " (" ++ toString s.tally.deliveries
        ++ " delivered, " ++ toString s.tally.dropped ++ " dropped)",
      "",
      "Clusters:" ]
    ++ clusters.clusters.entries.map clusterLine
    ++ (if clusters.standalone.isEmpty then [] else [standaloneLine clusters.standalone])
    ++ ["", "Nodes:"]
    ++ snapshot.nodes.map nodeLine

/-- Where the timeline was written. -/
def closing (t : Timeline) (path : String) : String :=
  lines ["", "Timeline (" ++ toString t.size ++ " events) written to " ++ path]

/-- Run a scenario to its end, with at most `fuel` events: the text to print so far, and the
simulation, if there is one. -/
def run (fuel : Nat) (s : Scenario) : String × Option Simulation :=
  match s.build with
  | .error _ => (opening s, none)
  | .ok sim =>
    match sim.runUntil? s.endTime fuel with
    | none => (opening s, none)
    | some sim => (opening s ++ outcome sim, some sim)

end Report

/-- What is left to do once the report is printed. -/
inductive Ending where
  | failed
  | finished
  /-- A document is to be written to a file. If that works, there is more to print. -/
  | write (path document afterwards : String)
deriving DecidableEq

namespace Command

/-- The scenario that a command asks for. Documents are looked up with `read?`. -/
def load? (c : Command) (read? : String → Option String) : Option Scenario :=
  match c.scenario with
  | none => some Scenario.demo
  | some path => (read? path).bind Scenario.parse?

/-- Carry a command out, with at most `fuel` events: the text to print, and what is left to do. -/
def perform (c : Command) (fuel : Nat) (read? : String → Option String) : String × Ending :=
  match c.load? read? with
  | none => ("", .failed)
  | some scenario =>
    let (text, sim) := Report.run fuel scenario
    match sim, c.timeline with
    | none, _ => (text, .failed)
    | some _, none => (text, .finished)
    | some sim, some path =>
      (text, .write path sim.timeline.document (Report.closing sim.timeline path))

end Command

end ClusterWave
