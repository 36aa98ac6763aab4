import ClusterWave.Json.Fields
import ClusterWave.Node.State
import ClusterWave.Simulation.Channel

/-!
# Names of choices in JSON documents
-/

namespace ClusterWave

/-- Read the name of one of several values. -/
def Json.named? {α : Type} (tagged : Bool) (name : α → String) (values : List α) (j : Json) :
    Option α :=
  (j.plainChoice? tagged).bind fun s => values.find? fun v => name v == s

namespace Degree

def name : Degree → String
  | .standalone => "Standalone"
  | .head => "ClusterHead"
  | .member => "ClusterMember"

def toJson (d : Degree) : Json := Json.ofString d.name

def ofJson? (tagged : Bool) : Json → Option Degree :=
  Json.named? tagged name [.standalone, .head, .member]

end Degree

namespace Status

def name : Status → String
  | .init => "Init"
  | .headElection => "HeadElection"
  | .formation => "Formation"
  | .update => "Update"
  | .exchangeMaps => "ExchangeDistroMap"
  | .decide => "DecidePropagationParam"
  | .ready => "PropagationReady"
  | .running => "PropagationRunning"
  | .complete => "PropagationComplete"
  | .active => "Active"

def toJson (s : Status) : Json := Json.ofString s.name

def ofJson? (tagged : Bool) : Json → Option Status :=
  Json.named? tagged name
    [ .init, .headElection, .formation, .update, .exchangeMaps, .decide, .ready, .running,
      .complete, .active ]

end Status

namespace Incident

def name : Incident → String
  | .emergency => "Emergency"
  | .notification => "Notification"

def toJson (i : Incident) : Json := Json.ofString i.name

def ofJson? : Json → Option Incident := Json.named? false name [.emergency, .notification]

end Incident

namespace MessageKind

def name : MessageKind → String
  | .clusterInfo => "ClusterInfo"
  | .initiateCluster => "InitiateCluster"
  | .formCluster => "FormCluster"
  | .neighborCluster => "NeighborClusterInfo"
  | .densityMap => "DistroMap"
  | .interCluster => "InterClusterPropagation"
  | .intraCluster => "IntraClusterPropagation"
  | .interNode => "InterNodePropagation"
  | .ack => "Ack"
  | .incident => "IncidentEvent"

def all : List MessageKind :=
  [ .clusterInfo, .initiateCluster, .formCluster, .neighborCluster, .densityMap, .interCluster,
    .intraCluster, .interNode, .ack, .incident ]

def toJson (k : MessageKind) : Json := Json.ofString k.name

def ofJson? (tagged : Bool) : Json → Option MessageKind := Json.named? tagged name all

end MessageKind

namespace DropReason

def name : DropReason → String
  | .loss => "loss"
  | .rule => "rule"
  | .outOfRange => "out_of_range"
  | .unknownNode => "unknown_node"
  | .departed => "departed"

def toJson (r : DropReason) : Json := Json.ofString r.name

def ofJson? (tagged : Bool) : Json → Option DropReason :=
  Json.named? tagged name [.loss, .rule, .outOfRange, .unknownNode, .departed]

end DropReason

end ClusterWave
