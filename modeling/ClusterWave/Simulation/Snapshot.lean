import ClusterWave.Node.State

/-!
# Snapshots of a simulation

A snapshot shows the nodes at one instant, and the clusters that they form.
-/

namespace ClusterWave

/-- A node in a snapshot. -/
structure NodeSummary where
  id : NodeId
  status : Status
  degree : Degree
  cluster : Option NodeId
  position : Vec3
  startTime : Timestamp
  activations : UInt64
deriving DecidableEq

namespace NodeSummary

def isHead (n : NodeSummary) : Bool := n.degree == .head

/-- Whether leading and belonging to the own cluster go together. -/
def isConsistent (n : NodeSummary) : Bool := n.isHead == (n.cluster == some n.id)

end NodeSummary

/-- The clusters that nodes form. -/
structure ClusterSummary where
  /-- The heads with their members. -/
  clusters : Table NodeId (List NodeId)
  standalone : List NodeId
  /-- The members whose head does not lead or is not there. -/
  dangling : List NodeId
  /-- The nodes that lead without belonging to their own cluster, or the other way round. -/
  inconsistent : List NodeId
deriving DecidableEq

namespace ClusterSummary

/-- The heads, without members yet. -/
def heads (nodes : List NodeSummary) : Table NodeId (List NodeId) :=
  (nodes.filter NodeSummary.isHead).foldl (fun t n => t.insert n.id []) Table.empty

/-- File a member under its head. -/
def fileMember (s : ClusterSummary) (id : NodeId) (cluster : Option NodeId) : ClusterSummary :=
  match cluster.bind fun head => (s.clusters.get? head).map fun members => (head, members) with
  | some (head, members) => { s with clusters := s.clusters.insert head (members ++ [id]) }
  | none => { s with dangling := s.dangling ++ [id] }

/-- Add a node to the clusters of the heads. -/
def file (s : ClusterSummary) (n : NodeSummary) : ClusterSummary :=
  let s := if n.isConsistent then s else { s with inconsistent := s.inconsistent ++ [n.id] }
  match n.degree with
  | .head => s
  | .member => s.fileMember n.id n.cluster
  | .standalone => { s with standalone := s.standalone ++ [n.id] }

/-- The clusters of a list of nodes. -/
def ofNodes (nodes : List NodeSummary) : ClusterSummary :=
  nodes.foldl file ⟨heads nodes, [], [], []⟩

def headCount (s : ClusterSummary) : Nat := s.clusters.size

/-- The head of the cluster to which a node belongs. -/
def headOf? (s : ClusterSummary) (id : NodeId) : Option NodeId :=
  (s.clusters.entries.find? fun (head, members) => head == id || members.contains id).map (·.1)

/-- Whether every node leads or belongs to a head. -/
def isSettled (s : ClusterSummary) : Bool :=
  s.standalone.isEmpty && s.dangling.isEmpty && s.inconsistent.isEmpty

end ClusterSummary

structure Snapshot where
  time : Timestamp
  nodes : List NodeSummary
  clusters : ClusterSummary
deriving DecidableEq

namespace Snapshot

def ofNodes (time : Timestamp) (nodes : List NodeSummary) : Snapshot :=
  ⟨time, nodes, ClusterSummary.ofNodes nodes⟩

def node? (s : Snapshot) (id : NodeId) : Option NodeSummary := s.nodes.find? (·.id == id)

end Snapshot

end ClusterWave
