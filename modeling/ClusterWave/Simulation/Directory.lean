import ClusterWave.Peer.Record

/-!
# Where nodes are

The directory knows how every node moves and which nodes have left. A node that has left keeps its
number.
-/

namespace ClusterWave

/-- How a node moves. -/
inductive Motion where
  | parked (position : Vec2)
  /-- At a constant velocity, in units a second, from `origin` at the start of the run. -/
  | linear (origin velocity : Vec2)
deriving DecidableEq

/-- The position at a time. -/
def Motion.positionAt (now : Timestamp) : Motion → Vec3
  | .parked position => position.lift
  | .linear origin velocity => (origin + velocity * now.seconds).lift

/-- A registered node. -/
structure Resident where
  motion : Motion
  departed : Bool
deriving DecidableEq

structure Directory where
  residents : Table NodeId Resident
deriving DecidableEq

namespace Directory

def empty : Directory := ⟨Table.empty⟩

/-- Add a node, unless its number is taken. -/
def register? (d : Directory) (id : NodeId) (motion : Motion) : Option Directory :=
  if d.residents.contains id then none else some ⟨d.residents.insert id ⟨motion, false⟩⟩

/-- Let a node leave. -/
def depart (d : Directory) (id : NodeId) : Directory :=
  match d.residents.get? id with
  | none => d
  | some r => ⟨d.residents.insert id { r with departed := true }⟩

/-- The position of a node that has not left. -/
def resolve? (d : Directory) (id : NodeId) (now : Timestamp) : Option Vec3 :=
  match d.residents.get? id with
  | none => none
  | some r => if r.departed then none else some (r.motion.positionAt now)

/-- The nodes that have not left with their positions, ascending. -/
def reachable (d : Directory) (now : Timestamp) : List (NodeId × Vec3) :=
  d.residents.entries.filterMap fun (id, r) =>
    if r.departed then none else some (id, r.motion.positionAt now)

/-- What is said of a node that cannot be reached. -/
def unknownMessage (id : NodeId) : String := "unknown node " ++ id.text

end Directory

end ClusterWave
