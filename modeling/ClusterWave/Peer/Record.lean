import ClusterWave.Geometry.Vector
import ClusterWave.Table
import ClusterWave.Time.Timestamp

/-!
# Nodes and their roles

A cluster is named after its head. A node leads its own cluster, is a member of another node's, or
stands alone. Every change of role goes through `Record.becomeHead`, `Record.join` and
`Record.leave`, which keep a record consistent. A record received from elsewhere need not be.
-/

namespace ClusterWave

/-- The unique number of a node. -/
structure NodeId where
  val : UInt64
deriving DecidableEq

namespace NodeId

instance : LT NodeId := ⟨fun a b => a.val < b.val⟩

instance (a b : NodeId) : Decidable (a < b) := inferInstanceAs (Decidable (a.val < b.val))

instance : Rank NodeId where
  rank id := id.val.toNat
  rank_injective a b h := by
    cases a
    cases b
    exact congrArg NodeId.mk (UInt64.toNat_inj.1 h)

def text (id : NodeId) : String := toString id.val

end NodeId

/-- The place of a node in a cluster. -/
inductive Degree where
  | standalone
  | head
  | member
deriving DecidableEq

def Degree.text : Degree → String
  | .standalone => "STANDALONE"
  | .head => "CH"
  | .member => "CM"

/-- What is known about a node. -/
structure Record where
  id : NodeId
  position : Vec3
  degree : Degree
  cluster : Option NodeId
  /-- The address of the head. -/
  headAddress : Option NodeId
  /-- When the record was last refreshed. -/
  timestamp : Timestamp
  /-- Whether a wavefront may start at this node. -/
  isStarter : Bool
  /-- The velocity of a wavefront that starts here. -/
  velocity : Option Vec2
deriving DecidableEq

namespace Record

/-- A node that stands alone. -/
def lone (id : NodeId) (position : Vec3) (timestamp : Timestamp) : Record where
  id := id
  position := position
  degree := .standalone
  cluster := none
  headAddress := none
  timestamp := timestamp
  isStarter := false
  velocity := none

def isHead (r : Record) : Bool := r.degree == .head

def isMember (r : Record) : Bool := r.degree == .member

def isStandalone (r : Record) : Bool := r.degree == .standalone

/-- Whether the node belongs to the cluster of a head. -/
def belongsTo (r : Record) (head : NodeId) : Bool := r.cluster == some head

/-- The place in the ground plane. -/
def place (r : Record) : Vec2 := r.position.ground

/-- The role of a node: its degree and its cluster. -/
def role (r : Record) : Degree × Option NodeId := (r.degree, r.cluster)

def setRole (r : Record) (degree : Degree) (cluster : Option NodeId) : Record :=
  { r with degree, cluster, headAddress := cluster }

/-- Lead the cluster named after the node. -/
def becomeHead (r : Record) : Record := r.setRole .head (some r.id)

/-- Join the cluster of a head; to join oneself is to lead. -/
def join (r : Record) (head : NodeId) : Record :=
  if head = r.id then r.becomeHead else r.setRole .member (some head)

/-- Leave any cluster. -/
def leave (r : Record) : Record := r.setRole .standalone none

/-- Mark a node as a starter of wavefronts of a given velocity. -/
def starting (r : Record) (velocity : Vec2) : Record :=
  { r with isStarter := true, velocity := some velocity }

/-- A head leads the cluster named after it, a member belongs to another one. -/
def isConsistent (r : Record) : Bool :=
  match r.degree with
  | .head => r.cluster == some r.id
  | .member => r.cluster.any (· != r.id)
  | .standalone => r.cluster.isNone

def text (r : Record) : String :=
  let role :=
    match r.cluster with
    | some c => r.degree.text ++ " of " ++ c.text
    | none => r.degree.text
  "node " ++ r.id.text ++ " [" ++ role ++ "] at " ++ r.position.text

/-! ### Roles -/

@[simp] theorem id_setRole (r : Record) (d : Degree) (c : Option NodeId) :
    (r.setRole d c).id = r.id := rfl

@[simp] theorem id_becomeHead (r : Record) : r.becomeHead.id = r.id := rfl

@[simp] theorem id_leave (r : Record) : r.leave.id = r.id := rfl

@[simp] theorem id_join (r : Record) (head : NodeId) : (r.join head).id = r.id := by
  unfold join
  split <;> rfl

theorem isConsistent_becomeHead (r : Record) : r.becomeHead.isConsistent = true := by
  simp [becomeHead, setRole, isConsistent]

theorem isConsistent_leave (r : Record) : r.leave.isConsistent = true := rfl

theorem isConsistent_join (r : Record) (head : NodeId) : (r.join head).isConsistent = true := by
  unfold join
  split
  · exact isConsistent_becomeHead r
  · rename_i h
    simp [setRole, isConsistent, h]

end Record

end ClusterWave
