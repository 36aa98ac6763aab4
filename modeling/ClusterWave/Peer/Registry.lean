import ClusterWave.Peer.Record

/-!
# The registry of a node

A node keeps three tables of records, all keyed by node.

* `neighbors`: every node heard in range.
* `members`: neighbors that name the node as their head.
* `foreign`: one record for every other cluster, under the cluster's name.

Entries carry the time they were received and are dropped when they grow older than a timeout.
-/

namespace ClusterWave

/-- How a record about a foreign cluster was learnt. -/
inductive Provenance where
  /-- From the head itself, or with its density map. -/
  | authoritative
  /-- From a member or by gossip; the position may be a member's. -/
  | hearsay
deriving DecidableEq

/-- What a round of upkeep has changed. -/
structure Upkeep where
  /-- The neighbors that timed out, ascending. -/
  expired : List NodeId
  /-- The foreign clusters that timed out, ascending. -/
  expiredClusters : List NodeId
  /-- The head timed out, and the node stands alone. -/
  lostHead : Bool
  /-- The head of a member is no longer heard as a head, and the node stands alone. -/
  orphaned : Bool
  /-- The last neighbor timed out, and the node leads. -/
  becameHead : Bool
deriving DecidableEq

def Upkeep.roleChanged (u : Upkeep) : Bool := u.lostHead || u.orphaned || u.becameHead

structure Registry where
  neighbors : Table NodeId Record
  members : Table NodeId Record
  foreign : Table NodeId Record
deriving DecidableEq

namespace Registry

def empty : Registry := ⟨Table.empty, Table.empty, Table.empty⟩

/-! ### Single records -/

/-- Put a neighbor in, or refresh it. -/
def hear (g : Registry) (r : Record) : Registry :=
  { g with neighbors := g.neighbors.insert r.id r }

/-- Put a member in, or refresh it. -/
def enrol (g : Registry) (r : Record) : Registry := { g with members := g.members.insert r.id r }

def dropMember (g : Registry) (id : NodeId) : Registry :=
  { g with members := g.members.erase id }

/-- Note a foreign cluster. Hearsay about a known cluster only renews its timestamp. -/
def noteCluster (g : Registry) (cluster : NodeId) (r : Record) (p : Provenance) : Registry :=
  match g.foreign.get? cluster, p with
  | some known, .hearsay =>
    let renewed := { known with timestamp := known.timestamp.later r.timestamp }
    { g with foreign := g.foreign.insert cluster renewed }
  | _, _ => { g with foreign := g.foreign.insert cluster r }

def forgetCluster (g : Registry) (cluster : NodeId) : Registry :=
  { g with foreign := g.foreign.erase cluster }

/-! ### Election -/

/-- The highest head among the neighbors. -/
def highestHead? (g : Registry) : Option NodeId :=
  (((g.neighbors.values.filter Record.isHead).map Record.id).foldl
    fun best id => if best.all (fun b => b < id) then some id else best) none

/-- Whether a node outranks every neighbor that is not a member already. -/
def outranks (g : Registry) (id : NodeId) : Bool :=
  (g.neighbors.values.filter fun r => !r.isMember).all fun r => r.id < id

/-! ### Upkeep -/

/-- Whether a record is older than the timeout. -/
def isStale (now : Timestamp) (timeout : Duration) (r : Record) : Bool :=
  timeout < now.since r.timestamp

/-- Drop the neighbors that timed out.

A node whose head is among them stands alone. A node that is left without neighbors leads. -/
def prune (g : Registry) (self : Record) (now : Timestamp) (timeout : Duration) :
    Registry × Record × Upkeep :=
  let expired := (g.neighbors.values.filter (isStale now timeout)).map Record.id
  let neighbors := g.neighbors.filter fun id _ => !expired.contains id
  let members := g.members.filter fun id _ => !expired.contains id
  let lostHead := !self.isHead && self.cluster.any expired.contains
  let self := if lostHead then self.leave else self
  let becameHead := !expired.isEmpty && neighbors.isEmpty && !self.isHead
  let self := if becameHead then self.becomeHead else self
  ({ g with neighbors, members }, self,
    { expired, expiredClusters := [], lostHead, orphaned := false, becameHead })

/-- Whether the head of the node is heard as a head. -/
def headVisible (g : Registry) (self : Record) : Bool :=
  g.neighbors.entries.any fun (id, r) => self.belongsTo id && r.isHead

/-- Drop the members that have moved to another cluster. -/
def dropStrayMembers (g : Registry) (self : NodeId) : Registry :=
  { g with
    members := g.members.filter fun id _ =>
      match g.neighbors.get? id with
      | some r => r.belongsTo self
      | none => true }

/-- The foreign clusters after a look at one neighbor: a head of another cluster is put in unless
its cluster is known, and what does not lead a foreign cluster is taken out. -/
def lookAtNeighbor (self : Record) (foreign : Table NodeId Record) (id : NodeId) (r : Record) :
    Table NodeId Record :=
  if r.isHead && !self.belongsTo id then
    if foreign.contains id then foreign else foreign.insert id r
  else foreign.erase id

/-- Bring the foreign clusters in line with the neighbors. -/
def reviewForeign (g : Registry) (self : Record) : Registry :=
  { g with
    foreign := g.neighbors.entries.foldl (fun t (id, r) => lookAtNeighbor self t id r) g.foreign }

/-- Drop the foreign clusters that timed out. -/
def pruneForeign (g : Registry) (now : Timestamp) (timeout : Duration) : Registry × List NodeId :=
  let expired := (g.foreign.entries.filter fun (_, r) => isStale now timeout r).map (·.1)
  ({ g with foreign := g.foreign.filter fun id _ => !expired.contains id }, expired)

/-- A round of upkeep: drop stray members, review the foreign clusters, prune the neighbors, detach
a member whose head is not heard as a head, and prune the foreign clusters. -/
def maintain (g : Registry) (self : Record) (now : Timestamp) (timeout : Duration) :
    Registry × Record × Upkeep :=
  let visible := g.headVisible self
  let g := (g.dropStrayMembers self.id).reviewForeign self
  let (g, self, upkeep) := g.prune self now timeout
  let orphaned := self.isMember && !visible && !upkeep.lostHead
  let self := if orphaned then self.leave else self
  let (g, expiredClusters) := g.pruneForeign now timeout
  (g, self, { upkeep with orphaned, expiredClusters })

end Registry

end ClusterWave
