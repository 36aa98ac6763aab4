import ClusterWave.Density.Map
import ClusterWave.Peer.Record

/-!
# Messages and packets

Nodes talk to each other in messages, and messages travel in packets. Messages that a node sends of
its own accord carry a sequence number.
-/

namespace ClusterWave

/-- How grave an incident is. -/
inductive Incident where
  | emergency
  | notification
deriving DecidableEq

/-- The kinds of messages. -/
inductive MessageKind where
  | clusterInfo
  | initiateCluster
  | formCluster
  | neighborCluster
  | densityMap
  | interCluster
  | intraCluster
  | interNode
  | ack
  | incident
deriving DecidableEq

namespace MessageKind

def index : MessageKind → Nat
  | .clusterInfo => 0
  | .initiateCluster => 1
  | .formCluster => 2
  | .neighborCluster => 3
  | .densityMap => 4
  | .interCluster => 5
  | .intraCluster => 6
  | .interNode => 7
  | .ack => 8
  | .incident => 9

theorem index_lt (k : MessageKind) : k.index < 10 := by cases k <;> decide

theorem index_injective (a b : MessageKind) (h : a.index = b.index) : a = b := by
  cases a <;> cases b <;> simp_all [index]

end MessageKind

/-- A peer and a kind of message, ordered by peer first. -/
instance : Rank (NodeId × MessageKind) where
  rank key := rank key.1 * 10 + key.2.index
  rank_injective a b h := by
    have ha := a.2.index_lt
    have hb := b.2.index_lt
    have h₁ : rank a.1 = rank b.1 := by omega
    have h₂ : a.2.index = b.2.index := by omega
    exact Prod.ext (Rank.rank_injective _ _ h₁) (MessageKind.index_injective _ _ h₂)

inductive Message where
  /-- The periodic broadcast of the own record. -/
  | clusterInfo (seq : UInt64) (record : Record)
  /-- A node runs for head. -/
  | initiateCluster (seq : UInt64) (cluster : NodeId) (record : Record)
  /-- A head declares its cluster formed. -/
  | formCluster (seq : UInt64) (record : Record)
  /-- Gossip to the head of `cluster` about the cluster that `record` stands for. -/
  | neighborCluster (seq : UInt64) (cluster : NodeId) (record : Record)
  /-- Where the members of the sender's cluster lie. -/
  | densityMap (seq : UInt64) (cluster : NodeId) (record : Record) (map : DensityMap)
  /-- The offer of a wavefront from one cluster to another. -/
  | interCluster (seq : UInt64) (cluster : NodeId) (source destination direction : Vec2)
      (startTime : Timestamp)
  /-- The schedule of a wavefront from a head to its members. -/
  | intraCluster (seq : UInt64) (cluster starter : NodeId) (startTime : Timestamp)
      (direction : Vec2)
  /-- The wavefront itself, from a node that activates. -/
  | interNode (seq : UInt64) (cluster : Option NodeId) (position direction : Vec2)
      (startTime : Timestamp)
  /-- A message of the given kind has arrived. -/
  | ack (seq : UInt64) (cluster : NodeId) (kind : MessageKind)
  /-- An incident, relayed by the head to its members. -/
  | incident (origin : NodeId) (timestamp : Timestamp) (cluster : Option NodeId)
      (severity : Incident)
deriving DecidableEq

def Message.kind : Message → MessageKind
  | .clusterInfo .. => .clusterInfo
  | .initiateCluster .. => .initiateCluster
  | .formCluster .. => .formCluster
  | .neighborCluster .. => .neighborCluster
  | .densityMap .. => .densityMap
  | .interCluster .. => .interCluster
  | .intraCluster .. => .intraCluster
  | .interNode .. => .interNode
  | .ack .. => .ack
  | .incident .. => .incident

/-- Messages that travel together. -/
structure Packet where
  messages : List Message
deriving DecidableEq

namespace Packet

def single (m : Message) : Packet := ⟨[m]⟩

def kinds (p : Packet) : List MessageKind := p.messages.map Message.kind

end Packet

end ClusterWave
