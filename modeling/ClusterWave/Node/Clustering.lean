import ClusterWave.Node.Turn

/-!
# Forming clusters

A node first makes itself known and then checks whether it has the highest number in range. If so it
leads a cluster, and the others join. From then on it broadcasts updates, and a round of upkeep at
every interval drops what was not heard for long.
-/

namespace ClusterWave

namespace Turn

/-- Clustering begins. -/
def beginClustering (t : Turn) : Turn :=
  let s := t.node.settings
  let t := t.edit fun n => { n with clustering := true, status := .init }
  ((t.queueSend s.sendWindow).disarm .upkeep).arm .upkeep s.backoff .upkeep

/-- Lead a cluster with the next transmission. -/
def formCluster (t : Turn) : Turn :=
  ((t.disarm .election).setStatus .formation).queueSend Duration.zero

/-- Join the cluster of a head, which ends the own election. -/
def join (t : Turn) (head : NodeId) : Turn :=
  let t := t.disarm .election
  let t := t.setRecord (t.node.record.join head)
  let t := t.setRegistry (t.node.registry.forgetCluster head)
  (t.setStatus .update).queueSend t.node.settings.sendWindow

/-! ### Transmissions -/

/-- Make the node known and check the election later. -/
def sendGreeting (t : Turn) : Turn :=
  let t := t.advanceSeq
  let t := t.broadcast (.clusterInfo t.node.seq t.node.record)
  (t.disarm .election).arm .election t.node.settings.backoff .electionCheck

/-- Count a message that starts or forms a cluster, and go on with updates after a delay. -/
def clusterFormed (t : Turn) (delay : Duration) : Turn :=
  let t := t.count fun c => { c with formationMessages := c.formationMessages + 1 }
  (t.setStatus .update).queueSend delay

/-- Lead and run for head. -/
def sendCandidacy (t : Turn) : Turn :=
  let t := (t.setRecord t.node.record.becomeHead).advanceSeq
  let t := t.broadcast (.initiateCluster t.node.seq t.node.id t.node.record)
  t.clusterFormed t.node.settings.backoff

/-- Lead and declare the cluster formed. -/
def sendFormation (t : Turn) : Turn :=
  let t := (t.setRecord t.node.record.becomeHead).advanceSeq
  let t := t.broadcast (.formCluster t.node.seq t.node.record)
  t.clusterFormed t.node.settings.interval

/-- Add gossip about a foreign cluster to the messages of an update. -/
def addGossip (cluster : NodeId) (acc : Turn × List Message) (foreign : Record) :
    Turn × List Message :=
  let t := acc.1.advanceSeq
  (t, acc.2 ++ [.neighborCluster t.node.seq cluster foreign])

/-- The own record and, from within a cluster, a record of every foreign one. -/
def updateMessages (t : Turn) : Turn × List Message :=
  let t := t.advanceSeq
  let own := [Message.clusterInfo t.node.seq t.node.record]
  match t.node.record.cluster with
  | none => (t, own)
  | some cluster => t.node.registry.foreign.values.foldl (addGossip cluster) (t, own)

/-- Broadcast an update in as many packets as it takes, and go on after an interval. -/
def sendUpdate (t : Turn) : Turn :=
  let (t, messages) := t.updateMessages
  let packets := Packet.batch t.node.settings.packetLimit.toNat messages
  (packets.foldl broadcastPacket t).queueSend t.node.settings.interval

/-- The transmission that fits the status. -/
def transmit (t : Turn) : Turn :=
  match t.node.status with
  | .init => t.sendGreeting
  | .headElection => t.sendCandidacy
  | .formation => t.sendFormation
  | .update => if t.node.clustering then t.sendUpdate else t
  | _ => t

/-! ### Election and upkeep -/

/-- Run for head if no higher number is heard, else greet again. -/
def checkElection (t : Turn) : Turn :=
  let s := t.node.settings
  if t.node.status ≠ .init then t
  else if !t.node.record.isStandalone then (t.setStatus .update).queueSend s.slot
  else if t.node.registry.outranks t.node.id then (t.setStatus .headElection).queueSend s.backoff
  else t.queueSend s.backoff

/-- Go on after a round of upkeep that may have changed the role. -/
def afterUpkeep (t : Turn) (upkeep : Upkeep) : Turn :=
  let s := t.node.settings
  if upkeep.becameHead then (t.setStatus .update).queueSend s.slot
  else if upkeep.lostHead then (t.setStatus .init).queueSend s.backoff
  else t

/-- A round of upkeep, as long as clusters are being formed. -/
def upkeep (t : Turn) : Turn :=
  let n := t.node
  if n.clustering then
    let (registry, record, upkeep) := n.registry.maintain n.record t.now n.settings.timeout
    ((t.setRegistry registry).setRecord record |>.afterUpkeep upkeep).arm .upkeep
      n.settings.interval .upkeep
  else t

end Turn

end ClusterWave
