import ClusterWave.Form.Record

/-!
# Messages in JSON documents

A message is an object with the kind as its only member.
-/

namespace ClusterWave

namespace Message

/-- The fields of a message. -/
def fieldsToJson : Message → Json
  | .clusterInfo seq record | .formCluster seq record =>
    Json.ofMembers [("seq", Json.ofUInt64 seq), ("record", record.toJson)]
  | .initiateCluster seq cluster record | .neighborCluster seq cluster record =>
    Json.ofMembers
      [ ("seq", Json.ofUInt64 seq),
        ("cluster_id", cluster.toJson),
        ("record", record.toJson) ]
  | .densityMap seq cluster record map =>
    Json.ofMembers
      [ ("seq", Json.ofUInt64 seq),
        ("cluster_id", cluster.toJson),
        ("record", record.toJson),
        ("map", map.toJson) ]
  | .interCluster seq cluster source destination direction startTime =>
    Json.ofMembers
      [ ("seq", Json.ofUInt64 seq),
        ("cluster_id", cluster.toJson),
        ("source", source.toJson),
        ("destination", destination.toJson),
        ("direction", direction.toJson),
        ("start_time", startTime.toJson) ]
  | .intraCluster seq cluster starter startTime direction =>
    Json.ofMembers
      [ ("seq", Json.ofUInt64 seq),
        ("cluster_id", cluster.toJson),
        ("starting_node", starter.toJson),
        ("start_time", startTime.toJson),
        ("direction", direction.toJson) ]
  | .interNode seq cluster position direction startTime =>
    Json.ofMembers
      [ ("seq", Json.ofUInt64 seq),
        ("cluster_id", Json.ofOption NodeId.toJson cluster),
        ("position", position.toJson),
        ("direction", direction.toJson),
        ("start_time", startTime.toJson) ]
  | .ack seq cluster kind =>
    Json.ofMembers
      [ ("seq", Json.ofUInt64 seq), ("cluster_id", cluster.toJson), ("kind", kind.toJson) ]
  | .incident origin timestamp cluster severity =>
    Json.ofMembers
      [ ("origin", origin.toJson),
        ("timestamp", timestamp.toJson),
        ("cluster_id", Json.ofOption NodeId.toJson cluster),
        ("incident", severity.toJson) ]

def toJson (m : Message) : Json := Json.ofMembers [(m.kind.name, m.fieldsToJson)]

/-- Read the fields of a message of a kind. -/
def ofFields? (kind : MessageKind) (j : Json) : Option Message :=
  match kind with
  | .clusterInfo => do
    let f ← j.fields? ["seq", "record"]
    some (.clusterInfo (← f.required "seq" Json.uint64?) (← f.required "record" Record.ofJson?))
  | .initiateCluster => do
    let f ← j.fields? ["seq", "cluster_id", "record"]
    some (.initiateCluster (← f.required "seq" Json.uint64?)
      (← f.required "cluster_id" NodeId.ofJson?) (← f.required "record" Record.ofJson?))
  | .formCluster => do
    let f ← j.fields? ["seq", "record"]
    some (.formCluster (← f.required "seq" Json.uint64?) (← f.required "record" Record.ofJson?))
  | .neighborCluster => do
    let f ← j.fields? ["seq", "cluster_id", "record"]
    some (.neighborCluster (← f.required "seq" Json.uint64?)
      (← f.required "cluster_id" NodeId.ofJson?) (← f.required "record" Record.ofJson?))
  | .densityMap => do
    let f ← j.fields? ["seq", "cluster_id", "record", "map"]
    some (.densityMap (← f.required "seq" Json.uint64?)
      (← f.required "cluster_id" NodeId.ofJson?) (← f.required "record" Record.ofJson?)
      (← f.required "map" DensityMap.ofJson?))
  | .interCluster => do
    let f ← j.fields? ["seq", "cluster_id", "source", "destination", "direction", "start_time"]
    some (.interCluster (← f.required "seq" Json.uint64?)
      (← f.required "cluster_id" NodeId.ofJson?) (← f.required "source" Vec2.ofJson?)
      (← f.required "destination" Vec2.ofJson?) (← f.required "direction" Vec2.ofJson?)
      (← f.required "start_time" Timestamp.ofJson?))
  | .intraCluster => do
    let f ← j.fields? ["seq", "cluster_id", "starting_node", "start_time", "direction"]
    some (.intraCluster (← f.required "seq" Json.uint64?)
      (← f.required "cluster_id" NodeId.ofJson?) (← f.required "starting_node" NodeId.ofJson?)
      (← f.required "start_time" Timestamp.ofJson?) (← f.required "direction" Vec2.ofJson?))
  | .interNode => do
    let f ← j.fields? ["seq", "cluster_id", "position", "direction", "start_time"]
    some (.interNode (← f.required "seq" Json.uint64?)
      (← f.optional "cluster_id" NodeId.ofJson?) (← f.required "position" Vec2.ofJson?)
      (← f.required "direction" Vec2.ofJson?) (← f.required "start_time" Timestamp.ofJson?))
  | .ack => do
    let f ← j.fields? ["seq", "cluster_id", "kind"]
    some (.ack (← f.required "seq" Json.uint64?) (← f.required "cluster_id" NodeId.ofJson?)
      (← f.required "kind" (MessageKind.ofJson? false)))
  | .incident => do
    let f ← j.fields? ["origin", "timestamp", "cluster_id", "incident"]
    some (.incident (← f.required "origin" NodeId.ofJson?)
      (← f.required "timestamp" Timestamp.ofJson?) (← f.optional "cluster_id" NodeId.ofJson?)
      (← f.required "incident" Incident.ofJson?))

def ofJson? (j : Json) : Option Message := do
  let (name, content) ← j.choice?
  let kind ← MessageKind.all.find? fun k => k.name == name
  ofFields? kind (← content)

end Message

namespace Packet

def toJson (p : Packet) : Json :=
  Json.ofMembers [("messages", Json.ofList Message.toJson p.messages)]

def ofJson? (j : Json) : Option Packet := do
  let f ← j.fields? ["messages"]
  some ⟨← f.required "messages" (Json.list? Message.ofJson?)⟩

end Packet

end ClusterWave
