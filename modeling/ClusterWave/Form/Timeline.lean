import ClusterWave.Form.Record
import ClusterWave.Json.Number
import ClusterWave.Simulation.Snapshot
import ClusterWave.Simulation.Timeline

/-!
# Timelines and snapshots in JSON documents

An occurrence names its type by one of its own members.
-/

namespace ClusterWave

namespace Occurrence

def toJson : Occurrence → Json
  | .statusChanged node before after time =>
    Json.ofMembers
      [ ("type", Json.ofString "StatusChanged"),
        ("node", node.toJson),
        ("from", before.toJson),
        ("to", after.toJson),
        ("time", time.toJson) ]
  | .roleChanged node degree cluster time =>
    Json.ofMembers
      [ ("type", Json.ofString "RoleChanged"),
        ("node", node.toJson),
        ("degree", degree.toJson),
        ("cluster", Json.ofOption NodeId.toJson cluster),
        ("time", time.toJson) ]
  | .delivered sender receiver kinds time =>
    Json.ofMembers
      [ ("type", Json.ofString "Delivered"),
        ("from", sender.toJson),
        ("to", receiver.toJson),
        ("kinds", Json.ofList MessageKind.toJson kinds),
        ("time", time.toJson) ]
  | .dropped sender receiver kinds reason time =>
    Json.ofMembers
      [ ("type", Json.ofString "Dropped"),
        ("from", sender.toJson),
        ("to", receiver.toJson),
        ("kinds", Json.ofList MessageKind.toJson kinds),
        ("reason", reason.toJson),
        ("time", time.toJson) ]
  | .activated node position time =>
    Json.ofMembers
      [ ("type", Json.ofString "Activated"),
        ("node", node.toJson),
        ("position", position.toJson),
        ("time", time.toJson) ]
  | .departed node time =>
    Json.ofMembers
      [ ("type", Json.ofString "Departed"), ("node", node.toJson), ("time", time.toJson) ]

/-- Read an occurrence that may nest at most `room` containers. -/
def ofJson? (room : Nat) (j : Json) : Option Occurrence := do
  let (kind, content) ← j.tagged? "type" room
  let id (f : Json.Fields) (name : String) := f.required name NodeId.ofJson?
  let kinds (f : Json.Fields) := f.required "kinds" (Json.list? (MessageKind.ofJson? true))
  let time (f : Json.Fields) := f.required "time" Timestamp.ofJson?
  if kind == "StatusChanged" then
    let f ← content.fields? ["node", "from", "to", "time"]
    some (.statusChanged (← id f "node") (← f.required "from" (Status.ofJson? true))
      (← f.required "to" (Status.ofJson? true)) (← time f))
  else if kind == "RoleChanged" then
    let f ← content.fields? ["node", "degree", "cluster", "time"]
    some (.roleChanged (← id f "node") (← f.required "degree" (Degree.ofJson? true))
      (← f.optional "cluster" NodeId.ofJson?) (← time f))
  else if kind == "Delivered" then
    let f ← content.fields? ["from", "to", "kinds", "time"]
    some (.delivered (← id f "from") (← id f "to") (← kinds f) (← time f))
  else if kind == "Dropped" then
    let f ← content.fields? ["from", "to", "kinds", "reason", "time"]
    some (.dropped (← id f "from") (← id f "to") (← kinds f)
      (← f.required "reason" (DropReason.ofJson? true)) (← time f))
  else if kind == "Activated" then
    let f ← content.fields? ["node", "position", "time"]
    some (.activated (← id f "node") (← f.required "position" Vec3.ofJson?) (← time f))
  else if kind == "Departed" then
    let f ← content.fields? ["node", "time"]
    some (.departed (← id f "node") (← time f))
  else none

end Occurrence

namespace Timeline

def toJson (t : Timeline) : Json :=
  Json.ofMembers [("events", Json.ofList Occurrence.toJson t.toList)]

/-- Two containers enclose an occurrence. -/
def ofJson? (j : Json) : Option Timeline := do
  let f ← j.fields? ["events"]
  some (ofList (← f.required "events" (Json.list? (Occurrence.ofJson? (Json.nestingLimit - 2)))))

/-- The timeline as a document. -/
def document (t : Timeline) : String := t.toJson.pretty

end Timeline

namespace NodeSummary

def toJson (n : NodeSummary) : Json :=
  Json.ofMembers
    [ ("id", n.id.toJson),
      ("status", n.status.toJson),
      ("degree", n.degree.toJson),
      ("cluster", Json.ofOption NodeId.toJson n.cluster),
      ("position", n.position.toJson),
      ("start_time", n.startTime.toJson),
      ("activations", Json.ofUInt64 n.activations) ]

def ofJson? (j : Json) : Option NodeSummary := do
  let f ← j.fields? ["id", "status", "degree", "cluster", "position", "start_time", "activations"]
  some
    { id := ← f.required "id" NodeId.ofJson?
      status := ← f.required "status" (Status.ofJson? false)
      degree := ← f.required "degree" (Degree.ofJson? false)
      cluster := ← f.optional "cluster" NodeId.ofJson?
      position := ← f.required "position" Vec3.ofJson?
      startTime := ← f.required "start_time" Timestamp.ofJson?
      activations := ← f.required "activations" Json.uint64? }

end NodeSummary

namespace ClusterSummary

/-- The clusters by the numbers of their heads. -/
def clustersToJson (clusters : Table NodeId (List NodeId)) : Json :=
  Json.ofMembers (clusters.entries.map fun (head, members) =>
    (head.text, Json.ofList NodeId.toJson members))

/-- Read clusters. A number given twice keeps its last members. -/
def clustersOfJson? : Json → Option (Table NodeId (List NodeId))
  | .object members =>
    members.foldlM (fun t (name, v) => do
      let head ← NodeId.ofJson? (.number (← Json.Number.ofText? name))
      some (t.insert head (← Json.list? NodeId.ofJson? v))) Table.empty
  | _ => none

def toJson (s : ClusterSummary) : Json :=
  Json.ofMembers
    [ ("clusters", clustersToJson s.clusters),
      ("standalone", Json.ofList NodeId.toJson s.standalone),
      ("dangling", Json.ofList NodeId.toJson s.dangling),
      ("inconsistent", Json.ofList NodeId.toJson s.inconsistent) ]

def ofJson? (j : Json) : Option ClusterSummary := do
  let f ← j.fields? ["clusters", "standalone", "dangling", "inconsistent"]
  let ids (name : String) := f.required name (Json.list? NodeId.ofJson?)
  some
    { clusters := ← f.required "clusters" clustersOfJson?
      standalone := ← ids "standalone"
      dangling := ← ids "dangling"
      inconsistent := ← ids "inconsistent" }

end ClusterSummary

namespace Snapshot

def toJson (s : Snapshot) : Json :=
  Json.ofMembers
    [ ("time", s.time.toJson),
      ("nodes", Json.ofList NodeSummary.toJson s.nodes),
      ("clusters", s.clusters.toJson) ]

def ofJson? (j : Json) : Option Snapshot := do
  let f ← j.fields? ["time", "nodes", "clusters"]
  some
    { time := ← f.required "time" Timestamp.ofJson?
      nodes := ← f.required "nodes" (Json.list? NodeSummary.ofJson?)
      clusters := ← f.required "clusters" ClusterSummary.ofJson? }

end Snapshot

end ClusterWave
