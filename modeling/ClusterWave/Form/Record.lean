import ClusterWave.Density.Map
import ClusterWave.Form.Names

/-!
# Vectors, records and maps in JSON documents

Node numbers and timestamps are bare integers. Durations are written in whole milliseconds.
-/

namespace ClusterWave

namespace NodeId

def toJson (id : NodeId) : Json := Json.ofUInt64 id.val

def ofJson? (j : Json) : Option NodeId := j.uint64?.map NodeId.mk

end NodeId

namespace Timestamp

def toJson (t : Timestamp) : Json := Json.ofUInt64 t.micros

def ofJson? (j : Json) : Option Timestamp := j.uint64?.map Timestamp.mk

end Timestamp

namespace Duration

def toJson (d : Duration) : Json := Json.ofUInt64 d.millis

def ofJson? (j : Json) : Option Duration := j.uint64?.map ofMillis

end Duration

namespace Vec2

def toJson (v : Vec2) : Json := Json.ofMembers [("x", Json.ofReal v.x), ("y", Json.ofReal v.y)]

def ofJson? (j : Json) : Option Vec2 := do
  let f ← j.fields? ["x", "y"]
  some ⟨← f.required "x" Json.real?, ← f.required "y" Json.real?⟩

end Vec2

namespace Vec3

def toJson (v : Vec3) : Json :=
  Json.ofMembers [("x", Json.ofReal v.x), ("y", Json.ofReal v.y), ("z", Json.ofReal v.z)]

def ofJson? (j : Json) : Option Vec3 := do
  let f ← j.fields? ["x", "y", "z"]
  some ⟨← f.required "x" Json.real?, ← f.required "y" Json.real?, ← f.required "z" Json.real?⟩

end Vec3

namespace Record

def toJson (r : Record) : Json :=
  Json.ofMembers
    [ ("id", r.id.toJson),
      ("position", r.position.toJson),
      ("degree", r.degree.toJson),
      ("cluster_id", Json.ofOption NodeId.toJson r.cluster),
      ("ch_address", Json.ofOption NodeId.toJson r.headAddress),
      ("timestamp", r.timestamp.toJson),
      ("is_starting_node", .bool r.isStarter),
      ("base_direction", Json.ofOption Vec2.toJson r.velocity) ]

def ofJson? (j : Json) : Option Record := do
  let f ← j.fields?
    [ "id", "position", "degree", "cluster_id", "ch_address", "timestamp", "is_starting_node",
      "base_direction" ]
  some
    { id := ← f.required "id" NodeId.ofJson?
      position := ← f.required "position" Vec3.ofJson?
      degree := ← f.required "degree" (Degree.ofJson? false)
      cluster := ← f.optional "cluster_id" NodeId.ofJson?
      headAddress := ← f.optional "ch_address" NodeId.ofJson?
      timestamp := ← f.required "timestamp" Timestamp.ofJson?
      isStarter := ← f.required "is_starting_node" Json.bool?
      velocity := ← f.optional "base_direction" Vec2.ofJson? }

end Record

namespace Grid

def toJson (g : Grid) : Json :=
  Json.ofMembers [("size", Json.ofUInt64 g.size), ("scale", Json.ofReal g.scale)]

def ofJson? (j : Json) : Option Grid := do
  let f ← j.fields? ["size", "scale"]
  some ⟨← f.required "size" Json.uint64?, ← f.required "scale" Json.real?⟩

end Grid

namespace DensityMap

def toJson (m : DensityMap) : Json :=
  Json.ofMembers [("spec", m.grid.toJson), ("cells", Json.ofList Json.ofReal m.cells)]

def ofJson? (j : Json) : Option DensityMap := do
  let f ← j.fields? ["spec", "cells"]
  some ⟨← f.required "spec" Grid.ofJson?, ← f.required "cells" (Json.list? Json.real?)⟩

end DensityMap

end ClusterWave
