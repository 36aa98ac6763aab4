import ClusterWave.Form.Record
import ClusterWave.Json.Reader
import ClusterWave.Simulation.Scenario

/-!
# Settings and scenarios in JSON documents

Settings that are not named keep their standard values.
-/

namespace ClusterWave

namespace Settings

def toJson (s : Settings) : Json :=
  Json.ofMembers
    [ ("interval", s.interval.toJson),
      ("minimum_tdma_slot", s.slot.toJson),
      ("max_nodes", Json.ofUInt64 s.maxNodes),
      ("time_window", s.sendWindow.toJson),
      ("omni_range", Json.ofReal s.range),
      ("grid_size", Json.ofUInt64 s.gridSize),
      ("grid_scale", Json.ofReal s.gridScale),
      ("propagation_sector_angle", Json.ofReal s.sectorAngle),
      ("candidate_radius", Json.ofReal s.candidateRadius),
      ("relay_range", Json.ofReal s.relayRange),
      ("reverse_propagation", .bool s.reverse),
      ("disable_starting_node_override", .bool s.startersOnly),
      ("clustering_start", s.clusteringStart.toJson),
      ("clustering_stop", Json.ofOption Duration.toJson s.clusteringStop),
      ("max_packet_bytes", Json.ofUInt64 s.packetLimit),
      ("retry_slots", Json.ofNat s.retrySlots.toNat),
      ("exchange_grace", s.exchangeGrace.toJson),
      ("start_lead", s.startLead.toJson),
      ("run_duration", s.runLength.toJson),
      ("delay_margin", Json.ofReal s.delayMargin),
      ("forward_slot_stride", Json.ofNat s.forwardSlots.toNat),
      ("reverse_activation_delay", s.activationDelay.toJson),
      ("reverse_offset", s.dutyOffset.toJson),
      ("active_window", s.activeWindow.toJson),
      ("inactive_window", s.inactiveWindow.toJson),
      ("incident_interval", Json.ofOption Duration.toJson s.incidentInterval) ]

/-- The names of the settings, in order. -/
def names : List String :=
  [ "interval", "minimum_tdma_slot", "max_nodes", "time_window", "omni_range", "grid_size",
    "grid_scale", "propagation_sector_angle", "candidate_radius", "relay_range",
    "reverse_propagation", "disable_starting_node_override", "clustering_start",
    "clustering_stop", "max_packet_bytes", "retry_slots", "exchange_grace", "start_lead",
    "run_duration", "delay_margin", "forward_slot_stride", "reverse_activation_delay",
    "reverse_offset", "active_window", "inactive_window", "incident_interval" ]

def ofJson? (j : Json) : Option Settings := do
  let f ← j.fields? names
  let s := standard
  let span (name : String) := f.withDefault name Duration.ofJson?
  let span? (name : String) := f.withDefault name (Json.nullable? Duration.ofJson?)
  let real (name : String) := f.withDefault name Json.real?
  let flag (name : String) := f.withDefault name Json.bool?
  let number (name : String) := f.withDefault name Json.uint64?
  let slots (name : String) := f.withDefault name Json.uint32?
  some
    { interval := ← span "interval" s.interval
      slot := ← span "minimum_tdma_slot" s.slot
      maxNodes := ← number "max_nodes" s.maxNodes
      sendWindow := ← span "time_window" s.sendWindow
      range := ← real "omni_range" s.range
      gridSize := ← number "grid_size" s.gridSize
      gridScale := ← real "grid_scale" s.gridScale
      sectorAngle := ← real "propagation_sector_angle" s.sectorAngle
      candidateRadius := ← real "candidate_radius" s.candidateRadius
      relayRange := ← real "relay_range" s.relayRange
      reverse := ← flag "reverse_propagation" s.reverse
      startersOnly := ← flag "disable_starting_node_override" s.startersOnly
      clusteringStart := ← span "clustering_start" s.clusteringStart
      clusteringStop := ← span? "clustering_stop" s.clusteringStop
      packetLimit := ← number "max_packet_bytes" s.packetLimit
      retrySlots := ← slots "retry_slots" s.retrySlots
      exchangeGrace := ← span "exchange_grace" s.exchangeGrace
      startLead := ← span "start_lead" s.startLead
      runLength := ← span "run_duration" s.runLength
      delayMargin := ← real "delay_margin" s.delayMargin
      forwardSlots := ← slots "forward_slot_stride" s.forwardSlots
      activationDelay := ← span "reverse_activation_delay" s.activationDelay
      dutyOffset := ← span "reverse_offset" s.dutyOffset
      activeWindow := ← span "active_window" s.activeWindow
      inactiveWindow := ← span "inactive_window" s.inactiveWindow
      incidentInterval := ← span? "incident_interval" s.incidentInterval }

end Settings

namespace ChannelSettings

def toJson (s : ChannelSettings) : Json :=
  Json.ofMembers
    [ ("loss_probability", Json.ofReal s.loss),
      ("latency", s.latency.toJson),
      ("broadcast_range", Json.ofOption Json.ofReal s.broadcastRange),
      ("seed", Json.ofUInt64 s.seed),
      ("jitter", Json.ofOption Duration.toJson s.jitter) ]

def ofJson? (j : Json) : Option ChannelSettings := do
  let f ← j.fields? ["loss_probability", "latency", "broadcast_range", "seed", "jitter"]
  let s := standard
  some
    { loss := ← f.withDefault "loss_probability" Json.real? s.loss
      latency := ← f.withDefault "latency" Duration.ofJson? s.latency
      broadcastRange :=
        ← f.withDefault "broadcast_range" (Json.nullable? Json.real?) s.broadcastRange
      seed := ← f.withDefault "seed" Json.uint64? s.seed
      jitter := ← f.withDefault "jitter" (Json.nullable? Duration.ofJson?) s.jitter }

end ChannelSettings

namespace DropRule

def toJson (r : DropRule) : Json :=
  Json.ofMembers
    [ ("from", r.sender.toJson),
      ("to", r.receiver.toJson),
      ("kind", r.kind.toJson),
      ("count", Json.ofNat r.count.toNat) ]

/-- A rule drops one packet if it names no count. -/
def ofJson? (j : Json) : Option DropRule := do
  let f ← j.fields? ["from", "to", "kind", "count"]
  some
    { sender := ← f.required "from" NodeId.ofJson?
      receiver := ← f.required "to" NodeId.ofJson?
      kind := ← f.required "kind" (MessageKind.ofJson? false)
      count := ← f.withDefault "count" Json.uint32? 1 }

end DropRule

namespace Motion

def toJson : Motion → Json
  | .parked position =>
    Json.ofMembers [("model", Json.ofString "static"), ("position", position.toJson)]
  | .linear origin velocity =>
    Json.ofMembers
      [ ("model", Json.ofString "linear"),
        ("origin", origin.toJson),
        ("velocity", velocity.toJson) ]

def ofJson? (j : Json) : Option Motion := do
  let (kind, content) ← j.tagged? "model" Json.nestingLimit
  if kind == "static" then
    let f ← content.fields? ["position"]
    some (.parked (← f.required "position" Vec2.ofJson?))
  else if kind == "linear" then
    let f ← content.fields? ["origin", "velocity"]
    some (.linear (← f.required "origin" Vec2.ofJson?) (← f.required "velocity" Vec2.ofJson?))
  else none

end Motion

namespace NodeSpec

def toJson (n : NodeSpec) : Json :=
  Json.ofMembers
    [ ("id", n.id.toJson),
      ("position", n.position.toJson),
      ("velocity", Json.ofOption Vec2.toJson n.velocity),
      ("starting", .bool n.isStarter),
      ("base_direction", Json.ofOption Vec2.toJson n.waveVelocity),
      ("departs_at", Json.ofOption Duration.toJson n.departure) ]

def ofJson? (j : Json) : Option NodeSpec := do
  let f ← j.fields? ["id", "position", "velocity", "starting", "base_direction", "departs_at"]
  some
    { id := ← f.required "id" NodeId.ofJson?
      position := ← f.required "position" Vec2.ofJson?
      velocity := ← f.withDefault "velocity" (Json.nullable? Vec2.ofJson?) none
      isStarter := ← f.withDefault "starting" Json.bool? false
      waveVelocity := ← f.withDefault "base_direction" (Json.nullable? Vec2.ofJson?) none
      departure := ← f.withDefault "departs_at" (Json.nullable? Duration.ofJson?) none }

end NodeSpec

namespace Scenario

def toJson (s : Scenario) : Json :=
  Json.ofMembers
    [ ("name", Json.ofString s.name),
      ("duration", s.duration.toJson),
      ("protocol", s.settings.toJson),
      ("channel", s.channel.toJson),
      ("nodes", Json.ofList NodeSpec.toJson s.nodes),
      ("drop_rules", Json.ofList DropRule.toJson s.dropRules) ]

def ofJson? (j : Json) : Option Scenario := do
  let f ← j.fields? ["name", "duration", "protocol", "channel", "nodes", "drop_rules"]
  some
    { name := ← f.withDefault "name" Json.string? ""
      duration := ← f.required "duration" Duration.ofJson?
      settings := ← f.withDefault "protocol" Settings.ofJson? Settings.standard
      channel := ← f.withDefault "channel" ChannelSettings.ofJson? ChannelSettings.standard
      nodes := ← f.required "nodes" (Json.list? NodeSpec.ofJson?)
      dropRules := ← f.withDefault "drop_rules" (Json.list? DropRule.ofJson?) [] }

/-- Read a scenario document. -/
def parse? (text : String) : Option Scenario := (Json.parse? text).bind ofJson?

end Scenario

end ClusterWave
