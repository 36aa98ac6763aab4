import ClusterWave.Form.Record
import ClusterWave.Simulation.Run

/-!
# Timers, counters and tallies in JSON documents

The durations of counters are exact: whole seconds and the nanoseconds beyond them.
-/

namespace ClusterWave

namespace Duration

def toExactJson (d : Duration) : Json :=
  Json.ofMembers [("secs", Json.ofNat d.secs), ("nanos", Json.ofNat d.subsec)]

def ofExactJson? (j : Json) : Option Duration := do
  let f ← j.fields? ["secs", "nanos"]
  let secs ← f.required "secs" Json.uint64?
  let nanos ← f.required "nanos" Json.uint32?
  let total := secs.toNat * 1000000000 + nanos.toNat
  if total < durationLimit then some (ofNanos total) else none

end Duration

namespace Timer

def name : Timer → String
  | .start => "Start"
  | .stop => "Stop"
  | .send => "Send"
  | .electionCheck => "ElectionCheck"
  | .upkeep => "Maintenance"
  | .decide => "Decide"
  | .retransmit _ _ => "Retransmit"
  | .intraBroadcast => "IntraBroadcast"
  | .activate => "Activate"
  | .complete => "Complete"
  | .dutyActive => "DutyActive"
  | .dutyInactive => "DutyInactive"
  | .incident => "Incident"

/-- The timers without content. -/
def plain : List Timer :=
  [ .start, .stop, .send, .electionCheck, .upkeep, .decide, .intraBroadcast, .activate, .complete,
    .dutyActive, .dutyInactive, .incident ]

def toJson : Timer → Json
  | .retransmit peer kind =>
    Json.ofMembers
      [("Retransmit", Json.ofMembers [("peer", peer.toJson), ("kind", kind.toJson)])]
  | timer => Json.ofString timer.name

def ofJson? (j : Json) : Option Timer := do
  match ← j.choice? with
  | ("Retransmit", some content) =>
    let f ← content.fields? ["peer", "kind"]
    some (.retransmit (← f.required "peer" NodeId.ofJson?)
      (← f.required "kind" (MessageKind.ofJson? false)))
  | _ => Json.named? false name plain j

end Timer

def Counters.toJson (c : Counters) : Json :=
  Json.ofMembers
    [ ("packets_sent", Json.ofNat c.packetsSent),
      ("packets_received", Json.ofNat c.packetsReceived),
      ("retransmissions", Json.ofNat c.retransmissions),
      ("role_changes", Json.ofNat c.roleChanges),
      ("formation_messages", Json.ofNat c.formationMessages),
      ("activations", Json.ofNat c.activations),
      ("incidents_originated", Json.ofNat c.incidentsOriginated),
      ("incidents_returned", Json.ofNat c.incidentsReturned),
      ("incident_delay", c.incidentDelay.toExactJson) ]

def Tally.toJson (t : Tally) : Json :=
  Json.ofMembers
    [ ("events_processed", Json.ofNat t.events),
      ("transmissions", Json.ofNat t.transmissions),
      ("deliveries", Json.ofNat t.deliveries),
      ("dropped", Json.ofNat t.dropped),
      ("encode_errors", Json.ofNat t.encodeErrors),
      ("decode_errors", Json.ofNat t.decodeErrors) ]

end ClusterWave
