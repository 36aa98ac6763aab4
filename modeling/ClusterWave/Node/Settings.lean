import ClusterWave.Density.Map
import ClusterWave.Time.Duration

/-!
# Settings of a node

All nodes of a run share their settings. Time is divided into slots; waits, retries and staggering
are multiples of a slot.
-/

namespace ClusterWave

structure Settings where
  /-- Period of the update broadcast and of upkeep. -/
  interval : Duration
  slot : Duration
  /-- How many nodes may contend for the channel. -/
  maxNodes : UInt64
  /-- Wait before the first transmission. -/
  sendWindow : Duration
  /-- Distance from which on nodes are not heard. -/
  range : Binary64
  gridSize : UInt64
  gridScale : Binary64
  /-- Opening angle of the sector in which a wavefront is forwarded. -/
  sectorAngle : Binary64
  /-- Radius of the sector in which a cell of another cluster is looked for. -/
  candidateRadius : Binary64
  /-- Radius of the sector in which nodes pick up a wavefront from each other. -/
  relayRange : Binary64
  /-- Whether nodes go through duty cycles instead of running once. -/
  reverse : Bool
  /-- Whether only starters accept a schedule as the first node. -/
  startersOnly : Bool
  clusteringStart : Duration
  clusteringStop : Option Duration
  /-- The largest packet of an update, in bytes. -/
  packetLimit : UInt64
  /-- Period of retransmission, in slots. -/
  retrySlots : UInt32
  /-- Time from the exchange of maps to the decision. -/
  exchangeGrace : Duration
  /-- Time from the decision to the start of the wavefront. -/
  startLead : Duration
  /-- How long a node runs. -/
  runLength : Duration
  /-- Safety factor on delays between clusters. -/
  delayMargin : Binary64
  /-- Time between offers to two clusters, in slots. -/
  forwardSlots : UInt32
  /-- Duty cycles: wait before the activation. -/
  activationDelay : Duration
  /-- Duty cycles: shift of the first active window. -/
  dutyOffset : Duration
  activeWindow : Duration
  inactiveWindow : Duration
  /-- Period of incidents, if there are any. -/
  incidentInterval : Option Duration
deriving DecidableEq

/-- A distance among the settings. -/
inductive Reach where
  | range
  | candidateRadius
  | relayRange
deriving DecidableEq

/-- Why a node cannot run with its settings. -/
inductive SettingsFault where
  | noNodes
  | tooManyNodes (n : UInt64)
  | noInterval
  | noSlot
  | smallGrid (size : UInt64)
  | badScale (scale : Binary64)
  | badAngle (angle : Binary64)
  | badReach (reach : Reach) (value : Binary64)
  | smallMargin (margin : Binary64)
  | noPacket
  | noDutyPeriod
deriving DecidableEq

/-- The largest number of nodes that may contend. -/
def maxNodesLimit : UInt64 := 10000

def Reach.name : Reach → String
  | .range => "omni_range"
  | .candidateRadius => "candidate_radius"
  | .relayRange => "relay_range"

/-- The setting and what is wrong with it. -/
def SettingsFault.message (fault : SettingsFault) : String :=
  "invalid configuration: " ++
    match fault with
    | .noNodes => "max_nodes must be positive"
    | .tooManyNodes n =>
      "max_nodes " ++ toString n ++ " exceeds the limit of " ++ toString maxNodesLimit
    | .noInterval => "interval must be non-zero"
    | .noSlot => "minimum_tdma_slot must be non-zero"
    | .smallGrid size => "grid_size " ++ toString size ++ " is below 2"
    | .badScale scale => "grid_scale " ++ scale.plain ++ " is not positive"
    | .badAngle angle => "propagation_sector_angle " ++ angle.plain ++ " is outside (0, 2π]"
    | .badReach reach value => reach.name ++ " " ++ value.plain ++ " is not positive"
    | .smallMargin margin => "delay_margin " ++ margin.plain ++ " is below 1"
    | .noPacket => "max_packet_bytes must be positive"
    | .noDutyPeriod => "active_window duty cycle period must be non-zero"

namespace Settings

/-- The settings of a run that names no other. -/
def standard : Settings where
  interval := Duration.ofMillis 300
  slot := Duration.ofMillis 1
  maxNodes := 100
  sendWindow := Duration.ofSecs 1
  range := ⟨0x4059000000000000⟩
  gridSize := 20
  gridScale := ⟨0x4024000000000000⟩
  sectorAngle := Binary64.quarterTurn
  candidateRadius := ⟨0x4059000000000000⟩
  relayRange := ⟨0x4059000000000000⟩
  reverse := false
  startersOnly := false
  clusteringStart := Duration.zero
  clusteringStop := none
  packetLimit := 2296
  retrySlots := 250
  exchangeGrace := Duration.ofSecs 1
  startLead := Duration.ofSecs 5
  runLength := Duration.ofMillis 1500
  delayMargin := ⟨0x3ff4cccccccccccd⟩
  forwardSlots := 50
  activationDelay := Duration.ofMillis 100
  dutyOffset := Duration.ofSecs 3
  activeWindow := Duration.ofSecs 1
  inactiveWindow := Duration.ofSecs 19
  incidentInterval := none

/-! ### Derived times -/

/-- Wait for a free channel: a slot for every node. -/
def backoff (s : Settings) : Duration := s.slot.scale (min s.maxNodes.toNat (UInt32.size - 1))

/-- Age at which a neighbor times out: two intervals. -/
def timeout (s : Settings) : Duration := s.interval.scale 2

/-- Period of retransmission. -/
def retryInterval (s : Settings) : Duration := s.slot.scale s.retrySlots.toNat

/-- Time between offers to two clusters. -/
def forwardStride (s : Settings) : Duration := s.slot.scale s.forwardSlots.toNat

/-- An active and an inactive window. -/
def dutyPeriod (s : Settings) : Duration := s.activeWindow + s.inactiveWindow

def grid (s : Settings) : Grid := ⟨s.gridSize, s.gridScale⟩

/-! ### Validity -/

/-- What is wrong with the settings, in the order in which it is looked for. -/
def faults (s : Settings) : List SettingsFault :=
  let positive (x : Binary64) : Bool := Binary64.zero < x
  let reach (r : Reach) (x : Binary64) := if positive x then [] else [SettingsFault.badReach r x]
  [ if s.maxNodes = 0 then [SettingsFault.noNodes] else [],
    if maxNodesLimit < s.maxNodes then [.tooManyNodes s.maxNodes] else [],
    if s.interval.isZero then [.noInterval] else [],
    if s.slot.isZero then [.noSlot] else [],
    if s.gridSize < 2 then [.smallGrid s.gridSize] else [],
    if positive s.gridScale && s.gridScale.isFinite then [] else [.badScale s.gridScale],
    if positive s.sectorAngle && decide (s.sectorAngle ≤ Binary64.fullTurn) then []
      else [.badAngle s.sectorAngle],
    reach .range s.range,
    reach .candidateRadius s.candidateRadius,
    reach .relayRange s.relayRange,
    if Binary64.one ≤ s.delayMargin then [] else [.smallMargin s.delayMargin],
    if s.packetLimit = 0 then [.noPacket] else [],
    if s.reverse && s.dutyPeriod.isZero then [.noDutyPeriod] else [] ].flatten

/-- The first fault, if there is any. -/
def check (s : Settings) : Except SettingsFault Unit :=
  match s.faults with
  | [] => .ok ()
  | fault :: _ => .error fault

end Settings

end ClusterWave
