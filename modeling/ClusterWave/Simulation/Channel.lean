import ClusterWave.Simulation.Random
import ClusterWave.Wire.Message

/-!
# The radio channel

A packet crosses the channel once for every receiver. It may be lost because the receiver is out of
range, because a rule says so, or by chance. Otherwise it arrives after the latency of the channel
and a random extra time.
-/

namespace ClusterWave

structure ChannelSettings where
  /-- The probability that a transmission is lost. -/
  loss : Binary64
  latency : Duration
  /-- How far broadcasts reach, if there is a limit. -/
  broadcastRange : Option Binary64
  seed : UInt64
  /-- The longest extra time of a transmission. -/
  jitter : Option Duration
deriving DecidableEq

/-- Why a channel cannot work. -/
inductive ChannelFault where
  | badLoss (loss : Binary64)
  | badRange (range : Binary64)
deriving DecidableEq

def ChannelFault.message (fault : ChannelFault) : String :=
  "invalid channel: " ++
    match fault with
    | .badLoss loss => "loss_probability " ++ loss.plain ++ " outside [0, 1]"
    | .badRange range => "broadcast_range " ++ range.plain ++ " must be positive"

namespace ChannelSettings

/-- A channel without losses and with a latency of a millisecond. -/
def standard : ChannelSettings where
  loss := Binary64.zero
  latency := Duration.ofMillis 1
  broadcastRange := none
  seed := 42
  jitter := none

def check (s : ChannelSettings) : Except ChannelFault Unit :=
  if Binary64.zero ≤ s.loss ∧ s.loss ≤ Binary64.one then
    match s.broadcastRange with
    | none => .ok ()
    | some range => if Binary64.zero < range then .ok () else .error (.badRange range)
  else .error (.badLoss s.loss)

end ChannelSettings

/-- Drop the next `count` packets between two nodes that carry a kind of message. -/
structure DropRule where
  sender : NodeId
  receiver : NodeId
  kind : MessageKind
  count : UInt32
deriving DecidableEq

namespace DropRule

def once (sender receiver : NodeId) (kind : MessageKind) : DropRule := ⟨sender, receiver, kind, 1⟩

/-- Whether drops are left. -/
def isPending (r : DropRule) : Bool := 0 < r.count

def applies (r : DropRule) (sender receiver : NodeId) (kinds : List MessageKind) : Bool :=
  r.isPending && r.sender == sender && r.receiver == receiver && kinds.contains r.kind

/-- Take a drop off the first rule that applies, if there is one. -/
def charge? (sender receiver : NodeId) (kinds : List MessageKind) :
    List DropRule → Option (List DropRule)
  | [] => none
  | r :: rest =>
    if r.applies sender receiver kinds then some ({ r with count := r.count - 1 } :: rest)
    else (charge? sender receiver kinds rest).map (r :: ·)

end DropRule

/-- Why a packet did not arrive. -/
inductive DropReason where
  /-- It was lost by chance. -/
  | loss
  | rule
  | outOfRange
  /-- There is no such receiver. -/
  | unknownNode
  /-- The receiver has left. -/
  | departed
deriving DecidableEq

/-- What becomes of a transmission. -/
inductive Verdict where
  | deliver (latency : Duration)
  | drop (reason : DropReason)
deriving DecidableEq

structure Channel where
  settings : ChannelSettings
  rules : List DropRule
  randomness : Randomness
deriving DecidableEq

namespace Channel

def create (settings : ChannelSettings) : Except ChannelFault Channel :=
  match settings.check with
  | .error fault => .error fault
  | .ok () => .ok ⟨settings, [], Randomness.ofSeed settings.seed⟩

def addRule (c : Channel) (r : DropRule) : Channel := { c with rules := c.rules ++ [r] }

/-- The rules that have drops left. -/
def pendingRules (c : Channel) : List DropRule := c.rules.filter DropRule.isPending

/-- Whether a receiver at a distance is beyond the range; none is without a distance. -/
def outOfRange (c : Channel) (distance : Option Binary64) : Bool :=
  match c.settings.broadcastRange, distance with
  | some range, some d => range < d
  | _, _ => false

/-- Decide by chance whether a transmission is lost. -/
def drawLoss (c : Channel) : Bool × Channel :=
  if Binary64.zero < c.settings.loss then
    let (x, randomness) := c.randomness.draw
    (x < c.settings.loss, { c with randomness })
  else (false, c)

/-- Draw the extra time of a transmission. -/
def drawJitter (c : Channel) : Duration × Channel :=
  match c.settings.jitter with
  | none => (Duration.zero, c)
  | some longest =>
    if longest.isZero then (Duration.zero, c)
    else
      let (x, randomness) := c.randomness.draw
      ((Duration.ofSeconds? (x * longest.seconds)).getD Duration.longest, { c with randomness })

/-- Send a packet to a receiver, which may be at a distance. -/
def transmit (c : Channel) (sender receiver : NodeId) (kinds : List MessageKind)
    (distance : Option Binary64) : Verdict × Channel :=
  if c.outOfRange distance then (.drop .outOfRange, c)
  else
    match DropRule.charge? sender receiver kinds c.rules with
    | some rules => (.drop .rule, { c with rules })
    | none =>
      let (lost, c) := c.drawLoss
      if lost then (.drop .loss, c)
      else
        let (extra, c) := c.drawJitter
        (.deliver (c.settings.latency + extra), c)

end Channel

end ClusterWave
