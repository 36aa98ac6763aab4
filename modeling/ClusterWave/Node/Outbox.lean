import ClusterWave.Time.Timestamp
import ClusterWave.Wire.Message

/-!
# What a node asks of its surroundings

A node neither reads a clock nor sends a packet. While it handles an event it collects effects in an
outbox: timers to arm or cancel, and packets to send. Its surroundings carry them out in order.
Every timer that is armed gets a handle of its own, counted upwards.
-/

namespace ClusterWave

/-- The timers of a node. -/
inductive Timer where
  /-- Clustering begins. -/
  | start
  /-- Clustering ends. -/
  | stop
  /-- The transmission that fits the status. -/
  | send
  | electionCheck
  | upkeep
  /-- The exchange of maps is over. -/
  | decide
  /-- Send the unacknowledged message of a kind to a peer again. -/
  | retransmit (peer : NodeId) (kind : MessageKind)
  /-- Broadcast the schedule to the members. -/
  | intraBroadcast
  | activate
  /-- A single run ends. -/
  | complete
  | dutyActive
  | dutyInactive
  | incident
deriving DecidableEq

/-- The name of an armed timer. -/
structure TimerHandle where
  val : Nat
deriving DecidableEq

inductive Effect where
  /-- Send to every node in range. -/
  | broadcast (packet : Packet)
  | send (peer : NodeId) (packet : Packet)
  | schedule (handle : TimerHandle) (delay : Duration) (timer : Timer)
  | cancel (handle : TimerHandle)
deriving DecidableEq

/-- The effects asked for, first one first, and the next free handle. -/
structure Outbox where
  nextHandle : Nat
  effects : List Effect
deriving DecidableEq

namespace Outbox

/-- Nothing is asked for. -/
def fresh (nextHandle : Nat) : Outbox := ⟨nextHandle, []⟩

def add (o : Outbox) (e : Effect) : Outbox := { o with effects := o.effects ++ [e] }

/-- The handle of the timer that is armed next. -/
def handle (o : Outbox) : TimerHandle := ⟨o.nextHandle⟩

/-- Arm a timer under the next handle. -/
def schedule (o : Outbox) (delay : Duration) (timer : Timer) : Outbox :=
  ⟨o.nextHandle + 1, o.effects ++ [.schedule o.handle delay timer]⟩

def cancel (o : Outbox) (handle : TimerHandle) : Outbox := o.add (.cancel handle)

def broadcast (o : Outbox) (packet : Packet) : Outbox := o.add (.broadcast packet)

def send (o : Outbox) (peer : NodeId) (packet : Packet) : Outbox := o.add (.send peer packet)

end Outbox

end ClusterWave
