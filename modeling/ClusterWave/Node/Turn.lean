import ClusterWave.Node.State
import ClusterWave.Wire.Batch

/-!
# A turn of a node

A node handles one event in a turn. The turn holds the time and the place at which the node is, the
node as it has become so far, and the effects it has asked for. Each step of a handler is a function
on turns.
-/

namespace ClusterWave

structure Turn where
  now : Timestamp
  position : Vec3
  node : Node
  outbox : Outbox
deriving DecidableEq

namespace Turn

/-- The beginning of a turn. -/
def start (node : Node) (now : Timestamp) (position : Vec3) (nextHandle : Nat) : Turn :=
  ⟨now, position, node, Outbox.fresh nextHandle⟩

/-! ### Changes of the node -/

/-- Change the node. -/
def edit (t : Turn) (f : Node → Node) : Turn := { t with node := f t.node }

/-- Take time and place into the own record. -/
def locate (t : Turn) : Turn :=
  t.edit fun n =>
    { n with record := { n.record with position := t.position, timestamp := t.now } }

def setStatus (t : Turn) (status : Status) : Turn := t.edit fun n => { n with status }

def setRecord (t : Turn) (record : Record) : Turn := t.edit fun n => { n with record }

def setRegistry (t : Turn) (registry : Registry) : Turn := t.edit fun n => { n with registry }

def setSchedule (t : Turn) (schedule : Schedule) : Turn := t.edit fun n => { n with schedule }

/-- Set the direction of the wavefront. -/
def setDirection (t : Turn) (direction : Option Vec2) : Turn :=
  t.setSchedule { t.node.schedule with direction }

/-- Change the counters. -/
def count (t : Turn) (f : Counters → Counters) : Turn :=
  t.edit fun n => { n with counters := f n.counters }

/-- Go on to the next sequence number. -/
def advanceSeq (t : Turn) : Turn := t.edit fun n => { n with seq := n.seq + 1 }

/-- Count a change of role against the role at the beginning. -/
def noteRole (t : Turn) (before : Degree × Option NodeId) : Turn :=
  if t.node.record.role = before then t
  else t.count fun c => { c with roleChanges := c.roleChanges + 1 }

/-! ### Timers -/

/-- Arm a timer of which the handle is not kept. -/
def schedule (t : Turn) (delay : Duration) (timer : Timer) : Turn :=
  { t with outbox := t.outbox.schedule delay timer }

/-- Keep or forget a handle. -/
def setSlot (t : Turn) (slot : Slot) (handle : Option TimerHandle) : Turn :=
  t.edit fun n => { n with slots := n.slots.set handle slot }

/-- Arm a timer and keep its handle. -/
def arm (t : Turn) (slot : Slot) (delay : Duration) (timer : Timer) : Turn :=
  (t.setSlot slot (some t.outbox.handle)).schedule delay timer

/-- Cancel the timer of which the handle is kept, if there is one. -/
def disarm (t : Turn) (slot : Slot) : Turn :=
  match t.node.slots.get slot with
  | none => t
  | some handle => { t.setSlot slot none with outbox := t.outbox.cancel handle }

/-- Arm the timer for the next transmission, unless it is armed. -/
def queueSend (t : Turn) (delay : Duration) : Turn :=
  match t.node.slots.get .send with
  | none => t.arm .send delay .send
  | some _ => t

/-! ### Packets -/

/-- Count a packet that is sent. -/
def countPacket (t : Turn) : Turn :=
  t.count fun c => { c with packetsSent := c.packetsSent + 1 }

def broadcastPacket (t : Turn) (packet : Packet) : Turn :=
  { t.countPacket with outbox := t.outbox.broadcast packet }

def broadcast (t : Turn) (message : Message) : Turn := t.broadcastPacket (Packet.single message)

def send (t : Turn) (peer : NodeId) (message : Message) : Turn :=
  { t.countPacket with outbox := t.outbox.send peer (Packet.single message) }

/-- Send a message reliably after a delay. -/
def sendReliably (t : Turn) (peer : NodeId) (message : Message) (delay : Duration) : Turn :=
  let (reliable, outbox) := t.node.reliable.arm t.outbox peer message delay
  { t.edit fun n => { n with reliable } with outbox }

/-- Give up every pending message of a kind. -/
def cancelKind (t : Turn) (kind : MessageKind) : Turn :=
  let (reliable, outbox, _) := t.node.reliable.cancelKind t.outbox kind
  { t.edit fun n => { n with reliable } with outbox }

/-- Take every pending message as acknowledged. -/
def satisfyAll (t : Turn) : Turn :=
  let (reliable, outbox, _) := t.node.reliable.satisfyAll t.outbox
  { t.edit fun n => { n with reliable } with outbox }

end Turn

end ClusterWave
