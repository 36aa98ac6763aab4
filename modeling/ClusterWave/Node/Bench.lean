import ClusterWave.Node.Handler

/-!
# A node on its own

A bench runs a single node: it has a clock, keeps the timers that the node arms and writes down what
the node sends. Timers fire in the order of their due times, and of equal ones in the order in which
they were armed.
-/

namespace ClusterWave

/-- An armed timer. -/
structure Alarm where
  due : Timestamp
  handle : TimerHandle
  timer : Timer
deriving DecidableEq

namespace Alarm

/-- Whether an alarm goes off before another one. -/
def before (a b : Alarm) : Bool :=
  decide (a.due < b.due) || (a.due == b.due && decide (a.handle.val < b.handle.val))

/-- Put an alarm into a list in the order in which alarms go off. -/
def insert (a : Alarm) : List Alarm → List Alarm
  | [] => [a]
  | b :: rest => if a.before b then a :: b :: rest else b :: insert a rest

/-- Carry an effect out on the alarms, at a given time. -/
def apply (now : Timestamp) (alarms : List Alarm) : Effect → List Alarm
  | .schedule handle delay timer => insert ⟨now + delay, handle, timer⟩ alarms
  | .cancel handle => alarms.filter fun a => a.handle != handle
  | _ => alarms

end Alarm

/-- What is written down about a node. -/
inductive Note where
  | broadcast (packet : Packet)
  | send (peer : NodeId) (packet : Packet)
  | fired (due : Timestamp) (timer : Timer)
deriving DecidableEq

/-- The note that an effect leaves. -/
def Note.ofEffect? : Effect → Option Note
  | .broadcast packet => some (.broadcast packet)
  | .send peer packet => some (.send peer packet)
  | _ => none

structure Bench where
  node : Node
  now : Timestamp
  position : Vec3
  nextHandle : Nat
  alarms : List Alarm
  /-- What was written down, last one first. -/
  notes : List Note
deriving DecidableEq

namespace Bench

/-- A node that was not started yet. -/
def setUp (node : Node) (position : Vec3) : Bench :=
  { node, now := Timestamp.start, position, nextHandle := 1, alarms := [], notes := [] }

/-- Let the node handle a call and carry out what it asks for. -/
def call (b : Bench) (c : Call) : Bench :=
  let turn := (Turn.start b.node b.now b.position b.nextHandle).handle c
  let effects := turn.outbox.effects
  { b with
    node := turn.node
    nextHandle := turn.outbox.nextHandle
    alarms := effects.foldl (Alarm.apply b.now) b.alarms
    notes := (effects.filterMap Note.ofEffect?).reverse ++ b.notes }

/-- Let the first alarm go off, if it is due by `limit`. The clock goes to its due time. -/
def fireNext? (b : Bench) (limit : Timestamp) : Option Bench :=
  match b.alarms with
  | [] => none
  | a :: rest =>
    if a.due ≤ limit then
      some ({ b with now := a.due, alarms := rest, notes := .fired a.due a.timer :: b.notes }.call
        (.timer a.timer))
    else none

/-- Let alarms go off until none is due by `limit`, at most `fuel` of them, then set the clock to
`limit`. There is no answer if more of them are due. -/
def runUntil? (limit : Timestamp) : Nat → Bench → Option Bench
  | 0, _ => none
  | fuel + 1, b =>
    match b.fireNext? limit with
    | none => some { b with now := limit }
    | some b => runUntil? limit fuel b

end Bench

end ClusterWave
