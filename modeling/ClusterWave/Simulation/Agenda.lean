import ClusterWave.Node.Outbox

/-!
# The agenda of a simulation

Events take place in the order of their due times, and of equal ones in the order in which they were
put in. A cancelled timer stays in the agenda and is skipped when it comes due.
-/

namespace ClusterWave

inductive Event where
  | timer (node : NodeId) (handle : TimerHandle) (timer : Timer)
  /-- An encoded packet arrives. -/
  | delivery (receiver sender : NodeId) (data : List UInt8)
  /-- A node leaves for good. -/
  | departure (node : NodeId)
deriving DecidableEq

/-- An event with its due time and its number. -/
structure Appointment where
  time : Timestamp
  seq : Nat
  event : Event
deriving DecidableEq

namespace Appointment

/-- Whether an appointment comes before another one. -/
def before (a b : Appointment) : Bool :=
  decide (a.time < b.time) || (a.time == b.time && decide (a.seq < b.seq))

/-- The more urgent appointment is the greater one. -/
def urgency (a b : Appointment) : Ordering :=
  if a.before b then .gt else if b.before a then .lt else .eq

/-- The handle of a timer. -/
def handle? (a : Appointment) : Option TimerHandle :=
  match a.event with
  | .timer _ handle _ => some handle
  | _ => none

/-- Put an appointment into a list in the order in which events take place. -/
def insert (a : Appointment) : List Appointment → List Appointment
  | [] => [a]
  | b :: rest => if a.before b then a :: b :: rest else b :: insert a rest

end Appointment

structure Agenda where
  /-- What is to come, in order. -/
  appointments : List Appointment
  /-- The timers that were cancelled and not skipped yet. -/
  cancelled : List TimerHandle
  nextSeq : Nat
  nextHandle : Nat
deriving DecidableEq

namespace Agenda

def empty : Agenda := ⟨[], [], 0, 0⟩

/-- Put an event in. -/
def push (g : Agenda) (time : Timestamp) (event : Event) : Agenda :=
  { g with
    appointments := Appointment.insert ⟨time, g.nextSeq, event⟩ g.appointments
    nextSeq := g.nextSeq + 1 }

/-- Arm a timer of a node, under the next handle. -/
def scheduleTimer (g : Agenda) (node : NodeId) (now : Timestamp) (delay : Duration)
    (timer : Timer) : Agenda :=
  { g with nextHandle := g.nextHandle + 1 }.push (now + delay) (.timer node ⟨g.nextHandle⟩ timer)

/-- Cancel a timer, if its handle was given out. -/
def cancel (g : Agenda) (handle : TimerHandle) : Agenda :=
  if handle.val < g.nextHandle then { g with cancelled := g.cancelled.insert handle } else g

/-- The first appointment due by a time that is not cancelled, and what is left after it. -/
def takeDue (limit : Timestamp) (cancelled : List TimerHandle) :
    List Appointment → Option Appointment × List Appointment × List TimerHandle
  | [] => (none, [], cancelled)
  | a :: rest =>
    if limit < a.time then (none, a :: rest, cancelled)
    else
      match a.handle? with
      | some handle =>
        if cancelled.contains handle then takeDue limit (cancelled.erase handle) rest
        else (some a, rest, cancelled)
      | none => (some a, rest, cancelled)

/-- Take the next event out, if one is due by a time. -/
def popDue (g : Agenda) (limit : Timestamp) : Option Appointment × Agenda :=
  let (found, appointments, cancelled) := takeDue limit g.cancelled g.appointments
  (found, { g with appointments, cancelled })

/-- Take the next event out. -/
def pop (g : Agenda) : Option Appointment × Agenda := g.popDue Timestamp.never

/-- The due time of what comes next, cancelled or not. -/
def nextTime? (g : Agenda) : Option Timestamp := g.appointments.head?.map Appointment.time

/-- How much is in the agenda, cancelled timers included. -/
def size (g : Agenda) : Nat := g.appointments.length

def isEmpty (g : Agenda) : Bool := g.appointments.isEmpty

/-- Carry out what a node asks of its timers. -/
def apply (node : NodeId) (now : Timestamp) (g : Agenda) : Effect → Agenda
  | .schedule _ delay timer => g.scheduleTimer node now delay timer
  | .cancel handle => g.cancel handle
  | _ => g

end Agenda

end ClusterWave
