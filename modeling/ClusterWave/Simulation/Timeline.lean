import ClusterWave.Node.State
import ClusterWave.Simulation.Channel

/-!
# The timeline of a simulation

A timeline lists what has happened in a run, in order.
-/

namespace ClusterWave

inductive Occurrence where
  | statusChanged (node : NodeId) (before after : Status) (time : Timestamp)
  | roleChanged (node : NodeId) (degree : Degree) (cluster : Option NodeId) (time : Timestamp)
  | delivered (sender receiver : NodeId) (kinds : List MessageKind) (time : Timestamp)
  | dropped (sender receiver : NodeId) (kinds : List MessageKind) (reason : DropReason)
      (time : Timestamp)
  | activated (node : NodeId) (position : Vec3) (time : Timestamp)
  | departed (node : NodeId) (time : Timestamp)
deriving DecidableEq

def Occurrence.time : Occurrence → Timestamp
  | .statusChanged _ _ _ time => time
  | .roleChanged _ _ _ time => time
  | .delivered _ _ _ time => time
  | .dropped _ _ _ _ time => time
  | .activated _ _ time => time
  | .departed _ time => time

structure Timeline where
  occurrences : Array Occurrence
deriving DecidableEq

namespace Timeline

def empty : Timeline := ⟨#[]⟩

def ofList (os : List Occurrence) : Timeline := ⟨os.toArray⟩

def toList (t : Timeline) : List Occurrence := t.occurrences.toList

def push (t : Timeline) (o : Occurrence) : Timeline := ⟨t.occurrences.push o⟩

@[simp] theorem toList_empty : empty.toList = [] := rfl

@[simp] theorem toList_push (t : Timeline) (o : Occurrence) :
    (t.push o).toList = t.toList ++ [o] := by
  simp [push, toList]

def size (t : Timeline) : Nat := t.occurrences.size

def isEmpty (t : Timeline) : Bool := t.occurrences.isEmpty

/-! ### Queries -/

/-- The activations with their times. -/
def activations (t : Timeline) : List (NodeId × Timestamp) :=
  t.toList.filterMap fun
    | .activated node _ time => some (node, time)
    | _ => none

/-- When packets with a kind of message reached a node from another one. -/
def deliveries (t : Timeline) (sender receiver : NodeId) (kind : MessageKind) : List Timestamp :=
  t.toList.filterMap fun
    | .delivered s r kinds time =>
      if s = sender ∧ r = receiver ∧ kind ∈ kinds then some time else none
    | _ => none

/-- When packets with a kind of message reached a node from another one, or were dropped. -/
def transmissions (t : Timeline) (sender receiver : NodeId) (kind : MessageKind) :
    List Timestamp :=
  t.toList.filterMap fun
    | .delivered s r kinds time =>
      if s = sender ∧ r = receiver ∧ kind ∈ kinds then some time else none
    | .dropped s r kinds _ time =>
      if s = sender ∧ r = receiver ∧ kind ∈ kinds then some time else none
    | _ => none

/-- The statuses that a node has entered. -/
def statuses (t : Timeline) (node : NodeId) : List (Status × Timestamp) :=
  t.toList.filterMap fun
    | .statusChanged n _ after time => if n = node then some (after, time) else none
    | _ => none

end Timeline

end ClusterWave
