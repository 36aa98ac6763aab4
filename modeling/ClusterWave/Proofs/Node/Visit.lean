import ClusterWave.Node.Handler
import Mathlib.Tactic.Lemma

/-!
# Visits

A visit is a call of a node together with what its surroundings tell it: the time, the place and the
handle of the timer that it may arm next. A node can be visited in any order and at any times;
`Node.after` is what has become of it by then.
-/

namespace ClusterWave

/-- A call with its surroundings. -/
structure Visit where
  now : Timestamp
  position : Vec3
  nextHandle : Nat
  call : Call
deriving DecidableEq

namespace Visit

/-- A timer goes off at a node that does not move. -/
def rings (millis : UInt64) (nextHandle : Nat) (timer : Timer) : Visit :=
  ⟨.ofMillis millis, Vec3.zero, nextHandle, .timer timer⟩

/-- A message arrives at a node that does not move. -/
def hears (millis : UInt64) (nextHandle : Nat) (sender : NodeId) (m : Message) : Visit :=
  ⟨.ofMillis millis, Vec3.zero, nextHandle, .packet sender (Packet.single m)⟩

end Visit

/-- The turn in which a node handles a visit. -/
def Node.visit (n : Node) (v : Visit) : Turn :=
  (Turn.start n v.now v.position v.nextHandle).handle v.call

/-- The node after some visits, first one first. -/
def Node.after (n : Node) (vs : List Visit) : Node := vs.foldl (fun n v => (n.visit v).node) n

namespace Node

@[simp] theorem after_nil (n : Node) : n.after [] = n := rfl

@[simp] theorem after_cons (n : Node) (v : Visit) (vs : List Visit) :
    n.after (v :: vs) = (n.visit v).node.after vs := rfl

theorem after_append (n : Node) (vs ws : List Visit) :
    n.after (vs ++ ws) = (n.after vs).after ws := List.foldl_append

end Node

/-- Whether a node has been created and not been visited yet. -/
def Node.IsNew (n : Node) : Prop :=
  ∃ id settings isStarter velocity, Node.create id settings isStarter velocity = .ok n

/-- Where a list is cut that has one more element at its end: there, or where it was cut before. -/
lemma cut_append_singleton {α : Type} {l before after : List α} {a x : α}
    (h : l ++ [a] = before ++ x :: after) :
    (before = l ∧ x = a ∧ after = []) ∨ ∃ rest, after = rest ++ [a] ∧ l = before ++ x :: rest := by
  rcases List.eq_nil_or_concat after with rfl | ⟨rest, b, rfl⟩
  · obtain ⟨rfl, hx⟩ := List.append_inj' h rfl
    exact .inl ⟨rfl, (List.singleton_inj.1 hx).symm, rfl⟩
  · rw [List.concat_eq_append] at h ⊢
    rw [← List.cons_append, ← List.append_assoc] at h
    obtain ⟨rfl, hb⟩ := List.append_inj' h rfl
    rw [List.singleton_inj.1 hb]
    exact .inr ⟨rest, rfl, rfl⟩

lemma eq_ok_of_toOption {ε α : Type} {e : Except ε α} {a : α} (h : e.toOption = some a) :
    e = .ok a := by
  cases e with
  | error => cases h
  | ok b => exact congrArg Except.ok (Option.some.inj h)

lemma Node.IsNew.of_toOption {n : Node} {id : NodeId} {settings : Settings} {isStarter : Bool}
    {velocity : Option Vec2} (h : (Node.create id settings isStarter velocity).toOption = some n) :
    n.IsNew := ⟨id, settings, isStarter, velocity, eq_ok_of_toOption h⟩

/-- A new node has nothing scheduled, pending or armed, and has not activated. -/
lemma Node.IsNew.blank {n : Node} (h : n.IsNew) : n.schedule = .idle ∧
    n.reliable.pending = .empty ∧ n.counters = .zero ∧ n.slots = .empty := by
  obtain ⟨id, settings, isStarter, velocity, h⟩ := h
  simp only [Node.create] at h
  split at h
  · cases h
  · cases h
    exact ⟨rfl, rfl, rfl, rfl⟩

/-- A new node waits for clustering to begin, and stands alone. -/
lemma Node.IsNew.waiting {n : Node} (h : n.IsNew) :
    n.status = .init ∧ n.clustering = false ∧ n.record.isStandalone := by
  obtain ⟨id, settings, isStarter, velocity, h⟩ := h
  simp only [Node.create] at h
  split at h
  · cases h
  · cases h
    exact ⟨rfl, rfl, rfl⟩

/-- A new node knows no other nodes. -/
lemma Node.IsNew.registry {n : Node} (h : n.IsNew) : n.registry = .empty := by
  obtain ⟨id, settings, isStarter, velocity, h⟩ := h
  simp only [Node.create] at h
  split at h
  · cases h
  · cases h
    rfl

/-! ### What a node is visited for -/

/-- What a node does when it is started. -/
lemma Node.visit_of_start (n : Node) {v : Visit} (hv : v.call = .start) :
    n.visit v = (Turn.start n v.now v.position v.nextHandle).onStart := by
  rw [Node.visit, hv]
  rfl

/-- What a node does when a timer goes off. -/
lemma Node.visit_timer (n : Node) {v : Visit} {timer : Timer} (hv : v.call = .timer timer) :
    n.visit v = ((Turn.start n v.now v.position v.nextHandle).locate.fire timer).noteRole
      n.record.role := by
  rw [Node.visit, hv]
  rfl

/-- The turn in which a packet has arrived. -/
def Turn.receive (t : Turn) : Turn :=
  t.locate.count fun c => { c with packetsReceived := c.packetsReceived + 1 }

/-- What a node does when a packet arrives. -/
lemma Node.visit_of_packet (n : Node) {v : Visit} {sender : NodeId} {packet : Packet}
    (hv : v.call = .packet sender packet) :
    n.visit v = (packet.messages.foldl (Turn.onMessage sender)
      (Turn.start n v.now v.position v.nextHandle).receive).noteRole n.record.role := by
  rw [Node.visit, hv]
  rfl

/-- What a node does when a packet with a single message arrives. -/
lemma Node.visit_single (n : Node) {v : Visit} {sender : NodeId} {m : Message}
    (hv : v.call = .packet sender (Packet.single m)) :
    n.visit v = ((Turn.start n v.now v.position v.nextHandle).receive.onMessage sender m).noteRole
      n.record.role := n.visit_of_packet hv

/-- What a node does when a message is to be sent again. -/
lemma Node.visit_eq_retransmit (n : Node) {v : Visit} {peer : NodeId} {kind : MessageKind}
    (hv : v.call = .timer (.retransmit peer kind)) :
    n.visit v = ((Turn.start n v.now v.position v.nextHandle).locate.retransmit peer kind).noteRole
      n.record.role := n.visit_timer hv

/-! ### What a visit is about -/

/-- The messages that arrive with a visit. -/
def Visit.messages (v : Visit) : List Message :=
  match v.call with
  | .packet _ packet => packet.messages
  | _ => []

/-- Whether a message arrives with a visit. -/
def Visit.Brings (v : Visit) (m : Message) : Prop := m ∈ v.messages

instance (v : Visit) (m : Message) : Decidable (v.Brings m) :=
  inferInstanceAs (Decidable (m ∈ v.messages))

lemma Visit.brings_iff {v : Visit} {m : Message} : v.Brings m ↔
    ∃ sender packet, v.call = .packet sender packet ∧ m ∈ packet.messages := by
  unfold Brings messages
  constructor
  · intro h
    split at h
    · rename_i sender packet hv
      exact ⟨sender, packet, hv, h⟩
    · cases h
  · rintro ⟨sender, packet, hv, h⟩
    rw [hv]
    exact h

namespace Message

/-- The start of a wavefront that a message tells of. -/
def startTime? : Message → Option Timestamp
  | .interCluster _ _ _ _ _ startTime => some startTime
  | .intraCluster _ _ _ startTime _ => some startTime
  | .interNode _ _ _ _ startTime => some startTime
  | _ => none

/-- Where the acknowledgment of a message goes, if it asks for one. -/
def replyTo? : Message → Option NodeId
  | .densityMap _ _ r _ => some r.id
  | .interCluster _ cluster _ _ _ _ => some cluster
  | _ => none

def seq? : Message → Option UInt64
  | .clusterInfo seq _ => some seq
  | .initiateCluster seq _ _ => some seq
  | .formCluster seq _ => some seq
  | .neighborCluster seq _ _ => some seq
  | .densityMap seq _ _ _ => some seq
  | .interCluster seq _ _ _ _ _ => some seq
  | .intraCluster seq _ _ _ _ => some seq
  | .interNode seq _ _ _ _ => some seq
  | .ack seq _ _ => some seq
  | .incident .. => none

/-- Whether a map that a message carries has as many cells as it should. -/
def isWellShaped : Message → Bool
  | .densityMap _ _ _ map => map.checkShape.toOption.isSome
  | _ => true

/-- Whether a message neither tells of a start nor has to do with acknowledgments. -/
def isPlain : Message → Bool
  | .clusterInfo .. | .initiateCluster .. | .formCluster .. | .neighborCluster .. => true
  | .incident .. => true
  | _ => false

end Message

/-- The start that a node offers for a wavefront of its own: when clustering ends, or when the
exchange of maps is over. -/
def Node.origination? (n : Node) (v : Visit) : Option Timestamp :=
  match v.call with
  | .timer .stop =>
    if n.record.isStandalone ∧ n.record.isStarter then some (v.now + n.settings.startLead) else none
  | .timer .decide =>
    ((Turn.starter? n).bind Record.velocity).map fun _ => v.now + n.settings.startLead
  | _ => none

end ClusterWave
