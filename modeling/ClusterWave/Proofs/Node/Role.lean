import ClusterWave.Proofs.Node.Handle

/-!
# The role of a node

A node changes its role in three ways only: it leads, it joins a head or it leaves its cluster. So
whatever it is called for, in any order and at any times, and whatever the records say that reach
it, its own record stays consistent, and what it was created with stays the same.
-/

namespace ClusterWave

namespace Record

/-- The roles that are consistent. -/
lemma isConsistent_iff {r : Record} :
    r.isConsistent ↔
      (r.degree = .head ↔ r.cluster = some r.id) ∧
        (r.degree = .member → ∃ c, r.cluster = some c ∧ c ≠ r.id) ∧
        (r.degree = .standalone → r.cluster = none) := by
  cases hd : r.degree <;> cases hc : r.cluster <;> simp [isConsistent, hd, hc]

/-- A record `r` of the node of which `r₀` was the record before its start: the role is consistent,
the head is addressed by the name of the cluster, and the rest is as it was. -/
structure Upright (r₀ r : Record) : Prop where
  consistent : r.isConsistent
  headAddress : r.headAddress = r.cluster
  id : r.id = r₀.id
  isStarter : r.isStarter = r₀.isStarter
  velocity : r.velocity = r₀.velocity

namespace Upright

variable {r₀ r : Record}

/-- Time and place do not matter. -/
lemma locate (h : r₀.Upright r) (position : Vec3) (timestamp : Timestamp) :
    r₀.Upright { r with position, timestamp } :=
  ⟨h.consistent, h.headAddress, h.id, h.isStarter, h.velocity⟩

lemma becomeHead (h : r₀.Upright r) : r₀.Upright r.becomeHead :=
  ⟨isConsistent_becomeHead r, rfl, h.id, h.isStarter, h.velocity⟩

lemma leave (h : r₀.Upright r) : r₀.Upright r.leave :=
  ⟨isConsistent_leave r, rfl, h.id, h.isStarter, h.velocity⟩

lemma join (h : r₀.Upright r) (head : NodeId) : r₀.Upright (r.join head) := by
  by_cases he : head = r.id
  · rw [Record.join, if_pos he]
    exact h.becomeHead
  · refine ⟨isConsistent_join r head, ?_, ?_, ?_, ?_⟩ <;> rw [Record.join, if_neg he]
    · rfl
    · exact h.id
    · exact h.isStarter
    · exact h.velocity

end Upright

end Record

/-- No move copies a role from elsewhere. -/
lemma Move.upright {n₀ : Node} {v : Visit} {t t' : Turn} {r₀ : Record} (m : Move n₀ v t t')
    (h : r₀.Upright t.node.record) : r₀.Upright t'.node.record := by
  cases m with
  | locate => exact h.locate _ _
  | lead => exact h.becomeHead
  | join head => exact h.join head
  | leave => exact h.leave
  | disarm =>
    rw [Turn.node_disarm]
    exact h
  | retransmit =>
    rw [Turn.node_retransmit]
    exact h
  | startFirst =>
    rw [Turn.node_startFirst]
    exact h
  | startAlone =>
    rw [Turn.startAlone, Turn.node_scheduleActivation]
    exact h
  | adopt | relax =>
    rw [Turn.node_scheduleActivation]
    exact h
  | activate =>
    rw [Turn.node_activate]
    exact h
  | _ => exact h

namespace Node

lemma upright_visit {n : Node} {r₀ : Record} (h : r₀.Upright n.record) (v : Visit) :
    r₀.Upright (n.visit v).node.record :=
  (moves_visit n v).induct (P := fun t => r₀.Upright t.node.record) h fun _ _ h m => m.upright h

lemma upright_after {n : Node} {r₀ : Record} (h : r₀.Upright n.record) (vs : List Visit) :
    r₀.Upright (n.after vs).record := by
  induction vs generalizing n with
  | nil => exact h
  | cons v vs ih => exact ih (upright_visit h v)

/-- The record with which a node begins. -/
lemma record_create {id : NodeId} {settings : Settings} {isStarter : Bool}
    {velocity : Option Vec2} {n : Node} (h : create id settings isStarter velocity = .ok n) :
    n.record = { Record.lone id Vec3.zero Timestamp.start with isStarter, velocity } := by
  simp only [create] at h
  split at h
  · cases h
  · cases h
    rfl

/-- A node that has been created keeps its record upright through every sequence of visits. -/
lemma upright_of_create {id : NodeId} {settings : Settings} {isStarter : Bool}
    {velocity : Option Vec2} {n : Node} (h : create id settings isStarter velocity = .ok n)
    (vs : List Visit) : n.record.Upright (n.after vs).record := by
  refine upright_after ⟨?_, ?_, rfl, rfl, rfl⟩ vs <;> rw [record_create h]
  · rfl
  · rfl

end Node

end ClusterWave
