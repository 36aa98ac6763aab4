import ClusterWave.Proofs.Node.Handle
import ClusterWave.Proofs.Time

/-!
# The ratchet of a schedule

The times of a schedule move in one direction only. Whatever a node is called for, in any order and
at any times, neither its own start nor that of its cluster gets later, and a start of the cluster
is replaced by one that still lies ahead, at a known node.
-/

namespace ClusterWave

namespace Schedule

variable {s : Schedule} {candidate now : Timestamp}

/-- A start that is adopted is the start of the node from then on. -/
lemma adoptStart_of_ahead (h : now < candidate ∧ candidate ≤ s.start) (node : NodeId) :
    (s.adoptStart candidate node now).2 = true ∧
      (s.adoptStart candidate node now).1.start = candidate := by
  rw [adoptStart, if_pos h]
  split <;> exact ⟨rfl, rfl⟩

lemma adoptStart_of_not (h : ¬ (now < candidate ∧ candidate ≤ s.start)) (node : NodeId) :
    s.adoptStart candidate node now = (s, false) := if_neg h

end Schedule

/-- How a schedule may change at a given time. -/
structure Schedule.Ratchet (now : Timestamp) (s s' : Schedule) : Prop where
  start : s'.start ≤ s.start
  firstStart : s'.firstStart ≤ s.firstStart
  firstNode : s.firstNode.isSome → s'.firstNode.isSome
  ahead : s'.firstStart ≠ s.firstStart → now < s'.firstStart ∧ s'.firstNode.isSome

namespace Schedule.Ratchet

variable {now : Timestamp} {s s' s'' : Schedule}

lemma refl (s : Schedule) : Ratchet now s s :=
  ⟨Timestamp.le_refl _, Timestamp.le_refl _, id, fun h => absurd rfl h⟩

lemma trans (h : Ratchet now s s') (h' : Ratchet now s' s'') : Ratchet now s s'' := by
  refine ⟨Timestamp.le_trans h'.start h.start, Timestamp.le_trans h'.firstStart h.firstStart,
    h'.firstNode ∘ h.firstNode, fun hne => ?_⟩
  by_cases he : s''.firstStart = s'.firstStart
  · rw [he] at hne ⊢
    exact ⟨(h.ahead hne).1, h'.firstNode (h.ahead hne).2⟩
  · exact h'.ahead he

/-- Directions are free to change. -/
lemma direction (s : Schedule) (d : Option Vec2) : Ratchet now s { s with direction := d } :=
  ⟨Timestamp.le_refl _, Timestamp.le_refl _, id, fun h => absurd rfl h⟩

/-! ### Operations -/

lemma earlierStart {candidate : Timestamp} (h : candidate ≤ s.start) :
    Ratchet now s { s with start := candidate } :=
  ⟨h, Timestamp.le_refl _, id, fun hne => absurd rfl hne⟩

lemma earlierFirstStart {candidate : Timestamp} (node : NodeId) (hnow : now < candidate)
    (h : candidate ≤ s.firstStart) :
    Ratchet now s { s with firstStart := candidate, firstNode := some node } :=
  ⟨Timestamp.le_refl _, h, fun _ => rfl, fun _ => ⟨hnow, rfl⟩⟩

lemma adoptStart (s : Schedule) (candidate : Timestamp) (node : NodeId) (now : Timestamp) :
    Ratchet now s (s.adoptStart candidate node now).1 := by
  simp only [Schedule.adoptStart]
  split
  · rename_i h
    split
    · rename_i hf
      exact (earlierStart h.2).trans (earlierFirstStart node h.1 hf)
    · exact earlierStart h.2
  · exact refl s

lemma relaxFirstStart (s : Schedule) (candidate : Timestamp) (node : NodeId) (now : Timestamp) :
    Ratchet now s (s.relaxFirstStart candidate node now).1 := by
  simp only [Schedule.relaxFirstStart]
  split
  · rename_i h
    exact earlierFirstStart node h.1 (Timestamp.le_of_lt h.2)
  · exact refl s

lemma startWithCluster (s : Schedule) : Ratchet now s s.startWithCluster.1 := by
  simp only [Schedule.startWithCluster]
  split
  · rename_i h
    exact earlierStart (Timestamp.le_of_lt h)
  · exact refl s

end Schedule.Ratchet

open Schedule (Ratchet)

/-! ### Runs -/

section

variable {n : Node} {v : Visit} {t t' : Turn}

/-- No move turns a schedule back. -/
lemma Move.ratchet (h : Move n v t t') : Ratchet t.now t.node.schedule t'.node.schedule := by
  cases h with
  | direction => exact .direction _ _
  | relaxFirst node ho hnow hlt => exact .earlierFirstStart node hnow (Timestamp.le_of_lt hlt)
  | startFirst =>
    rw [Turn.node_startFirst]
    exact .startWithCluster _
  | startAlone =>
    rw [Turn.startAlone, Turn.node_scheduleActivation]
    exact ((Ratchet.relaxFirstStart _ _ _ _).trans (.startWithCluster _)).trans (.direction _ _)
  | adopt =>
    rw [Turn.node_scheduleActivation]
    exact .adoptStart _ _ _ _
  | relax hm travel d hnow hlt =>
    rw [Turn.node_scheduleActivation]
    exact (Ratchet.earlierStart (Timestamp.le_of_lt hlt)).trans (.direction _ _)
  | disarm =>
    rw [Turn.node_disarm]
    exact .refl _
  | retransmit =>
    rw [Turn.node_retransmit]
    exact .refl _
  | activate =>
    rw [Turn.node_activate]
    exact .refl _
  | _ => exact .refl _

lemma Moves.ratchet (h : Moves n v t t') : Ratchet t.now t.node.schedule t'.node.schedule := by
  refine (h.induct (P := fun u =>
    u.now = t.now ∧ Ratchet t.now t.node.schedule u.node.schedule) ⟨rfl, .refl _⟩ ?_).2
  rintro u u' ⟨hn, hu⟩ m
  exact ⟨m.alike.now.trans hn, hu.trans (hn ▸ m.ratchet)⟩

end

namespace Node

/-- No visit turns a schedule back. -/
lemma ratchet_visit (n : Node) (v : Visit) :
    Ratchet v.now n.schedule (n.visit v).node.schedule := (moves_visit n v).ratchet

lemma schedule_after_le (n : Node) (vs : List Visit) :
    (n.after vs).schedule.start ≤ n.schedule.start ∧
      (n.after vs).schedule.firstStart ≤ n.schedule.firstStart := by
  induction vs generalizing n with
  | nil => exact ⟨Timestamp.le_refl _, Timestamp.le_refl _⟩
  | cons v vs ih =>
    obtain ⟨hs, hf⟩ := ih (n.visit v).node
    have hv := n.ratchet_visit v
    exact ⟨Timestamp.le_trans hs hv.start, Timestamp.le_trans hf hv.firstStart⟩

/-- In every run, neither start of a node ever gets later, and a visit that moves the start of the
cluster moves it to a time ahead, at a known node. -/
theorem schedule_ratchets (n : Node) (vs ws : List Visit) (v : Visit) :
    (n.after (vs ++ ws)).schedule.start ≤ (n.after vs).schedule.start ∧
      (n.after (vs ++ ws)).schedule.firstStart ≤ (n.after vs).schedule.firstStart ∧
      ((n.after (vs ++ [v])).schedule.firstStart ≠ (n.after vs).schedule.firstStart →
        v.now < (n.after (vs ++ [v])).schedule.firstStart ∧
          (n.after (vs ++ [v])).schedule.firstNode.isSome) := by
  rw [after_append, after_append]
  obtain ⟨hs, hf⟩ := (n.after vs).schedule_after_le ws
  exact ⟨hs, hf, ((n.after vs).ratchet_visit v).ahead⟩

end Node

end ClusterWave
