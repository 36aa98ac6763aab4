import ClusterWave.Proofs.Node.Asked
import ClusterWave.Proofs.Node.Pending
import ClusterWave.Proofs.Wavefront.Exchange

/-!
# Density maps at a node

A node draws the map of its own cluster when clustering ends, and at no other time. What it then
takes up for other clusters is this map, under its own name; whatever is sent again is what was
taken up. The maps of other clusters are kept as they arrive, under the name that they bear.
-/

namespace ClusterWave

variable {n n₀ : Node} {v : Visit} {t t' : Turn} {key : NodeId × MessageKind} {p : Pending}

/-! ### The own map and those of others -/

lemma Move.ownMap_eq (m : Move n₀ v t t') (hv : v.call ≠ .timer .stop) :
    t'.node.ownMap = t.node.ownMap := by
  cases m with
  | ownMap _ hs => exact absurd hs hv
  | disarm => rw [Turn.node_disarm]
  | retransmit => rw [Turn.node_retransmit]
  | startFirst => rw [Turn.node_startFirst]
  | startAlone hs => exact absurd hs hv
  | adopt | relax =>
    rw [Turn.node_scheduleActivation]
    rfl
  | activate =>
    rw [Turn.node_activate]
    rfl
  | _ => rfl

/-- The map of the own cluster changes at the end of clustering only. -/
lemma Node.ownMap_visit (n : Node) (hv : v.call ≠ .timer .stop) :
    (n.visit v).node.ownMap = n.ownMap :=
  (moves_visit n v).induct (P := fun t => t.node.ownMap = n.ownMap) rfl
    fun _ _ h m => (m.ownMap_eq hv).trans h

lemma Move.neighborMaps (m : Move n₀ v t t') {c : NodeId} {map : DensityMap}
    (h : t'.node.neighborMaps.get? c = some map) :
    t.node.neighborMaps.get? c = some map ∨
      map.checkShape = .ok () ∧ ∃ seq r, v.Brings (.densityMap seq c r map) := by
  cases m with
  | keepMap hm hshape =>
    have h' : (t.node.neighborMaps.insert _ _).get? c = some map := h
    rcases Table.of_get?_insert h' with ⟨rfl, rfl⟩ | ⟨-, h'⟩
    · exact .inr ⟨hshape, _, _, hm⟩
    · exact .inl h'
  | forgetMaps keep =>
    have h' : (t.node.neighborMaps.filter keep).get? c = some map := h
    rw [Table.get?_filter, Option.filter_eq_some_iff] at h'
    exact .inl h'.1
  | disarm =>
    rw [Turn.node_disarm] at h
    exact .inl h
  | retransmit =>
    rw [Turn.node_retransmit] at h
    exact .inl h
  | startFirst =>
    rw [Turn.node_startFirst] at h
    exact .inl h
  | startAlone =>
    rw [Turn.startAlone, Turn.node_scheduleActivation] at h
    exact .inl h
  | adopt | relax =>
    rw [Turn.node_scheduleActivation] at h
    exact .inl h
  | activate =>
    rw [Turn.node_activate] at h
    exact .inl h
  | _ => exact .inl h

/-- A map that a node keeps was there before, or it has just arrived under this name and has passed
the check of its shape. -/
lemma Node.neighborMaps_visit (n : Node) (v : Visit) {c : NodeId} {map : DensityMap}
    (h : (n.visit v).node.neighborMaps.get? c = some map) :
    n.neighborMaps.get? c = some map ∨
      map.checkShape = .ok () ∧ ∃ seq r, v.Brings (.densityMap seq c r map) := by
  refine (moves_visit n v).induct (P := fun t => t.node.neighborMaps.get? c = some map →
    n.neighborMaps.get? c = some map ∨
      map.checkShape = .ok () ∧ ∃ seq r, v.Brings (.densityMap seq c r map)) .inl ?_ h
  intro t t' ih m h
  rcases m.neighborMaps h with h | h
  · exact ih h
  · exact .inr h

lemma Node.IsNew.maps (h : n.IsNew) : n.ownMap = none ∧ n.neighborMaps = .empty := by
  obtain ⟨id, settings, isStarter, velocity, h⟩ := h
  simp only [Node.create] at h
  split at h
  · cases h
  · cases h
    exact ⟨rfl, rfl⟩

/-! ### Pending maps -/

namespace Turn

/-- What is pending after maps were taken up was pending before, or it is such a map. -/
lemma pending_sendMaps (map : DensityMap) (peers : List NodeId) (acc : Turn × Duration)
    (h : (peers.foldl (sendMap map) acc).1.node.reliable.pending.get? key = some p) :
    acc.1.node.reliable.pending.get? key = some p ∨
      ∃ seq, p.message = .densityMap seq acc.1.node.id acc.1.node.record map := by
  induction peers generalizing acc with
  | nil => exact .inl h
  | cons peer peers ih =>
    rcases ih (sendMap map acc peer) h with h | h
    · have h' : (acc.1.node.reliable.pending.insert (peer, .densityMap)
          ⟨.densityMap acc.1.advanceSeq.node.seq acc.1.node.id acc.1.node.record map, 0,
            acc.1.outbox.handle⟩).get? key = some p := h
      rcases Table.of_get?_insert h' with ⟨rfl, rfl⟩ | ⟨-, h'⟩
      · exact .inr ⟨_, rfl⟩
      · exact .inl h'
    · exact .inr h

/-- When clustering ends, the maps that are taken up are the own map. -/
lemma pending_endClustering (h : t.endClustering.node.reliable.pending.get? key = some p) :
    t.node.reliable.pending.get? key = some p ∨
      ∃ seq offsets, p.message = .densityMap seq t.node.id t.node.record
          (.estimate t.node.settings.grid offsets) ∧
        t.endClustering.node.ownMap = some (.estimate t.node.settings.grid offsets) := by
  have hu : t.unclustered.node.reliable = t.node.reliable := by rw [t.node_unclustered]
  have hr : t.unclustered.node.record = t.node.record := by rw [t.node_unclustered]
  by_cases hh : t.node.record.isHead
  · rw [endClustering_of_isHead hh] at h ⊢
    have hown : DensityMap.estimate t.unclustered.node.settings.grid
        (memberOffsets t.unclustered.node) =
          .estimate t.node.settings.grid (memberOffsets t.node) := by
      rw [t.node_unclustered]
      rfl
    rcases pending_sendMaps _ _ (t.unclustered.setStatus .exchangeMaps, Duration.zero) h
      with h | ⟨seq, h⟩
    · exact .inl (hu ▸ h)
    · refine .inr ⟨seq, _, ?_, rfl⟩
      rw [h, hown]
      show Message.densityMap seq t.unclustered.node.record.id t.unclustered.node.record _ = _
      rw [hr]
      rfl
  · refine .inl ?_
    simp only [endClustering] at h
    split at h
    · rename_i hd
      have hd : t.unclustered.node.record.degree = .head := hd
      rw [hr] at hd
      exact absurd (beq_iff_eq.2 hd) hh
    · exact hu ▸ h
    · split at h
      · rw [startAlone, node_scheduleActivation] at h
        exact hu ▸ h
      · exact hu ▸ h

end Turn

/-- A map that is pending after a visit was pending before, under whatever peer, or the visit was
the end of clustering and it is the own map. -/
lemma Node.pending_visit_map (n : Node) (v : Visit) {seq : UInt64} {c : NodeId} {r : Record}
    {map : DensityMap} (hp : (n.visit v).node.reliable.pending.get? key = some p)
    (hm : p.message = .densityMap seq c r map) :
    (∃ key q, n.reliable.pending.get? key = some q ∧ q.message = .densityMap seq c r map) ∨
      v.call = .timer .stop ∧ c = n.id ∧ (n.visit v).node.ownMap = some map ∧
        ∃ offsets, map = .estimate n.settings.grid offsets := by
  by_cases hv : v.call = .timer .stop
  · rw [n.visit_timer hv, Turn.node_noteRole] at hp ⊢
    rcases Turn.pending_endClustering hp with hp | ⟨seq', offsets, hm', hown⟩
    · exact .inl ⟨key, p, hp, hm⟩
    · rw [hm] at hm'
      obtain ⟨-, rfl, -, rfl⟩ := Message.densityMap.inj hm'
      exact .inr ⟨hv, rfl, hown, offsets, rfl⟩
  · refine .inl ((moves_visit n v).induct (P := fun t => ∀ key p,
      t.node.reliable.pending.get? key = some p → p.message = .densityMap seq c r map →
        ∃ key q, n.reliable.pending.get? key = some q ∧ q.message = .densityMap seq c r map)
      (fun key p hp hm => ⟨key, p, hp, hm⟩) ?_ key p hp hm)
    intro t t' ih move key p hp hm
    have ha := move.awaited hp
    generalize p.message = m at ha hm
    cases ha with
    | @kept key q h => exact ih key q h hm
    | offer => cases hm
    | map _ _ _ hs => exact absurd hs hv

end ClusterWave
