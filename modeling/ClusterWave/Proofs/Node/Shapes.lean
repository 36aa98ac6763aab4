import ClusterWave.Proofs.Density.Grid
import ClusterWave.Proofs.Node.Maps
import ClusterWave.Proofs.Wire.Exact
import Mathlib.Data.List.Induction

/-!
# Shapes of the maps that a node keeps

A node keeps no map that has not passed the check of its shape. The check compares the number of
cells with the square of the size modulo `2^64`, and so it is exact for all sizes that fit in 32
bits. It is wrong about the others that it lets pass: such a map has fewer cells than the square, as
no map has `2^64` cells.
-/

namespace ClusterWave

namespace DensityMap

variable {m : DensityMap}

lemma checkShape_of_length_ne
    (h : m.cells.length ≠ m.grid.size.toNat * m.grid.size.toNat % UInt64.size) :
    m.checkShape = .error (.badShape m.grid.size m.grid.cellCount m.cells.length) := by
  rw [← m.grid.toNat_cellCount] at h
  exact if_neg h

/-- Of the maps that pass the check, just those whose size fits in 32 bits have all their cells. -/
lemma length_eq_iff_of_checkShape (h : m.checkShape = .ok ()) :
    m.cells.length = m.grid.size.toNat * m.grid.size.toNat ↔
      m.grid.size.toNat < UInt32.size := by
  rw [← Grid.isCountable_iff]
  constructor
  · intro hl
    have hlt := length_lt_of_checkShape h
    rwa [hl] at hlt
  · intro hc
    rw [checkShape_eq_ok_iff.1 h, Nat.mod_eq_of_lt hc]

/-- The check tells whether a map that comes off the wire has all its cells, unless its size does
not fit in 32 bits and the number of its cells is the square modulo `2^64`. -/
lemma checkShape_exact_iff (hw : m.IsWritable) :
    (m.checkShape = .ok () ↔ m.cells.length = m.grid.size.toNat * m.grid.size.toNat) ↔
      (m.grid.size.toNat < UInt32.size ∨
        m.cells.length ≠ m.grid.size.toNat * m.grid.size.toNat % UInt64.size) := by
  by_cases h : m.checkShape = .ok ()
  · have hl := checkShape_eq_ok_iff.1 h
    rw [iff_true_left h, length_eq_iff_of_checkShape h, or_iff_left (not_not.2 hl)]
  · have hl := mt checkShape_eq_ok_iff.2 h
    refine iff_of_true (iff_of_false h fun he => hl ?_) (.inr hl)
    rw [← he, Nat.mod_eq_of_lt hw]

end DensityMap

namespace Node

variable {n₀ : Node}

/-- In every run, the maps that a node keeps have passed the check of their shape. -/
lemma IsNew.checkShape (h : n₀.IsNew) (vs : List Visit) {c : NodeId} {m : DensityMap}
    (hk : (n₀.after vs).neighborMaps.get? c = some m) : m.checkShape = .ok () := by
  induction vs using List.reverseRecOn with
  | nil =>
    rw [after_nil, h.maps.2] at hk
    cases hk
  | append_singleton vs v ih =>
    rw [after_append] at hk
    rcases (n₀.after vs).neighborMaps_visit v hk with hk | ⟨hshape, -⟩
    · exact ih hk
    · exact hshape

/-- The check of a shape compares the number of cells with the square of the size modulo `2^64`, and
reports both if they differ. For a map that comes off the wire it tells whether the map has all its
cells, unless its size does not fit in 32 bits and it passes nevertheless. So in every run a map
that a node keeps has as many cells as the square of its size modulo `2^64`, and it has all its
cells just when the size fits in 32 bits. -/
theorem kept_map_is_full_iff (h : n₀.IsNew) (vs : List Visit) :
    (∀ m : DensityMap,
      (m.checkShape = .ok () ↔
        m.cells.length = m.grid.size.toNat * m.grid.size.toNat % UInt64.size) ∧
      (m.cells.length ≠ m.grid.size.toNat * m.grid.size.toNat % UInt64.size →
        m.checkShape = .error (.badShape m.grid.size m.grid.cellCount m.cells.length)) ∧
      (m.IsWritable →
        ((m.checkShape = .ok () ↔ m.cells.length = m.grid.size.toNat * m.grid.size.toNat) ↔
          (m.grid.size.toNat < UInt32.size ∨
            m.cells.length ≠ m.grid.size.toNat * m.grid.size.toNat % UInt64.size)))) ∧
    ∀ c m, (n₀.after vs).neighborMaps.get? c = some m →
      m.cells.length = m.grid.size.toNat * m.grid.size.toNat % UInt64.size ∧
        (m.cells.length = m.grid.size.toNat * m.grid.size.toNat ↔
          m.grid.size.toNat < UInt32.size) := by
  refine ⟨fun m => ⟨DensityMap.checkShape_eq_ok_iff, DensityMap.checkShape_of_length_ne,
    DensityMap.checkShape_exact_iff⟩, fun c m hk => ?_⟩
  have hshape := h.checkShape vs hk
  exact ⟨DensityMap.checkShape_eq_ok_iff.1 hshape,
    DensityMap.length_eq_iff_of_checkShape hshape⟩

open Visit (rings hears)

/-- The map of a head, sent by the head. -/
def mapFrom (head : NodeId) (m : DensityMap) : Message :=
  .densityMap 1 head (Record.lone head Vec3.zero .start).becomeHead m

/-- The visits of a node that begins with clustering and is sent a map. -/
def visitsWithMap (m : DensityMap) : List Visit :=
  [⟨.start, Vec3.zero, 1, .start⟩, rings 0 2 .start, hears 50 4 ⟨9⟩ (mapFrom ⟨9⟩ m)]

/-- A node that is sent a map of four cells keeps all of them. -/
theorem small_map_is_kept_full : ∃ n₀ : Node, n₀.IsNew ∧
    (n₀.after (visitsWithMap (.lone ⟨2, Binary64.one⟩))).neighborMaps.get? ⟨9⟩ =
      some (.lone ⟨2, Binary64.one⟩) ∧
    (DensityMap.lone ⟨2, Binary64.one⟩).cells.length = (2 : UInt64).toNat * (2 : UInt64).toNat := by
  have hrun : ((create ⟨1⟩ Settings.standard false none).toOption.any fun n =>
      (n.after (visitsWithMap (.lone ⟨2, Binary64.one⟩))).neighborMaps.get? ⟨9⟩ =
        some (.lone ⟨2, Binary64.one⟩)) = true := by decide +kernel
  simp only [Option.any_eq_true, decide_eq_true_eq] at hrun
  obtain ⟨n, hn, hk⟩ := hrun
  have hnew : n.IsNew := .of_toOption hn
  exact ⟨n, hnew, hk, ((kept_map_is_full_iff hnew _).2 _ _ hk).2.2 (by decide)⟩

/-- A map of `2^32` rows without any cells. -/
def hollowMap : DensityMap := ⟨⟨0x100000000, Binary64.one⟩, []⟩

/-- A node that is sent a map of `2^32` rows without any cells, in a packet that is read off the
wire, takes it for well-shaped and keeps it. -/
theorem hollow_map_is_kept : ∃ n₀ : Node, n₀.IsNew ∧
    Packet.decode? (encode (Packet.single (mapFrom ⟨9⟩ hollowMap))) =
      .ok (Packet.single (mapFrom ⟨9⟩ hollowMap)) ∧
    hollowMap.checkShape = .ok () ∧
    (n₀.after (visitsWithMap hollowMap)).neighborMaps.get? ⟨9⟩ = some hollowMap ∧
    hollowMap.cells.length ≠ hollowMap.grid.size.toNat * hollowMap.grid.size.toNat := by
  have hrun : ((create ⟨1⟩ Settings.standard false none).toOption.any fun n =>
      (n.after (visitsWithMap hollowMap)).neighborMaps.get? ⟨9⟩ = some hollowMap) = true := by
    decide +kernel
  simp only [Option.any_eq_true, decide_eq_true_eq] at hrun
  obtain ⟨n, hn, hk⟩ := hrun
  have hw : hollowMap.IsWritable := by
    show 0 < UInt64.size
    decide
  exact ⟨n, .of_toOption hn, Packet.decode?_encode (Packet.isWritable_single hw), by decide, hk,
    by decide⟩

end Node

end ClusterWave
