import ClusterWave.Density.Map
import Mathlib.Algebra.Order.Ring.Nat
import Mathlib.Tactic.Lemma

/-!
# Cells of a grid

A grid has as many cells as the square of its size says, and a map lists them row by row. The place
of a cell is found by dividing its index by the size; the shape of a map is checked by comparing the
number of its cells with the square, which is taken modulo `2^64`.
-/

namespace ClusterWave

/-- Whether the cells can be counted: there are less than `2^64` of them, as of anything that the
memory of a node can hold. -/
def Grid.IsCountable (g : Grid) : Prop := g.size.toNat * g.size.toNat < UInt64.size

instance (g : Grid) : Decidable g.IsCountable :=
  inferInstanceAs (Decidable (g.size.toNat * g.size.toNat < UInt64.size))

/-! ### Lists of rows -/

section Rows

variable {α : Type} (rows columns : Nat) (f : Nat → Nat → α)

lemma length_flatMap_rows :
    ((List.range rows).flatMap fun i => (List.range columns).map (f i)).length =
      rows * columns := by
  simp [List.map_const']

/-- An item of a list of rows stands in the row that division tells, at the remainder. -/
lemma getElem?_flatMap_rows {index : Nat} (h : index < rows * columns) :
    ((List.range rows).flatMap fun i => (List.range columns).map (f i))[index]? =
      some (f (index / columns) (index % columns)) := by
  induction rows with
  | zero => exact absurd h (by rw [Nat.zero_mul]; exact Nat.not_lt_zero _)
  | succ rows ih =>
    have hlength := length_flatMap_rows rows columns f
    rw [List.range_succ, List.flatMap_append, List.flatMap_singleton]
    by_cases hlt : index < rows * columns
    · rw [List.getElem?_append_left (hlength ▸ hlt)]
      exact ih hlt
    · -- the item stands in the last row
      obtain ⟨j, rfl⟩ := Nat.exists_eq_add_of_le (Nat.not_lt.1 hlt)
      have hj : j < columns := by
        rw [Nat.succ_mul] at h
        omega
      have hdiv : (rows * columns + j) / columns = rows := by
        rw [Nat.mul_comm, Nat.mul_add_div (by omega), Nat.div_eq_of_lt hj, Nat.add_zero]
      have hmod : (rows * columns + j) % columns = j := by
        rw [Nat.mul_comm, Nat.mul_add_mod, Nat.mod_eq_of_lt hj]
      rw [List.getElem?_append_right (by omega), hlength, Nat.add_sub_cancel_left, hdiv, hmod,
        List.getElem?_map, List.getElem?_range hj, Option.map_some]

end Rows

namespace Grid

variable {g : Grid} {index : Nat}

/-! ### The number of cells -/

lemma toNat_cellCount (g : Grid) :
    g.cellCount.toNat = g.size.toNat * g.size.toNat % UInt64.size :=
  UInt64.toNat_mul g.size g.size

/-- The cells can be counted as long as the size fits in 32 bits. -/
lemma isCountable_iff : g.IsCountable ↔ g.size.toNat < UInt32.size := by
  show g.size.toNat * g.size.toNat < UInt32.size * UInt32.size ↔ _
  exact Nat.mul_self_lt_mul_self_iff

lemma IsCountable.toNat_cellCount (h : g.IsCountable) :
    g.cellCount.toNat = g.size.toNat * g.size.toNat := by
  rw [g.toNat_cellCount, Nat.mod_eq_of_lt h]

/-! ### Places -/

/-- Where a cell is sampled that stands at an index of the list of all rows. -/
def cellPlace (g : Grid) (index : Nat) : Vec2 :=
  g.samplePoint (.ofNat (index / g.size.toNat)) (.ofNat (index % g.size.toNat))

/-- A cell is sampled in the row and the column in which it stands. -/
lemma cellOffset?_ofNat (hs : g.size ≠ 0) (hi : index < UInt64.size) :
    g.cellOffset? (.ofNat index) = some (g.cellPlace index) := by
  have hsize : g.size.toNat < UInt64.size := g.size.toNat_lt
  rw [cellOffset?, if_neg hs, cellPlace, UInt64.ofNat_div hi hsize, UInt64.ofNat_mod hi hsize,
    UInt64.ofNat_toNat]

end Grid

namespace DensityMap

variable {m : DensityMap}

/-- A map passes the check if it has as many cells as the square of its size, modulo `2^64`. -/
lemma checkShape_eq_ok_iff : m.checkShape = .ok () ↔
    m.cells.length = m.grid.size.toNat * m.grid.size.toNat % UInt64.size := by
  rw [checkShape, m.grid.toNat_cellCount]
  split <;> simp_all

/-- The cells of a map that passes the check can be counted, unlike those that its grid may have. -/
lemma length_lt_of_checkShape (h : m.checkShape = .ok ()) : m.cells.length < UInt64.size := by
  rw [checkShape_eq_ok_iff.1 h]
  exact Nat.mod_lt _ (by decide)

/-- A map without rows that passes the check has no cells. -/
lemma size_ne_zero_of_checkShape (h : m.checkShape = .ok ()) {index : Nat}
    (hi : index < m.cells.length) : m.grid.size ≠ 0 := by
  intro hs
  rw [checkShape_eq_ok_iff.1 h, hs] at hi
  exact absurd hi (Nat.not_lt_zero _)

/-- Every cell of a map that passes the check has a place. -/
lemma cellOffset?_of_checkShape (h : m.checkShape = .ok ()) {index : Nat}
    (hi : index < m.cells.length) :
    m.grid.cellOffset? (.ofNat index) = some (m.grid.cellPlace index) :=
  Grid.cellOffset?_ofNat (size_ne_zero_of_checkShape h hi)
    (Nat.lt_trans hi (length_lt_of_checkShape h))

end DensityMap

end ClusterWave
