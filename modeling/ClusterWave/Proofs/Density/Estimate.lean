import ClusterWave.Proofs.Density.Grid

/-!
# Maps are read as they are drawn

A map is drawn row by row, and a peer that reads it finds the place of a cell by its index alone.
Both mean the same place, and the cell at the centre is the one in the middle row and column. There
is a map of any members: where they allow no estimate, it is the map of a head on its own, which
nothing is aimed at.
-/

namespace ClusterWave

namespace Grid

variable {g : Grid}

lemma two_le_of_check (h : g.check = .ok ()) : 2 ≤ g.size.toNat := by
  rw [check] at h
  split at h
  · cases h
  · rename_i hok
    exact Nat.not_lt.1 fun hlt => hok (.inl (UInt64.lt_iff_toNat_lt.2 hlt))

lemma size_ne_zero_of_check (h : g.check = .ok ()) : g.size ≠ 0 := by
  intro hs
  have := two_le_of_check h
  rw [hs] at this
  exact absurd this (by decide)

/-! ### The centre -/

/-- The centre is one of the cells. -/
lemma centre_lt (h : g.check = .ok ()) :
    g.size.toNat * (g.size.toNat / 2) + g.size.toNat / 2 < g.size.toNat * g.size.toNat := by
  have hsize := two_le_of_check h
  calc g.size.toNat * (g.size.toNat / 2) + g.size.toNat / 2
      < g.size.toNat * (g.size.toNat / 2 + 1) := by
        rw [Nat.mul_add_one]
        omega
    _ ≤ g.size.toNat * g.size.toNat := Nat.mul_le_mul_left _ (by omega)

lemma toNat_centre (h : g.check = .ok ()) (hg : g.IsCountable) :
    g.centre.toNat = g.size.toNat * (g.size.toNat / 2) + g.size.toNat / 2 := by
  have hlt : g.size.toNat * (g.size.toNat / 2) + g.size.toNat / 2 < UInt64.size :=
    Nat.lt_trans (centre_lt h) hg
  rw [centre, UInt64.toNat_add, UInt64.toNat_mul, UInt64.toNat_div]
  exact (Nat.mod_add_mod _ _ _).trans (Nat.mod_eq_of_lt hlt)

/-- The centre lies in the middle row and the middle column. -/
lemma decode_centre (h : g.check = .ok ()) (hg : g.IsCountable) :
    g.centre / g.size = g.size / 2 ∧ g.centre % g.size = g.size / 2 := by
  have hsize := two_le_of_check h
  have hhalf : g.size.toNat / 2 < g.size.toNat := by omega
  constructor
  · refine UInt64.toNat_inj.1 ?_
    rw [UInt64.toNat_div, UInt64.toNat_div, toNat_centre h hg, Nat.mul_add_div (by omega),
      Nat.div_eq_of_lt hhalf]
    rfl
  · refine UInt64.toNat_inj.1 ?_
    rw [UInt64.toNat_mod, UInt64.toNat_div, toNat_centre h hg, Nat.mul_add_mod,
      Nat.mod_eq_of_lt hhalf]
    rfl

end Grid

namespace DensityMap

variable {g : Grid} {m : DensityMap} {offsets : List Vec2}

/-! ### Maps of functions -/

/-- The map on which every cell has the value of a function where the cell is sampled, drawn row by
row. -/
def drawn (g : Grid) (f : Vec2 → Binary64) : DensityMap :=
  ⟨g, (List.range g.size.toNat).flatMap fun i =>
    (List.range g.size.toNat).map fun j => f (g.samplePoint (.ofNat i) (.ofNat j))⟩

/-- Whether a map shows the values of a function, for whoever finds the places of its cells by their
index. -/
def Shows (m : DensityMap) (f : Vec2 → Binary64) : Prop :=
  ∀ index < m.grid.size.toNat * m.grid.size.toNat,
    ∃ p, m.grid.cellOffset? (.ofNat index) = some p ∧ m.value? index = some (f p)

lemma length_drawn (g : Grid) (f : Vec2 → Binary64) :
    (drawn g f).cells.length = g.size.toNat * g.size.toNat := length_flatMap_rows _ _ _

lemma checkShape_drawn (hg : g.IsCountable) (f : Vec2 → Binary64) :
    (drawn g f).checkShape = .ok () := by
  rw [checkShape_eq_ok_iff, length_drawn]
  exact (Nat.mod_eq_of_lt hg).symm

lemma shows_drawn (hs : g.size ≠ 0) (hg : g.IsCountable) (f : Vec2 → Binary64) :
    (drawn g f).Shows f := by
  intro index hi
  exact ⟨g.cellPlace index, Grid.cellOffset?_ofNat hs (Nat.lt_trans hi hg),
    getElem?_flatMap_rows _ _ _ hi⟩

/-! ### Estimates -/

lemma checkShape_lone (g : Grid) : (lone g).checkShape = .ok () := by
  rw [checkShape_eq_ok_iff, ← (lone g).grid.toNat_cellCount]
  simp [lone]

/-- The map of a head on its own has the value one at the centre and zero elsewhere. -/
lemma value?_lone (hg : g.IsCountable) {index : Nat}
    (hi : index < g.size.toNat * g.size.toNat) :
    (lone g).value? index =
      some (if index = g.centre.toNat then Binary64.one else Binary64.zero) := by
  rw [← hg.toNat_cellCount] at hi
  simp only [value?, lone, List.getElem?_set, List.length_replicate, List.getElem?_replicate]
  by_cases he : index = g.centre.toNat
  · rw [if_pos he.symm, ← he, if_pos hi, if_pos rfl]
  · rw [if_neg (Ne.symm he), if_pos hi, if_neg he]

/-- Nothing is aimed at the map of a head on its own. -/
lemma denseCells_lone (g : Grid) : (lone g).denseCells = [] := by
  rw [denseCells, List.filter_eq_nil_iff]
  intro c hc
  obtain ⟨⟨value, index⟩, hmem, rfl⟩ := List.mem_map.1 hc
  have hv : value = Binary64.zero ∨ value = Binary64.one :=
    (List.mem_or_eq_of_mem_set (List.fst_mem_of_mem_zipIdx hmem)).imp_left
      List.eq_of_mem_replicate
  show ¬ decide (Binary64.one < value) = true
  rcases hv with rfl | rfl <;> decide

/-- What is drawn is the map of a head on its own or, for two members and more, the map of their
density with finite values only. -/
lemma of_ofOffsets (h : ofOffsets g offsets = .ok m) :
    offsets.length < 2 ∧ m = lone g ∨
      ∃ density, KernelDensity.ofSamples offsets = .ok density ∧
        m = drawn g (fun p => density.value p * (g.area / .ofNat offsets.length)) ∧
        ∀ v ∈ m.cells, v.isFinite := by
  simp only [ofOffsets, List.flatMap_map, List.map_map] at h
  split at h
  · cases h
  · split at h
    · rename_i hlt
      cases h
      exact .inl ⟨hlt, rfl⟩
    · split at h
      · cases h
      · rename_i density hd
        split at h
        · rename_i hfinite
          cases h
          exact .inr ⟨density, hd, rfl, List.all_eq_true.1 hfinite⟩
        · cases h

lemma checkShape_of_ofOffsets (hg : g.IsCountable) (h : ofOffsets g offsets = .ok m) :
    m.checkShape = .ok () := by
  rcases of_ofOffsets h with ⟨-, rfl⟩ | ⟨density, -, rfl, -⟩
  · exact checkShape_lone g
  · exact checkShape_drawn hg _

lemma checkShape_estimate (hg : g.IsCountable) (offsets : List Vec2) :
    (estimate g offsets).checkShape = .ok () := by
  rw [estimate]
  split
  · exact checkShape_of_ofOffsets hg ‹_›
  · exact checkShape_lone g

lemma estimate_of_few (h : offsets.length < 2) : estimate g offsets = lone g := by
  rw [estimate]
  split
  · rename_i map hm
    rcases of_ofOffsets hm with ⟨-, rfl⟩ | ⟨density, hd, -⟩
    · rfl
    · simp [KernelDensity.ofSamples, covariance, h] at hd
  · rfl

/-- On a valid grid of which the cells can be counted, a map is read as it is drawn. Where two or
more members allow an estimate, its shape passes the check, its values are finite, and each cell has
the value of the density at the place that its index stands for, times the area for each member. The
centre decodes to the middle row and the middle column. Any members have a map that passes the
check, and it is the map of a head on its own if there are fewer than two or they allow no
estimate: one at the centre and zero elsewhere, with no dense cell. -/
theorem map_is_read_as_drawn (g : Grid) (offsets : List Vec2) (valid : g.check = .ok ())
    (countable : g.IsCountable) :
    (∀ m, 2 ≤ offsets.length → ofOffsets g offsets = .ok m →
      m.grid = g ∧ m.checkShape = .ok () ∧ (∀ v ∈ m.cells, v.isFinite) ∧
        ∃ density, KernelDensity.ofSamples offsets = .ok density ∧
          m.Shows fun p => density.value p * (g.area / .ofNat offsets.length)) ∧
    (g.centre / g.size = g.size / 2 ∧ g.centre % g.size = g.size / 2 ∧
      g.cellOffset? g.centre = some (g.samplePoint (g.size / 2) (g.size / 2))) ∧
    (estimate g offsets).checkShape = .ok () ∧
    ((offsets.length < 2 ∨ ∃ fault, ofOffsets g offsets = .error fault) →
      estimate g offsets = lone g) ∧
    (∀ index < g.size.toNat * g.size.toNat, (lone g).value? index =
      some (if index = g.centre.toNat then Binary64.one else Binary64.zero)) ∧
    (lone g).denseCells = [] := by
  have hs := Grid.size_ne_zero_of_check valid
  obtain ⟨hrow, hcolumn⟩ := Grid.decode_centre valid countable
  refine ⟨?_, ⟨hrow, hcolumn, ?_⟩, checkShape_estimate countable offsets, ?_,
    fun index hi => value?_lone countable hi, denseCells_lone g⟩
  · intro m htwo hm
    rcases of_ofOffsets hm with ⟨hlt, -⟩ | ⟨density, hd, rfl, hfinite⟩
    · exact absurd hlt (Nat.not_lt.2 htwo)
    · exact ⟨rfl, checkShape_drawn countable _, hfinite, density, hd,
        shows_drawn hs countable _⟩
  · rw [Grid.cellOffset?, if_neg hs, hrow, hcolumn]
  · rintro (hlt | ⟨fault, hfault⟩)
    · exact estimate_of_few hlt
    · rw [estimate, hfault]

/-- Members at places that are no numbers allow no estimate, so that the standard grid gets the map
of a head on its own. -/
theorem map_of_undefined_places :
    Grid.standard.check = .ok () ∧ Grid.standard.IsCountable ∧
      estimate .standard [Vec2.zero, ⟨Binary64.invalid, Binary64.invalid⟩] = lone .standard := by
  have hfault : ofOffsets .standard [Vec2.zero, ⟨Binary64.invalid, Binary64.invalid⟩] =
      .error (.singular .invalid) := by
    decide +kernel
  have valid : Grid.standard.check = .ok () := by decide
  have countable : Grid.standard.IsCountable := by decide
  exact ⟨valid, countable, (map_is_read_as_drawn _ _ valid countable).2.2.2.1 (.inr ⟨_, hfault⟩)⟩

end DensityMap

end ClusterWave
