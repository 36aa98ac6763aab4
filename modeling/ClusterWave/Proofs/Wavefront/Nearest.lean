import ClusterWave.Proofs.Density.Grid
import ClusterWave.Wavefront.Plan
import Mathlib.Data.List.Basic

/-!
# A wavefront is aimed at the nearest cells

A plan has one forward for every cluster with a dense cell in the sector ahead, in the order of the
clusters, and none for the others. The forward goes to the nearest one of these cells and, of
several that are equally near, to the first one. Distances are compared in the total order, in which
every pattern has its place, so that this is so for any cells that a peer may send.
-/

namespace ClusterWave

/-! ### The total order -/

namespace Binary64

/-- Where a pattern stands in the total order: those without a sign from zero upwards, and those
with one from minus one downwards, by their magnitude. -/
def ordinal (x : Binary64) : Int :=
  if x.isSigned then -1 - x.magnitude.toNat else x.magnitude.toNat

lemma toNat_totalRank (x : Binary64) : (x.totalRank.toNat : Int) = x.ordinal + 0x8000000000000000 := by
  have hlt := x.bits.toNat_lt
  have hmagnitude : x.magnitude.toNat = x.bits.toNat % 0x8000000000000000 :=
    (UInt64.toNat_and _ _).trans (Nat.and_two_pow_sub_one_eq_mod x.bits.toNat 63)
  simp only [totalRank, ordinal, hmagnitude]
  by_cases h : x.isSigned
  · have hbits : 0x8000000000000000 ≤ x.bits.toNat := by
      simpa [isSigned, UInt64.le_iff_toNat_le] using h
    rw [if_pos h, if_pos h, UInt64.toNat_not]
    have : UInt64.size = 18446744073709551616 := rfl
    omega
  · have hbits : x.bits.toNat < 0x8000000000000000 := by
      simpa [isSigned, UInt64.le_iff_toNat_le] using h
    rw [if_neg h, if_neg h, UInt64.toNat_add]
    have : (0x8000000000000000 : UInt64).toNat = 9223372036854775808 := rfl
    omega

variable {x y : Binary64}

lemma totalRank_lt_iff : x.totalRank < y.totalRank ↔ x.ordinal < y.ordinal := by
  rw [UInt64.lt_iff_toNat_lt]
  have hx := x.toNat_totalRank
  have hy := y.toNat_totalRank
  omega

lemma totalRank_le_iff : x.totalRank ≤ y.totalRank ↔ x.ordinal ≤ y.ordinal := by
  rw [UInt64.le_iff_toNat_le]
  have hx := x.toNat_totalRank
  have hy := y.toNat_totalRank
  omega

end Binary64

/-! ### The first of the least -/

section Least

variable {α : Type} {key : α → UInt64} {as : List α} {a b : α}

/-- Whether an item is the first one of least key in a list: every item before it has a greater key,
and no item after it has a smaller one. -/
def FirstLeast (key : α → UInt64) (as : List α) (a : α) : Prop :=
  ∃ before after, as = before ++ a :: after ∧ (∀ b ∈ before, key a < key b) ∧
    ∀ b ∈ after, key a ≤ key b

namespace FirstLeast

lemma mem (h : FirstLeast key as a) : a ∈ as := by
  obtain ⟨before, after, rfl, -, -⟩ := h
  exact List.mem_append_right _ List.mem_cons_self

lemma le (h : FirstLeast key as a) (hb : b ∈ as) : key a ≤ key b := by
  obtain ⟨before, after, rfl, hbefore, hafter⟩ := h
  rcases List.mem_append.1 hb with hb | hb
  · exact UInt64.le_of_lt (hbefore b hb)
  · rcases List.mem_cons.1 hb with rfl | hb
    · exact UInt64.le_refl _
    · exact hafter b hb

/-- In a list in ascending order, whatever comes before the first of the least has a greater key. -/
lemma lt_of_pairwise (h : FirstLeast key as a) (index : α → Nat)
    (hsorted : as.Pairwise fun b c => index b < index c) (hb : b ∈ as) (hlt : index b < index a) :
    key a < key b := by
  obtain ⟨before, after, rfl, hbefore, -⟩ := h
  obtain ⟨-, htail, -⟩ := List.pairwise_append.1 hsorted
  rcases List.mem_append.1 hb with hb | hb
  · exact hbefore b hb
  · rcases List.mem_cons.1 hb with rfl | hb
    · exact absurd hlt (Nat.lt_irrefl _)
    · exact absurd hlt (Nat.lt_asymm ((List.pairwise_cons.1 htail).1 b hb))

/-- One more item in front is passed over for the first of the least, unless that is greater. -/
lemma cons_of_lt (h : FirstLeast key as a) (hlt : key a < key b) : FirstLeast key (b :: as) a := by
  obtain ⟨before, after, rfl, hbefore, hafter⟩ := h
  exact ⟨b :: before, after, rfl, List.forall_mem_cons.2 ⟨hlt, hbefore⟩, hafter⟩

/-- An item that is not smaller than the first one can be put behind it. -/
lemma cons_cons (h : FirstLeast key (b :: as) a) {c : α} (hle : key b ≤ key c) :
    FirstLeast key (b :: c :: as) a := by
  have hab := h.le List.mem_cons_self
  obtain ⟨before, after, he, hbefore, hafter⟩ := h
  cases before with
  | nil =>
    obtain ⟨rfl, rfl⟩ := List.cons.inj he
    exact ⟨[], c :: as, rfl, hbefore, List.forall_mem_cons.2 ⟨hle, hafter⟩⟩
  | cons b' before =>
    obtain ⟨rfl, rfl⟩ := List.cons.inj he
    obtain ⟨hb, hbefore⟩ := List.forall_mem_cons.1 hbefore
    exact ⟨b :: c :: before, after, rfl, List.forall_mem_cons.2
      ⟨hb, List.forall_mem_cons.2 ⟨UInt64.lt_of_lt_of_le hb hle, hbefore⟩⟩, hafter⟩

lemma foldl (as : List α) (b : α) :
    FirstLeast key (b :: as) (as.foldl (fun best c => if key c < key best then c else best) b) := by
  induction as generalizing b with
  | nil => exact ⟨[], [], rfl, by simp, by simp⟩
  | cons c as ih =>
    rw [List.foldl_cons]
    split
    · rename_i hlt
      exact (ih c).cons_of_lt (UInt64.lt_of_le_of_lt ((ih c).le List.mem_cons_self) hlt)
    · rename_i hle
      exact (ih b).cons_cons (UInt64.not_lt.1 hle)

/-- The least of what items are mapped to is that of an item. -/
lemma exists_of_map {β : Type} {f : β → α} {bs : List β} (h : FirstLeast key (bs.map f) a) :
    ∃ b, f b = a ∧ FirstLeast (fun b => key (f b)) bs b := by
  obtain ⟨before, after, he, hbefore, hafter⟩ := h
  obtain ⟨before, rest, rfl, rfl, hrest⟩ := List.map_eq_append_iff.1 he
  obtain ⟨b, after, rfl, rfl, rfl⟩ := List.map_eq_cons_iff.1 hrest
  exact ⟨b, rfl, before, after, rfl, fun c hc => hbefore _ (List.mem_map_of_mem hc),
    fun c hc => hafter _ (List.mem_map_of_mem hc)⟩

end FirstLeast

lemma firstLeast_of_leastBy? (h : leastBy? key as = some a) : FirstLeast key as a := by
  cases as with
  | nil => cases h
  | cons b as => exact Option.some.inj h ▸ FirstLeast.foldl as b

lemma eq_nil_of_leastBy? (h : leastBy? key as = none) : as = [] := by
  cases as with
  | nil => rfl
  | cons => cases h

/-- A loop in which no step fails. -/
lemma mapM_eq_some_map {β : Type} {f : α → Option β} {g : α → β} (h : ∀ a ∈ as, f a = some (g a)) :
    as.mapM f = some (as.map g) := by
  induction as with
  | nil => rfl
  | cons a as ih =>
    obtain ⟨ha, has⟩ := List.forall_mem_cons.1 h
    rw [List.mapM_cons, ha, ih has]
    rfl

end Least

/-! ### Dense cells -/

namespace DensityMap

variable {m : DensityMap}

lemma mem_denseCells_iff {index : Nat} {value : Binary64} :
    (index, value) ∈ m.denseCells ↔ m.cells[index]? = some value ∧ Binary64.one < value := by
  simp only [denseCells, List.mem_filter, List.mem_map, Prod.exists, Prod.mk.injEq,
    List.mem_zipIdx_iff_getElem?, decide_eq_true_eq]
  constructor
  · rintro ⟨⟨v, i, hc, rfl, rfl⟩, hlt⟩
    exact ⟨hc, hlt⟩
  · rintro ⟨hc, hlt⟩
    exact ⟨⟨value, index, hc, rfl, rfl⟩, hlt⟩

/-- Dense cells are listed by ascending index. -/
lemma pairwise_denseCells (m : DensityMap) : m.denseCells.Pairwise fun c d => c.1 < d.1 := by
  have hsorted : (m.cells.zipIdx.map Prod.snd).Pairwise (· < ·) := by
    rw [List.zipIdx_map_snd]
    exact List.pairwise_lt_range'
  exact List.Pairwise.filter _ (List.pairwise_map.2 (List.pairwise_map.1 hsorted))

/-- Every dense cell of a map that passes the check has a place. -/
lemma densePositions?_of_checkShape (h : m.checkShape = .ok ()) (head : Vec2) :
    m.densePositions? head = some (m.denseCells.map fun c => head + m.grid.cellPlace c.1) := by
  refine mapM_eq_some_map fun c hc => ?_
  obtain ⟨index, value⟩ := c
  obtain ⟨hi, -⟩ := List.getElem?_eq_some_iff.1 (mem_denseCells_iff.1 hc).1
  show (m.grid.cellOffset? (.ofNat index)).map (head + ·) = _
  rw [cellOffset?_of_checkShape h hi, Option.map_some]

end DensityMap

/-! ### Targets -/

namespace Target

variable {s : Sector} {t : Target} {f : Forward}

/-- Where a cell of the map lies, the head being where it is. -/
def cellPlace (t : Target) (index : Nat) : Vec2 := t.head + t.map.grid.cellPlace index

/-- Whether a wavefront can be aimed at a cell: it is dense, and lies in the sector. -/
def Qualifies (s : Sector) (t : Target) (index : Nat) : Prop :=
  ∃ value, t.map.cells[index]? = some value ∧ Binary64.one < value ∧ s.contains (t.cellPlace index)

/-- How far a cell is from the apex of the sector, in the total order of distances. -/
def distance (s : Sector) (t : Target) (index : Nat) : Int :=
  (s.apex.dist (t.cellPlace index)).ordinal

/-- Whether a forward is aimed at a cluster: it goes to the first one of the nearest cells at which
it can be aimed. -/
structure Aims (s : Sector) (t : Target) (f : Forward) : Prop where
  cluster : f.cluster = t.cluster
  nearest : ∃ index, t.Qualifies s index ∧ f.destination = t.cellPlace index ∧
    ∀ other, t.Qualifies s other → t.distance s index ≤ t.distance s other ∧
      (other < index → t.distance s index < t.distance s other)

/-- The dense cells in a sector. -/
def candidates (s : Sector) (t : Target) : List (Nat × Binary64) :=
  t.map.denseCells.filter fun c => s.contains (t.cellPlace c.1)

lemma qualifies_iff {index : Nat} :
    t.Qualifies s index ↔ ∃ value, (index, value) ∈ t.candidates s := by
  simp only [Qualifies, candidates, List.mem_filter, DensityMap.mem_denseCells_iff, and_assoc]

/-- Whether there is a forward to a cluster, and to which cell it goes. -/
lemma forward?_spec (h : t.map.checkShape = .ok ()) :
    ∃ found, Plan.forward? s t = some found ∧ (found = none → ∀ index, ¬ t.Qualifies s index) ∧
      ∀ f, found = some f → t.Aims s f := by
  have hplaces : (t.map.denseCells.map fun c => t.head + t.map.grid.cellPlace c.1).filter
      s.contains = (t.candidates s).map fun c => t.cellPlace c.1 := List.filter_map
  refine ⟨_, by rw [Plan.forward?, t.map.densePositions?_of_checkShape h, Option.map_some, hplaces],
    ?_, ?_⟩
  · intro hnone index hq
    obtain ⟨value, hmem⟩ := qualifies_iff.1 hq
    have hnil := List.map_eq_nil_iff.1 (eq_nil_of_leastBy? (Option.map_eq_none_iff.1 hnone))
    rw [hnil] at hmem
    cases hmem
  · intro f hf
    obtain ⟨destination, hleast, rfl⟩ := Option.map_eq_some_iff.1 hf
    obtain ⟨⟨index, value⟩, rfl, hfirst⟩ := (firstLeast_of_leastBy? hleast).exists_of_map
    refine ⟨rfl, index, qualifies_iff.2 ⟨value, hfirst.mem⟩, rfl, ?_⟩
    intro other hother
    obtain ⟨value', hmem⟩ := qualifies_iff.1 hother
    have hle := hfirst.le hmem
    simp only [Plan.distanceRank, Binary64.totalRank_le_iff] at hle
    refine ⟨hle, fun hbefore => ?_⟩
    have hsorted := t.map.pairwise_denseCells.filter fun c => s.contains (t.cellPlace c.1)
    have hlt := hfirst.lt_of_pairwise Prod.fst hsorted hmem hbefore
    simp only [Plan.distanceRank, Binary64.totalRank_lt_iff] at hlt
    exact hlt

end Target

/-! ### Plans -/

namespace Plan

/-- Whether forwards go to all clusters to which they can go, in order: none to a cluster without a
cell at which it could be aimed, and one to each of the others. -/
inductive Covers (s : Sector) : List Target → List Forward → Prop where
  | nil : Covers s [] []
  | skip {t : Target} {ts : List Target} {fs : List Forward} (h : ∀ index, ¬ t.Qualifies s index)
      (rest : Covers s ts fs) : Covers s (t :: ts) fs
  | aim {t : Target} {ts : List Target} {f : Forward} {fs : List Forward} (h : t.Aims s f)
      (rest : Covers s ts fs) : Covers s (t :: ts) (f :: fs)

variable {s : Sector} {ts : List Target}

lemma exists_covers (h : ∀ t ∈ ts, t.map.checkShape = .ok ()) :
    ∃ found, ts.mapM (forward? s) = some found ∧ Covers s ts (found.filterMap id) := by
  induction ts with
  | nil => exact ⟨[], rfl, .nil⟩
  | cons t ts ih =>
    obtain ⟨ht, hts⟩ := List.forall_mem_cons.1 h
    obtain ⟨found, hfound, hcovers⟩ := ih hts
    obtain ⟨first, hfirst, hnone, hsome⟩ := Target.forward?_spec (s := s) ht
    refine ⟨first :: found, by rw [List.mapM_cons, hfirst, hfound]; rfl, ?_⟩
    cases first with
    | none => exact .skip (hnone rfl) hcovers
    | some f => exact .aim (hsome f rfl) hcovers

/-- A wavefront is aimed at the nearest cell of every cluster that it can reach. If all maps pass the
check of their shape, there is a plan, whatever the places, the velocity and the cells. Its forwards
are one for each cluster with a dense cell in the sector, in the order of the clusters, and none for
the others. Each goes to such a cell: no other one is nearer in the total order of distances, and
those as near come later. Without forwards, the wavefront as a whole keeps its velocity. -/
theorem forwards_to_nearest_cells (source incoming : Vec2) (targets : List Target)
    (radius angle : Binary64) (h : ∀ t ∈ targets, t.map.checkShape = .ok ()) :
    ∃ plan, make? source incoming targets radius angle = some plan ∧
      Covers ⟨source, incoming, radius, angle⟩ targets plan.forwards ∧
      (plan.forwards = [] → plan.direction = incoming) := by
  obtain ⟨found, hfound, hcovers⟩ := exists_covers (s := ⟨source, incoming, radius, angle⟩) h
  refine ⟨_, by rw [make?, hfound, Option.map_some], hcovers, ?_⟩
  intro hnil
  show combined incoming (found.filterMap id) = incoming
  rw [combined, if_pos (List.isEmpty_iff.2 hnil)]

/-- A cluster without cells, one whose head sends whatever it likes, and one whose head is on its
own. -/
def mixedTargets : List Target :=
  [⟨⟨20⟩, Vec2.zero, ⟨⟨0, Binary64.one⟩, []⟩⟩,
    ⟨⟨30⟩, ⟨Binary64.two, Binary64.zero⟩, ⟨⟨2, Binary64.one⟩,
      [Binary64.invalid, Binary64.infinity, Binary64.two, Binary64.half]⟩⟩,
    ⟨⟨40⟩, Vec2.zero, .lone ⟨2, Binary64.one⟩⟩]

/-- There is a plan even for cells that are no numbers and for unbounded ones. -/
theorem mixed_targets_have_a_plan :
    (∀ t ∈ mixedTargets, t.map.checkShape = .ok ()) ∧
      ∃ plan, make? Vec2.zero ⟨Binary64.one, Binary64.zero⟩ mixedTargets Binary64.two
          Binary64.quarterTurn = some plan ∧
        Covers ⟨Vec2.zero, ⟨Binary64.one, Binary64.zero⟩, Binary64.two, Binary64.quarterTurn⟩
          mixedTargets plan.forwards ∧
        (plan.forwards = [] → plan.direction = ⟨Binary64.one, Binary64.zero⟩) := by
  have h : ∀ t ∈ mixedTargets, t.map.checkShape = .ok () := by
    simp only [mixedTargets, List.forall_mem_cons]
    decide
  exact ⟨h, forwards_to_nearest_cells _ _ _ _ _ h⟩

end Plan

end ClusterWave
