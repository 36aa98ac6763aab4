/-!
# Sorted tables

A table maps keys to values and lists its entries by ascending key. The order of the keys is given
by their rank, a natural number that tells them apart. Two tables are equal when every look-up
agrees, see `Table.ext_get?`.
-/

namespace ClusterWave

/-- Keys that are told apart by a natural number. -/
class Rank (κ : Type) where
  rank : κ → Nat
  rank_injective : ∀ a b, rank a = rank b → a = b

export Rank (rank)

/-- Entries under distinct keys, by ascending key. -/
structure Table (κ α : Type) [Rank κ] where
  entries : List (κ × α)
  sorted : entries.Pairwise fun a b => rank a.1 < rank b.1

variable {κ α β : Type} [Rank κ]

/-! ### Sorted lists of entries -/

namespace Entries

/-- The value under a key. -/
def lookup (k : κ) : List (κ × α) → Option α
  | [] => none
  | (k', v) :: rest =>
    if rank k' = rank k then some v else if rank k < rank k' then none else lookup k rest

/-- Put a value under a key, replacing the one that is there. -/
def insert (k : κ) (v : α) : List (κ × α) → List (κ × α)
  | [] => [(k, v)]
  | (k', v') :: rest =>
    if rank k < rank k' then (k, v) :: (k', v') :: rest
    else if rank k' < rank k then (k', v') :: insert k v rest
    else (k, v) :: rest

theorem mem_insert_rank {k : κ} {v : α} {es : List (κ × α)} {e : κ × α} (h : e ∈ insert k v es) :
    e = (k, v) ∨ e ∈ es := by
  induction es with
  | nil => simpa [insert] using h
  | cons e' rest ih =>
    simp only [insert] at h
    split at h
    · simpa using h
    · split at h
      · rcases List.mem_cons.1 h with rfl | h
        · exact .inr List.mem_cons_self
        · exact (ih h).imp_right (List.mem_cons_of_mem _)
      · rcases List.mem_cons.1 h with rfl | h
        · exact .inl rfl
        · exact .inr (List.mem_cons_of_mem _ h)

theorem sorted_insert (k : κ) (v : α) {es : List (κ × α)}
    (h : es.Pairwise fun a b => rank a.1 < rank b.1) :
    (insert k v es).Pairwise fun a b => rank a.1 < rank b.1 := by
  induction es with
  | nil => simp [insert]
  | cons e rest ih =>
    obtain ⟨head, tail⟩ := List.pairwise_cons.1 h
    simp only [insert]
    split
    · rename_i hlt
      refine List.pairwise_cons.2 ⟨fun x hx => ?_, h⟩
      rcases List.mem_cons.1 hx with rfl | hx
      · exact hlt
      · exact Nat.lt_trans hlt (head x hx)
    · split
      · rename_i hlt
        refine List.pairwise_cons.2 ⟨fun x hx => ?_, ih tail⟩
        rcases mem_insert_rank hx with rfl | hx
        · exact hlt
        · exact head x hx
      · rename_i hge hle
        refine List.pairwise_cons.2 ⟨fun x hx => ?_, tail⟩
        have := head x hx
        simp only at this ⊢
        omega

/-- Putting a value under a key that is there replaces the value in its place. -/
theorem insert_append (k : κ) (v v' : α) {l r : List (κ × α)}
    (h : (l ++ (k, v) :: r).Pairwise fun a b => rank a.1 < rank b.1) :
    insert k v' (l ++ (k, v) :: r) = l ++ (k, v') :: r := by
  induction l with
  | nil =>
    simp only [List.nil_append, insert]
    rw [if_neg (Nat.lt_irrefl _), if_neg (Nat.lt_irrefl _)]
  | cons e l ih =>
    obtain ⟨head, tail⟩ := List.pairwise_cons.1 h
    have hlt : rank e.1 < rank k := head (k, v) (List.mem_append_right l List.mem_cons_self)
    simp only [List.cons_append, insert]
    rw [if_neg (Nat.lt_asymm hlt), if_pos hlt, ih tail]

end Entries

namespace Table

/-! ### Operations -/

def empty : Table κ α := ⟨[], List.Pairwise.nil⟩

instance : Inhabited (Table κ α) := ⟨empty⟩

instance [DecidableEq κ] [DecidableEq α] : DecidableEq (Table κ α) := fun s t =>
  match decEq s.entries t.entries with
  | isTrue h => isTrue (by cases s; cases t; cases h; rfl)
  | isFalse h => isFalse fun e => h (congrArg entries e)

/-- The value under a key. -/
def get? (t : Table κ α) (k : κ) : Option α := Entries.lookup k t.entries

def contains (t : Table κ α) (k : κ) : Bool := (t.get? k).isSome

/-- Put a value under a key, replacing the one that is there. -/
def insert (t : Table κ α) (k : κ) (v : α) : Table κ α :=
  ⟨Entries.insert k v t.entries, Entries.sorted_insert k v t.sorted⟩

/-- Keep the entries that pass a test. -/
def filter (t : Table κ α) (keep : κ → α → Bool) : Table κ α :=
  ⟨t.entries.filter fun e => keep e.1 e.2, t.sorted.filter _⟩

/-- Remove the entry of a key. -/
def erase (t : Table κ α) (k : κ) : Table κ α := t.filter fun k' _ => rank k' != rank k

def size (t : Table κ α) : Nat := t.entries.length

def isEmpty (t : Table κ α) : Bool := t.entries.isEmpty

/-- The keys, ascending. -/
def keys (t : Table κ α) : List κ := t.entries.map (·.1)

/-- The values, by ascending key. -/
def values (t : Table κ α) : List α := t.entries.map (·.2)

/-! ### Look-up -/

theorem lookup_eq_some_iff {k : κ} {v : α} {es : List (κ × α)}
    (h : es.Pairwise fun a b => rank a.1 < rank b.1) :
    Entries.lookup k es = some v ↔ (k, v) ∈ es := by
  induction es with
  | nil => simp [Entries.lookup]
  | cons e rest ih =>
    obtain ⟨k', v'⟩ := e
    obtain ⟨head, tail⟩ := List.pairwise_cons.1 h
    simp only [Entries.lookup]
    split
    · rename_i heq
      have hk : k' = k := Rank.rank_injective _ _ heq
      subst hk
      constructor
      · rintro ⟨⟩
        exact List.mem_cons_self
      · intro hmem
        rcases List.mem_cons.1 hmem with heq | hmem
        · cases heq
          rfl
        · exact absurd (head _ hmem) (Nat.lt_irrefl _)
    · rename_i hne
      split
      · rename_i hlt
        constructor
        · intro hn
          cases hn
        · intro hmem
          rcases List.mem_cons.1 hmem with heq | hmem
          · cases heq
            exact absurd rfl hne
          · have := head _ hmem
            simp only at this
            omega
      · rw [ih tail]
        constructor
        · exact List.mem_cons_of_mem _
        · intro hmem
          rcases List.mem_cons.1 hmem with heq | hmem
          · cases heq
            exact absurd rfl hne
          · exact hmem

theorem get?_eq_some_iff {t : Table κ α} {k : κ} {v : α} :
    t.get? k = some v ↔ (k, v) ∈ t.entries :=
  lookup_eq_some_iff t.sorted

@[simp] theorem get?_empty (k : κ) : (empty : Table κ α).get? k = none := rfl

theorem mem_insert_self (k : κ) (v : α) (es : List (κ × α)) : (k, v) ∈ Entries.insert k v es := by
  induction es with
  | nil => simp [Entries.insert]
  | cons e rest ih =>
    simp only [Entries.insert]
    split
    · exact List.mem_cons_self
    · split
      · exact List.mem_cons_of_mem _ ih
      · exact List.mem_cons_self

theorem mem_insert_of_ne {k : κ} {v : α} {es : List (κ × α)} {e : κ × α} (hne : e.1 ≠ k) :
    e ∈ Entries.insert k v es ↔ e ∈ es := by
  constructor
  · intro h
    rcases Entries.mem_insert_rank h with rfl | h
    · exact absurd rfl hne
    · exact h
  · intro h
    induction es with
    | nil => cases h
    | cons e' rest ih =>
      simp only [Entries.insert]
      split
      · exact List.mem_cons_of_mem _ h
      · split
        · rcases List.mem_cons.1 h with rfl | h
          · exact List.mem_cons_self
          · exact List.mem_cons_of_mem _ (ih h)
        · rename_i h₁ h₂
          rcases List.mem_cons.1 h with rfl | h
          · exact absurd (Rank.rank_injective _ _ (by omega)) hne
          · exact List.mem_cons_of_mem _ h

theorem get?_insert_self (t : Table κ α) (k : κ) (v : α) : (t.insert k v).get? k = some v :=
  get?_eq_some_iff.2 (mem_insert_self k v t.entries)

theorem get?_insert_of_ne (t : Table κ α) {k k' : κ} (v : α) (hne : k' ≠ k) :
    (t.insert k v).get? k' = t.get? k' := by
  apply Option.ext
  intro w
  rw [get?_eq_some_iff, get?_eq_some_iff]
  exact mem_insert_of_ne hne

/-- After an insertion an entry is the new one, or it was there before. -/
theorem of_get?_insert {t : Table κ α} {k k' : κ} {v w : α} (h : (t.insert k v).get? k' = some w) :
    k' = k ∧ w = v ∨ k' ≠ k ∧ t.get? k' = some w := by
  by_cases he : k' = k
  · rw [he, get?_insert_self] at h
    exact .inl ⟨he, (Option.some.inj h).symm⟩
  · rw [get?_insert_of_ne _ _ he] at h
    exact .inr ⟨he, h⟩

theorem get?_filter (t : Table κ α) (keep : κ → α → Bool) (k : κ) :
    (t.filter keep).get? k = (t.get? k).filter (keep k) := by
  apply Option.ext
  intro w
  rw [get?_eq_some_iff, Option.filter_eq_some_iff, get?_eq_some_iff]
  simp [filter, List.mem_filter]

theorem get?_erase_self (t : Table κ α) (k : κ) : (t.erase k).get? k = none := by
  simp [erase, get?_filter]

theorem get?_erase_of_ne (t : Table κ α) {k k' : κ} (hne : k' ≠ k) :
    (t.erase k).get? k' = t.get? k' := by
  have : rank k' ≠ rank k := fun h => hne (Rank.rank_injective _ _ h)
  rw [erase, get?_filter]
  cases t.get? k' <;> simp [this]

/-- What is found after a removal was there before. -/
theorem of_get?_erase {t : Table κ α} {k k' : κ} {v : α} (h : (t.erase k).get? k' = some v) :
    t.get? k' = some v := by
  rw [erase, get?_filter, Option.filter_eq_some_iff] at h
  exact h.1

theorem nodup_keys (t : Table κ α) : t.keys.Nodup := by
  apply List.pairwise_map.2
  apply t.sorted.imp
  intro a b h he
  rw [he] at h
  exact Nat.lt_irrefl _ h

theorem mem_keys_iff {t : Table κ α} {k : κ} : k ∈ t.keys ↔ (t.get? k).isSome := by
  simp only [keys, List.mem_map, Option.isSome_iff_exists, get?_eq_some_iff]
  constructor
  · rintro ⟨⟨k', v⟩, hmem, rfl⟩
    exact ⟨v, hmem⟩
  · rintro ⟨v, hmem⟩
    exact ⟨(k, v), hmem, rfl⟩

/-- A new value takes the place of the one that is there. -/
theorem exists_values {t : Table κ α} {k : κ} {v : α} (h : t.get? k = some v) :
    ∃ l r, t.values = l ++ v :: r ∧ ∀ v', (t.insert k v').values = l ++ v' :: r := by
  obtain ⟨l, r, he⟩ := List.append_of_mem (get?_eq_some_iff.1 h)
  refine ⟨l.map (·.2), r.map (·.2), ?_, ?_⟩
  · rw [values, he, List.map_append, List.map_cons]
  · intro v'
    rw [values, insert]
    simp only [he]
    rw [Entries.insert_append k v v' (he ▸ t.sorted), List.map_append, List.map_cons]

/-! ### Extensionality -/

theorem entries_eq_of_mem_iff {es fs : List (κ × α)}
    (he : es.Pairwise fun a b => rank a.1 < rank b.1)
    (hf : fs.Pairwise fun a b => rank a.1 < rank b.1) (h : ∀ e, e ∈ es ↔ e ∈ fs) : es = fs := by
  induction es generalizing fs with
  | nil =>
    cases fs with
    | nil => rfl
    | cons f _ => exact absurd ((h f).2 List.mem_cons_self) (by simp)
  | cons e es ih =>
    cases fs with
    | nil => exact absurd ((h e).1 List.mem_cons_self) (by simp)
    | cons f fs =>
      obtain ⟨he', hes⟩ := List.pairwise_cons.1 he
      obtain ⟨hf', hfs⟩ := List.pairwise_cons.1 hf
      have hef : e = f := by
        rcases List.mem_cons.1 ((h e).1 List.mem_cons_self) with heq | h₁
        · exact heq
        · rcases List.mem_cons.1 ((h f).2 List.mem_cons_self) with heq | h₂
          · exact heq.symm
          · have := hf' e h₁
            have := he' f h₂
            omega
      subst hef
      congr 1
      apply ih hes hfs
      intro x
      have hx := h x
      simp only [List.mem_cons] at hx
      constructor
      · intro hm
        rcases hx.1 (.inr hm) with rfl | hm'
        · exact absurd (he' _ hm) (Nat.lt_irrefl _)
        · exact hm'
      · intro hm
        rcases hx.2 (.inr hm) with rfl | hm'
        · exact absurd (hf' _ hm) (Nat.lt_irrefl _)
        · exact hm'

/-- Tables with the same look-ups are equal. -/
theorem ext_get? {s t : Table κ α} (h : ∀ k, s.get? k = t.get? k) : s = t := by
  have hmem : ∀ e, e ∈ s.entries ↔ e ∈ t.entries := by
    rintro ⟨k, v⟩
    rw [← get?_eq_some_iff, ← get?_eq_some_iff, h k]
  have := entries_eq_of_mem_iff s.sorted t.sorted hmem
  cases s
  cases t
  cases this
  rfl

theorem insert_erase (t : Table κ α) (k : κ) (v : α) : (t.erase k).insert k v = t.insert k v := by
  apply ext_get?
  intro k'
  by_cases hk : k' = k
  · rw [hk, get?_insert_self, get?_insert_self]
  · rw [get?_insert_of_ne _ _ hk, get?_insert_of_ne _ _ hk, get?_erase_of_ne _ hk]

end Table

end ClusterWave
