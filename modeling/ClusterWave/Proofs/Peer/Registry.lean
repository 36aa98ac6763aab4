import ClusterWave.Peer.Registry
import Mathlib.Tactic.Lemma

/-!
# Registries that fit a node

The tables of a registry go together with each other and with the role of the node. Neighbors and
members are put in under their own numbers, members are neighbors that name the node as their head,
only a head has members, and the head of a member is a neighbor. Upkeep takes the role along when it
drops neighbors.
-/

namespace ClusterWave

namespace Table

variable {κ α : Type} [Rank κ] {t : Table κ α} {k k' : κ} {a : α}

lemma contains_of_get? (h : t.get? k = some a) : t.contains k :=
  Option.isSome_iff_exists.2 ⟨a, h⟩

lemma contains_iff : t.contains k ↔ ∃ a, t.get? k = some a := Option.isSome_iff_exists

lemma contains_insert_of_contains (h : t.contains k') : (t.insert k a).contains k' := by
  by_cases hk : k' = k
  · rw [hk]
    exact contains_of_get? (get?_insert_self _ _ _)
  · obtain ⟨b, hb⟩ := contains_iff.1 h
    exact contains_of_get? ((get?_insert_of_ne _ _ hk).trans hb)

lemma get?_filter_eq_some_iff {keep : κ → α → Bool} :
    (t.filter keep).get? k = some a ↔ t.get? k = some a ∧ keep k a := by
  rw [get?_filter, Option.filter_eq_some_iff]

/-- A table in which nothing is found is empty. -/
lemma isEmpty_of_get? (h : ∀ k a, t.get? k ≠ some a) : t.isEmpty := by
  cases he : t.entries with
  | nil => simp [isEmpty, he]
  | cons e es =>
    have hm : e ∈ t.entries := he ▸ List.mem_cons_self
    exact absurd (get?_eq_some_iff.2 hm) (h e.1 e.2)

lemma get?_ne_some_of_isEmpty (h : t.isEmpty) : t.get? k ≠ some a := by
  intro hk
  have hm := get?_eq_some_iff.1 hk
  rw [List.isEmpty_iff.1 h] at hm
  cases hm

end Table

lemma Record.not_isHead_of_isMember {r : Record} (h : r.isMember) : ¬ r.isHead := by
  rw [isMember, beq_iff_eq] at h
  rw [isHead, h]
  exact Bool.false_ne_true

lemma Record.not_isHead_of_isStandalone {r : Record} (h : r.isStandalone) : ¬ r.isHead := by
  rw [isStandalone, beq_iff_eq] at h
  rw [isHead, h]
  exact Bool.false_ne_true

lemma Record.not_isStandalone_join (r : Record) (head : NodeId) :
    ¬ (r.join head).isStandalone := by
  simp only [join]
  split <;> exact Bool.false_ne_true

lemma Record.not_isHead_join {r : Record} {head : NodeId} (h : head ≠ r.id) :
    ¬ (r.join head).isHead := by
  rw [join, if_neg h]
  exact Bool.false_ne_true

/-- How the registry of a node goes together with its own record. -/
structure Registry.Fits (g : Registry) (own : Record) : Prop where
  neighbor : ∀ id r, g.neighbors.get? id = some r → r.id = id
  member : ∀ id r, g.members.get? id = some r →
    r.id = id ∧ g.neighbors.contains id ∧ r.cluster = some own.id ∧ own.isHead
  head : ∀ c, own.isMember → own.cluster = some c → g.neighbors.contains c
  others : ¬ g.neighbors.contains own.id

namespace Registry

variable {g g' : Registry} {own own' r : Record} {head : NodeId} {now : Timestamp}
  {timeout : Duration}

/-- The highest head is one of the neighbors. -/
lemma exists_of_highestHead? (h : g.highestHead? = some head) :
    ∃ id r, g.neighbors.get? id = some r ∧ r.isHead ∧ r.id = head := by
  have hfold (ids : List NodeId) (best : Option NodeId) :
      ids.foldl (fun best id => if best.all (fun b => b < id) then some id else best) best =
        some head → best = some head ∨ head ∈ ids := by
    induction ids generalizing best with
    | nil => exact .inl
    | cons id ids ih =>
      intro hf
      rcases ih _ hf with hb | hm
      · dsimp only at hb
        split at hb
        · exact .inr (Option.some.inj hb ▸ List.mem_cons_self)
        · exact .inl hb
      · exact .inr (List.mem_cons_of_mem _ hm)
  rcases hfold _ none h with hb | hm
  · cases hb
  · obtain ⟨r, hr, rfl⟩ := List.mem_map.1 hm
    obtain ⟨hv, hh⟩ := List.mem_filter.1 hr
    obtain ⟨⟨id, r⟩, he, rfl⟩ := List.mem_map.1 hv
    exact ⟨id, r, Table.get?_eq_some_iff.2 he, hh, rfl⟩

@[simp] lemma neighbors_noteCluster (g : Registry) (cluster : NodeId) (r : Record)
    (p : Provenance) : (g.noteCluster cluster r p).neighbors = g.neighbors := by
  simp only [noteCluster]
  split <;> rfl

@[simp] lemma members_noteCluster (g : Registry) (cluster : NodeId) (r : Record)
    (p : Provenance) : (g.noteCluster cluster r p).members = g.members := by
  simp only [noteCluster]
  split <;> rfl

/-- What is noted with authority takes the place of what is known. -/
lemma get?_noteCluster_authoritative (g : Registry) (c : NodeId) (r : Record) :
    (g.noteCluster c r .authoritative).foreign.get? c = some r := by
  simp only [noteCluster]
  split
  · rename_i hp
    cases hp
  · exact Table.get?_insert_self _ _ _

/-- Hearsay about a known cluster renews what is known. -/
lemma get?_noteCluster_hearsay {c : NodeId} {known : Record} (h : g.foreign.get? c = some known)
    (r : Record) :
    (g.noteCluster c r .hearsay).foreign.get? c =
      some { known with timestamp := known.timestamp.later r.timestamp } := by
  simp only [noteCluster, h]
  exact Table.get?_insert_self _ _ _

lemma get?_noteCluster_of_unknown {c : NodeId} (h : g.foreign.get? c = none) (r : Record)
    (p : Provenance) : (g.noteCluster c r p).foreign.get? c = some r := by
  simp only [noteCluster, h]
  exact Table.get?_insert_self _ _ _

lemma contains_noteCluster_self (g : Registry) (cluster : NodeId) (r : Record) (p : Provenance) :
    (g.noteCluster cluster r p).foreign.contains cluster := by
  simp only [noteCluster]
  split <;> exact Table.contains_of_get? (Table.get?_insert_self _ _ _)

/-- No other cluster is touched when one is noted. -/
lemma get?_noteCluster_of_ne {c c' : NodeId} (hne : c' ≠ c) (p : Provenance) :
    (g.noteCluster c r p).foreign.get? c' = g.foreign.get? c' := by
  simp only [noteCluster]
  split <;> exact Table.get?_insert_of_ne _ _ hne

lemma foreign_of_noteCluster {c c' : NodeId} {p : Provenance}
    (h : (g.noteCluster c r p).foreign.contains c') : c' = c ∨ g.foreign.contains c' := by
  by_cases hne : c' = c
  · exact .inl hne
  · rw [Table.contains, get?_noteCluster_of_ne hne] at h
    exact .inr h

namespace Fits

lemma empty (hs : own.isStandalone) : Registry.empty.Fits own := by
  constructor
  · intro id r h
    cases h
  · intro id r h
    cases h
  · intro c hm
    rw [Record.isStandalone, beq_iff_eq] at hs
    rw [Record.isMember, hs] at hm
    cases hm
  · intro h
    cases h

/-- Foreign clusters do not matter, nor does the rest of the own record. -/
lemma congr (h : g.Fits own) (hn : g'.neighbors = g.neighbors) (hm : g'.members = g.members)
    (hi : own'.id = own.id) (hr : own'.role = own.role) : g'.Fits own' := by
  have hd : own'.degree = own.degree := congrArg Prod.fst hr
  have hc : own'.cluster = own.cluster := congrArg Prod.snd hr
  constructor
  · rw [hn]
    exact h.neighbor
  · rw [hn, hm, hi, Record.isHead, hd]
    exact h.member
  · rw [hn, hc, Record.isMember, hd]
    exact h.head
  · rw [hn, hi]
    exact h.others

lemma highestHead (h : g.Fits own) (hh : g.highestHead? = some head) :
    g.neighbors.contains head := by
  obtain ⟨id, r, hr, -, rfl⟩ := exists_of_highestHead? hh
  rw [h.neighbor id r hr]
  exact Table.contains_of_get? hr

lemma ne_own (h : g.Fits own) {id : NodeId} (hid : g.neighbors.contains id) : id ≠ own.id := by
  rintro rfl
  exact h.others hid

/-- A node that does not lead has no members. -/
lemma isEmpty_members (h : g.Fits own) (hh : ¬ own.isHead) : g.members.isEmpty := by
  apply Table.isEmpty_of_get?
  intro id r hr
  exact hh (h.member id r hr).2.2.2

/-! ### Single records -/

lemma hear (h : g.Fits own) (hr : r.id ≠ own.id) : (g.hear r).Fits own := by
  constructor
  · intro id r' hr'
    rcases Table.of_get?_insert hr' with ⟨rfl, rfl⟩ | ⟨-, hr'⟩
    · rfl
    · exact h.neighbor id r' hr'
  · intro id r' hr'
    obtain ⟨hid, hn, hrest⟩ := h.member id r' hr'
    exact ⟨hid, Table.contains_insert_of_contains hn, hrest⟩
  · intro c hm hc
    exact Table.contains_insert_of_contains (h.head c hm hc)
  · intro hc
    rw [Table.contains, Registry.hear, Table.get?_insert_of_ne _ _ hr.symm] at hc
    exact h.others hc

lemma enrol (h : g.Fits own) (hn : g.neighbors.contains r.id) (hh : own.isHead)
    (hc : r.cluster = some own.id) : (g.enrol r).Fits own := by
  refine { h with member := ?_ }
  intro id r' hr'
  rcases Table.of_get?_insert hr' with ⟨rfl, rfl⟩ | ⟨-, hr'⟩
  · exact ⟨rfl, hn, hc, hh⟩
  · exact h.member id r' hr'

/-! ### Roles -/

lemma becomeHead (h : g.Fits own) : g.Fits own.becomeHead := by
  refine ⟨h.neighbor, ?_, ?_, h.others⟩
  · intro id r hr
    obtain ⟨hid, hn, hc, -⟩ := h.member id r hr
    exact ⟨hid, hn, hc, rfl⟩
  · intro c hm
    cases hm

lemma leave (h : g.Fits own) (hh : ¬ own.isHead) : g.Fits own.leave := by
  refine ⟨h.neighbor, ?_, ?_, h.others⟩
  · intro id r hr
    exact absurd (h.member id r hr).2.2.2 hh
  · intro c hm
    cases hm

/-- A node without members may join the cluster of a neighbor. -/
lemma join (h : g.Fits own) (he : g.members.isEmpty) (hn : g.neighbors.contains head) :
    g.Fits (own.join head) := by
  have hj : own.join head = own.setRole .member (some head) := if_neg (h.ne_own hn)
  rw [hj]
  refine ⟨h.neighbor, ?_, ?_, h.others⟩
  · intro id r hr
    exact absurd hr (Table.get?_ne_some_of_isEmpty he)
  · intro c _ hc
    cases hc
    exact hn

lemma forgetCluster (h : g.Fits own) (cluster : NodeId) : (g.forgetCluster cluster).Fits own :=
  h.congr rfl rfl rfl rfl

lemma noteCluster (h : g.Fits own) (cluster : NodeId) (r : Record) (p : Provenance) :
    (g.noteCluster cluster r p).Fits own :=
  h.congr (neighbors_noteCluster g cluster r p) (members_noteCluster g cluster r p) rfl rfl

/-! ### Upkeep -/

lemma dropStrayMembers (h : g.Fits own) : (g.dropStrayMembers own.id).Fits own := by
  refine { h with member := ?_ }
  intro id r hr
  rw [Registry.dropStrayMembers, Table.get?_filter_eq_some_iff] at hr
  exact h.member id r hr.1

/-- Neighbors may be dropped together with the members among them, but not the head of a member. -/
lemma drop (h : g.Fits own) (gone : List NodeId)
    (hh : ∀ c, own.isMember → own.cluster = some c → c ∉ gone) :
    ({ g with
      neighbors := g.neighbors.filter fun id _ => !gone.contains id
      members := g.members.filter fun id _ => !gone.contains id } : Registry).Fits own := by
  have hkeep {id : NodeId} (hn : g.neighbors.contains id) (hg : id ∉ gone) :
      (g.neighbors.filter fun id _ => !gone.contains id).contains id := by
    obtain ⟨r, hr⟩ := Table.contains_iff.1 hn
    exact Table.contains_of_get? (Table.get?_filter_eq_some_iff.2 ⟨hr, by simpa using hg⟩)
  constructor
  · intro id r hr
    exact h.neighbor id r (Table.get?_filter_eq_some_iff.1 hr).1
  · intro id r hr
    obtain ⟨hr, hg⟩ := Table.get?_filter_eq_some_iff.1 hr
    obtain ⟨hid, hn, hrest⟩ := h.member id r hr
    exact ⟨hid, hkeep hn (by simpa using hg), hrest⟩
  · intro c hm hc
    exact hkeep (h.head c hm hc) (hh c hm hc)
  · intro hc
    obtain ⟨r, hr⟩ := Table.contains_iff.1 hc
    exact h.others (Table.contains_of_get? (Table.get?_filter_eq_some_iff.1 hr).1)

lemma leave_if (h : g.Fits own) {b : Bool} (hb : b → ¬ own.isHead) :
    g.Fits (if b then own.leave else own) := by
  split
  · rename_i ht
    exact h.leave (hb ht)
  · exact h

lemma becomeHead_if (h : g.Fits own) (b : Bool) : g.Fits (if b then own.becomeHead else own) := by
  split
  · exact h.becomeHead
  · exact h

/-- A member whose head is dropped leaves the cluster first. -/
lemma prune (h : g.Fits own) (now : Timestamp) (timeout : Duration) :
    (g.prune own now timeout).1.Fits (g.prune own now timeout).2.1 := by
  simp only [Registry.prune]
  apply becomeHead_if
  apply drop
  · apply h.leave_if
    intro hl hh
    rw [hh] at hl
    cases hl
  · intro c hm hc hg
    split at hm
    · cases hm
    · rename_i hl
      rw [if_neg hl] at hc
      apply hl
      rw [Bool.eq_false_iff.2 (Record.not_isHead_of_isMember hm), hc]
      simpa using hg

lemma maintain (h : g.Fits own) (now : Timestamp) (timeout : Duration) :
    (g.maintain own now timeout).1.Fits (g.maintain own now timeout).2.1 := by
  have hd : ((g.dropStrayMembers own.id).reviewForeign own).Fits own :=
    h.dropStrayMembers.congr rfl rfl rfl rfl
  have hp := hd.prune now timeout
  refine congr (g := _) (hp.leave_if ?_) rfl rfl rfl rfl
  intro hb hh
  rw [Bool.and_eq_true, Bool.and_eq_true] at hb
  exact Record.not_isHead_of_isMember hb.1.1 hh

end Fits

end Registry

end ClusterWave
