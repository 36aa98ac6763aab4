import ClusterWave.Proofs.Peer.Registry
import ClusterWave.Proofs.Time

/-!
# Rounds of upkeep

What a round of upkeep takes away and what it leaves. For a foreign cluster only the neighbor
matters after which it is named. A node keeps its role in a round if it hears its head in time, as a
head, and if it does not lose its last neighbor.
-/

namespace ClusterWave

namespace Registry

variable {g : Registry} {own r e : Record} {now : Timestamp} {timeout : Duration} {id c : NodeId}

/-- What was heard long ago was heard before. -/
lemma lt_of_isStale (h : isStale now timeout r) : r.timestamp < now := by
  have hlt : timeout.nanos < (now.since r.timestamp).nanos := of_decide_eq_true h
  rw [Timestamp.since, Duration.nanos_ofNanos] at hlt
  have hlt := Nat.lt_of_lt_of_le hlt (Nat.min_le_left _ _)
  show r.timestamp.micros.toNat < now.micros.toNat
  omega

/-- What was heard within the timeout is not dropped. -/
lemma not_isStale {micros : Nat} (ht : timeout.nanos = micros * 1000)
    (h : now.micros.toNat ≤ r.timestamp.micros.toNat + micros) : ¬ isStale now timeout r := by
  intro hs
  have hlt : timeout.nanos < (now.since r.timestamp).nanos := of_decide_eq_true hs
  rw [Timestamp.since, Duration.nanos_ofNanos] at hlt
  omega

lemma not_isStale_iff : ¬ isStale now timeout r ↔ now.since r.timestamp ≤ timeout := by
  rw [isStale, decide_eq_true_eq]
  exact Nat.not_lt

/-! ### Neighbors -/

/-- The neighbors that time out. -/
def expired (g : Registry) (now : Timestamp) (timeout : Duration) : List NodeId :=
  (g.neighbors.values.filter (isStale now timeout)).map Record.id

lemma mem_expired_iff (hk : ∀ id r, g.neighbors.get? id = some r → r.id = id) :
    c ∈ g.expired now timeout ↔
      ∃ r, g.neighbors.get? c = some r ∧ isStale now timeout r := by
  constructor
  · intro h
    obtain ⟨r, hr, rfl⟩ := List.mem_map.1 h
    obtain ⟨hv, hs⟩ := List.mem_filter.1 hr
    obtain ⟨⟨id, r⟩, he, rfl⟩ := List.mem_map.1 hv
    have hget := Table.get?_eq_some_iff.2 he
    exact ⟨r, (hk id r hget).symm ▸ hget, hs⟩
  · rintro ⟨r, hr, hs⟩
    refine List.mem_map.2 ⟨r, List.mem_filter.2 ⟨?_, hs⟩, hk c r hr⟩
    exact List.mem_map.2 ⟨(c, r), Table.get?_eq_some_iff.1 hr, rfl⟩

lemma neighbors_maintain (g : Registry) (own : Record) (now : Timestamp) (timeout : Duration) :
    (g.maintain own now timeout).1.neighbors =
      g.neighbors.filter fun id _ => !(g.expired now timeout).contains id := rfl

lemma get?_of_maintain (h : (g.maintain own now timeout).1.neighbors.get? id = some r) :
    g.neighbors.get? id = some r := by
  rw [neighbors_maintain, Table.get?_filter_eq_some_iff] at h
  exact h.1

/-- A neighbor that was heard in time stays. -/
lemma get?_maintain (hk : ∀ id r, g.neighbors.get? id = some r → r.id = id)
    (hr : g.neighbors.get? id = some r) (hs : ¬ isStale now timeout r) :
    (g.maintain own now timeout).1.neighbors.get? id = some r := by
  rw [neighbors_maintain, Table.get?_filter_eq_some_iff]
  refine ⟨hr, ?_⟩
  rw [Bool.not_eq_true', List.contains_eq_mem, decide_eq_false_iff_not, mem_expired_iff hk]
  rintro ⟨r', hr', hs'⟩
  rw [hr] at hr'
  exact hs (Option.some.inj hr' ▸ hs')

lemma get?_maintain_iff (hk : ∀ id r, g.neighbors.get? id = some r → r.id = id) :
    (g.maintain own now timeout).1.neighbors.get? id = some r ↔
      g.neighbors.get? id = some r ∧ now.since r.timestamp ≤ timeout := by
  rw [← not_isStale_iff]
  constructor
  · intro h
    have hr := get?_of_maintain h
    refine ⟨hr, fun hs => ?_⟩
    rw [neighbors_maintain, Table.get?_filter_eq_some_iff, Bool.not_eq_true', List.contains_eq_mem,
      decide_eq_false_iff_not, mem_expired_iff hk] at h
    exact h.2 ⟨r, hr, hs⟩
  · rintro ⟨hr, hs⟩
    exact get?_maintain hk hr hs

/-! ### Foreign clusters -/

lemma get?_lookAtNeighbor_of_ne (t : Table NodeId Record) (r : Record) (hne : c ≠ id) :
    (lookAtNeighbor own t id r).get? c = t.get? c := by
  simp only [lookAtNeighbor]
  split
  · split
    · rfl
    · exact Table.get?_insert_of_ne _ _ hne
  · exact Table.get?_erase_of_ne _ hne

lemma get?_lookAtNeighbor_self (t : Table NodeId Record) (id : NodeId) (r : Record) :
    (lookAtNeighbor own t id r).get? id =
      if r.isHead && !own.belongsTo id then (t.get? id).or (some r) else none := by
  simp only [lookAtNeighbor]
  split
  · by_cases hknown : t.contains id
    · obtain ⟨e, he⟩ := Table.contains_iff.1 hknown
      rw [if_pos hknown, he]
      rfl
    · have hnone : t.get? id = none := Option.not_isSome_iff_eq_none.1 hknown
      rw [if_neg hknown, hnone]
      exact Table.get?_insert_self _ _ _
  · exact Table.get?_erase_self _ _

/-- The review of the foreign clusters comes down to a look at the one neighbor, if there is one,
after which the cluster is named. -/
lemma get?_reviewForeign (g : Registry) (own : Record) (c : NodeId) :
    (g.reviewForeign own).foreign.get? c =
      match g.neighbors.get? c with
      | none => g.foreign.get? c
      | some r =>
        if r.isHead && !own.belongsTo c then (g.foreign.get? c).or (some r) else none := by
  have hothers (es : List (NodeId × Record)) (t : Table NodeId Record)
      (h : ∀ e ∈ es, c ≠ e.1) :
      (es.foldl (fun t e => lookAtNeighbor own t e.1 e.2) t).get? c = t.get? c := by
    induction es generalizing t with
    | nil => rfl
    | cons e es ih =>
      rw [List.foldl_cons, ih _ fun e' he' => h e' (List.mem_cons_of_mem e he')]
      exact get?_lookAtNeighbor_of_ne t e.2 (h e List.mem_cons_self)
  have hfold : (g.reviewForeign own).foreign =
      g.neighbors.entries.foldl (fun t e => lookAtNeighbor own t e.1 e.2) g.foreign := rfl
  rw [hfold]
  cases hr : g.neighbors.get? c with
  | none =>
    refine hothers _ _ ?_
    rintro ⟨id, r⟩ he rfl
    rw [Table.get?_eq_some_iff.2 he] at hr
    cases hr
  | some r =>
    -- The neighbors before and after this one bear other numbers.
    obtain ⟨before, after, he⟩ := List.append_of_mem (Table.get?_eq_some_iff.1 hr)
    have hsorted := g.neighbors.sorted
    rw [he, List.pairwise_append, List.pairwise_cons] at hsorted
    obtain ⟨-, ⟨hafter, -⟩, hbefore⟩ := hsorted
    have hne {e : NodeId × Record} (h : rank e.1 < rank c ∨ rank c < rank e.1) : c ≠ e.1 := by
      rintro rfl
      omega
    rw [he, List.foldl_append, List.foldl_cons,
      hothers after _ fun e hm => hne (.inr (hafter e hm)), get?_lookAtNeighbor_self,
      hothers before _ fun e hm => hne (.inl (hbefore e hm _ List.mem_cons_self))]

lemma get?_pruneForeign_iff :
    (g.pruneForeign now timeout).1.foreign.get? c = some e ↔
      g.foreign.get? c = some e ∧ now.since e.timestamp ≤ timeout := by
  have hmem : c ∈ (g.foreign.entries.filter fun p => isStale now timeout p.2).map (·.1) ↔
      ∃ r, g.foreign.get? c = some r ∧ isStale now timeout r := by
    simp only [List.mem_map, List.mem_filter, Table.get?_eq_some_iff]
    constructor
    · rintro ⟨⟨c, r⟩, hr, rfl⟩
      exact ⟨r, hr⟩
    · rintro ⟨r, hr⟩
      exact ⟨(c, r), hr, rfl⟩
  simp only [pruneForeign]
  rw [Table.get?_filter_eq_some_iff, Bool.not_eq_true', List.contains_eq_mem,
    decide_eq_false_iff_not, ← not_isStale_iff]
  refine and_congr_right fun he => not_congr (hmem.trans ⟨?_, fun hs => ⟨e, he, hs⟩⟩)
  rintro ⟨r, hr, hs⟩
  rw [he] at hr
  exact Option.some.inj hr ▸ hs

lemma foreign_maintain_iff :
    (g.maintain own now timeout).1.foreign.get? c = some e ↔
      (g.reviewForeign own).foreign.get? c = some e ∧ now.since e.timestamp ≤ timeout :=
  get?_pruneForeign_iff (g := g.reviewForeign own)

/-- A foreign cluster stays as it is known, or it is not known yet and its head is a neighbor. -/
lemma foreign_get?_of_maintain (h : (g.maintain own now timeout).1.foreign.get? c = some e) :
    g.foreign.get? c = some e ∨
      g.foreign.get? c = none ∧ g.neighbors.get? c = some e ∧ e.isHead ∧ ¬ own.belongsTo c := by
  have hreview := (foreign_maintain_iff.1 h).1
  rw [get?_reviewForeign] at hreview
  cases hr : g.neighbors.get? c with
  | none =>
    rw [hr] at hreview
    exact .inl hreview
  | some r =>
    rw [hr] at hreview
    dsimp only at hreview
    split at hreview
    · rename_i hlead
      rw [Bool.and_eq_true, Bool.not_eq_true'] at hlead
      cases hknown : g.foreign.get? c with
      | some known =>
        rw [hknown] at hreview
        exact .inl hreview
      | none =>
        rw [hknown] at hreview
        cases hreview
        exact .inr ⟨rfl, rfl, hlead.1, Bool.eq_false_iff.1 hlead.2⟩
    · cases hreview

/-- A foreign cluster was known, or its head is a neighbor. -/
lemma foreign_of_maintain (h : (g.maintain own now timeout).1.foreign.contains c) :
    g.foreign.contains c ∨
      ∃ r, g.neighbors.get? c = some r ∧ r.isHead ∧ ¬ own.belongsTo c := by
  obtain ⟨e, he⟩ := Table.contains_iff.1 h
  rcases foreign_get?_of_maintain he with he | ⟨-, hrest⟩
  · exact .inl (Table.contains_of_get? he)
  · exact .inr ⟨e, hrest⟩

/-! ### Roles -/

/-- What may keep a node from losing its cluster or its last neighbor: it leads, or it hears its
head in time and a neighbor is left, or nothing is old. -/
def Quiet (g : Registry) (own : Record) (now : Timestamp) (timeout : Duration) : Prop :=
  own.isHead ∨
    (∀ c, own.cluster = some c → ∀ r, g.neighbors.get? c = some r → ¬ isStale now timeout r) ∧
      ((∃ id r, g.neighbors.get? id = some r ∧ ¬ isStale now timeout r) ∨
        ∀ id r, g.neighbors.get? id = some r → ¬ isStale now timeout r)

lemma prune_of_quiet (hk : ∀ id r, g.neighbors.get? id = some r → r.id = id)
    (h : g.Quiet own now timeout) :
    (g.prune own now timeout).2 = (own, ⟨g.expired now timeout, [], false, false, false⟩) := by
  have hlost : (!own.isHead && own.cluster.any (g.expired now timeout).contains) = false := by
    rcases h with hh | ⟨hc, -⟩
    · rw [hh]
      rfl
    · cases hown : own.cluster with
      | none => simp
      | some c =>
        rw [Bool.and_eq_false_iff]
        right
        rw [Option.any_some, List.contains_eq_mem, decide_eq_false_iff_not, mem_expired_iff hk]
        rintro ⟨r, hr, hs⟩
        exact hc c hown r hr hs
  have hlone : (!(g.expired now timeout).isEmpty &&
      (g.neighbors.filter fun id _ => !(g.expired now timeout).contains id).isEmpty &&
        !own.isHead) = false := by
    rcases h with hh | ⟨-, ⟨id, r, hr, hs⟩ | hs⟩
    · rw [hh]
      simp
    · have hkept : (g.maintain own now timeout).1.neighbors.get? id = some r :=
        get?_maintain hk hr hs
      rw [neighbors_maintain] at hkept
      have hne : (g.neighbors.filter fun id _ => !(g.expired now timeout).contains id).isEmpty =
          false := by
        rw [Bool.eq_false_iff]
        intro he
        exact Table.get?_ne_some_of_isEmpty he hkept
      rw [hne]
      simp
    · have hnil : g.expired now timeout = [] := by
        rw [List.eq_nil_iff_forall_not_mem]
        intro c hc
        obtain ⟨r, hr, hst⟩ := (mem_expired_iff hk).1 hc
        exact hs c r hr hst
      rw [hnil]
      rfl
  simp only [expired] at hlost hlone ⊢
  simp only [prune, hlost, Bool.false_eq_true, if_false, hlone]

/-- So the node goes through upkeep as it is, provided that a member hears its head as a head. -/
lemma maintain_of_quiet (hk : ∀ id r, g.neighbors.get? id = some r → r.id = id)
    (h : g.Quiet own now timeout) (hv : own.isMember → g.headVisible own) :
    (g.maintain own now timeout).2.1 = own ∧
      (g.maintain own now timeout).2.2.lostHead = false ∧
      (g.maintain own now timeout).2.2.becameHead = false := by
  have hprune := prune_of_quiet (g := (g.dropStrayMembers own.id).reviewForeign own) hk h
  have horphan : (own.isMember && !g.headVisible own && !false) = false := by
    cases hm : own.isMember with
    | false => rfl
    | true =>
      rw [hv hm]
      rfl
  simp only [maintain, hprune, horphan, Bool.false_eq_true, if_false, and_self]

end Registry

end ClusterWave
