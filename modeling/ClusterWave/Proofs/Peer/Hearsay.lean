import ClusterWave.Proofs.Peer.Upkeep
import Mathlib.Data.List.Induction
import Mathlib.Data.List.Infix

/-!
# Hearsay about foreign clusters

A registry learns of a foreign cluster with authority, by hearsay, or in a round of upkeep that
finds its head among the neighbors. As long as the cluster is not dropped, its entry says what was
said last with authority, and what was put in at first until then. Hearsay does no more than renew
the entry, and rounds of upkeep leave it as it is.
-/

namespace ClusterWave

namespace Registry

/-! ### Edits -/

/-- One change to a registry. -/
inductive Edit where
  | hear (r : Record)
  | enrol (r : Record)
  | dropMember (id : NodeId)
  | note (cluster : NodeId) (r : Record) (p : Provenance)
  | forget (cluster : NodeId)
  | prune (own : Record) (now : Timestamp) (timeout : Duration)
  | maintain (own : Record) (now : Timestamp) (timeout : Duration)

/-- The registry after an edit. -/
def edit (g : Registry) : Edit → Registry
  | .hear r => g.hear r
  | .enrol r => g.enrol r
  | .dropMember id => g.dropMember id
  | .note cluster r p => g.noteCluster cluster r p
  | .forget cluster => g.forgetCluster cluster
  | .prune own now timeout => (g.prune own now timeout).1
  | .maintain own now timeout => (g.maintain own now timeout).1

/-- The registry after some edits, one after the other. -/
def after (history : List Edit) : Registry := history.foldl edit empty

/-- How a cluster becomes known to a registry, and by which record. -/
inductive Edit.Introduces (g : Registry) (c : NodeId) (first : Record) : Edit → Prop where
  | noted (p : Provenance) : Introduces g c first (.note c first p)
  /-- A round of upkeep finds the head among the neighbors of a node of another cluster. -/
  | seen {own : Record} (now : Timestamp) (timeout : Duration)
      (hr : g.neighbors.get? c = some first) (hh : first.isHead) (hc : own.cluster ≠ some c) :
      Introduces g c first (.maintain own now timeout)

/-- What an edit says about a cluster with authority. -/
def Edit.word? (c : NodeId) : Edit → Option Record
  | .note cluster r .authoritative => if cluster = c then some r else none
  | _ => none

/-- What some edits have said last about a cluster with authority. -/
def lastWord? (c : NodeId) (history : List Edit) : Option Record :=
  (history.filterMap (Edit.word? c)).getLast?

/-- The entry of a cluster is put in by the edit `x` after those `before`, and it is not removed by
those that come `later`: it is there after each of them. -/
structure Stays (c : NodeId) (before : List Edit) (x : Edit) (later : List Edit) : Prop where
  new : ¬ (after before).foreign.contains c
  known : ∀ xs, xs <+: later → (after (before ++ x :: xs)).foreign.contains c

instance (c : NodeId) (before : List Edit) (x : Edit) (later : List Edit) :
    Decidable (Stays c before x later) :=
  decidable_of_iff (¬ (after before).foreign.contains c ∧
      ∀ xs ∈ later.inits, (after (before ++ x :: xs)).foreign.contains c)
    ⟨fun h => ⟨h.1, fun xs hx => h.2 xs ((List.mem_inits xs later).2 hx)⟩,
      fun h => ⟨h.new, fun xs hx => h.known xs ((List.mem_inits xs later).1 hx)⟩⟩

variable {g : Registry} {c : NodeId} {x : Edit} {known first e d : Record}
  {before later history : List Edit}

lemma after_snoc (history : List Edit) (x : Edit) :
    after (history ++ [x]) = (after history).edit x := List.foldl_concat _ _ _ _

lemma lastWord?_singleton (c : NodeId) (x : Edit) : lastWord? c [x] = x.word? c := by
  cases hx : x.word? c <;> simp [lastWord?, hx]

lemma lastWord?_append (c : NodeId) (xs ys : List Edit) :
    lastWord? c (xs ++ ys) = (lastWord? c ys).or (lastWord? c xs) := by
  rw [lastWord?, List.filterMap_append, List.getLast?_append]
  rfl

lemma word?_note_of_ne {cluster : NodeId} (h : cluster ≠ c) (r : Record) (p : Provenance) :
    (Edit.note cluster r p).word? c = none := by
  cases p with
  | authoritative => exact if_neg h
  | hearsay => rfl

/-! ### A single edit -/

/-- An entry that stays is replaced with authority, or it is renewed at most. -/
lemma of_get?_edit (hk : g.foreign.get? c = some known)
    (he : (g.edit x).foreign.get? c = some e) :
    x.word? c = some e ∨ x.word? c = none ∧ e = { known with timestamp := e.timestamp } ∧
      known.timestamp ≤ e.timestamp := by
  have hsame (hx : x.word? c = none) (hg : g.foreign.get? c = some e) :
      x.word? c = none ∧ e = { known with timestamp := e.timestamp } ∧
        known.timestamp ≤ e.timestamp := by
    rw [hk] at hg
    cases hg
    exact ⟨hx, rfl, Timestamp.le_refl _⟩
  cases x with
  | hear | enrol | dropMember | prune => exact .inr (hsame rfl he)
  | note cluster r p =>
    by_cases hc : cluster = c
    · subst hc
      cases p with
      | authoritative =>
        rw [edit, get?_noteCluster_authoritative] at he
        exact .inl ((if_pos rfl).trans he)
      | hearsay =>
        rw [edit, get?_noteCluster_hearsay hk] at he
        cases he
        exact .inr ⟨rfl, rfl, Timestamp.le_later _ _⟩
    · rw [edit, get?_noteCluster_of_ne (Ne.symm hc)] at he
      exact .inr (hsame (word?_note_of_ne hc r p) he)
  | forget => exact .inr (hsame rfl (Table.of_get?_erase he))
  | maintain =>
    -- A round of upkeep puts nothing in the place of what is known.
    rcases foreign_get?_of_maintain he with hg | ⟨hnone, -⟩
    · exact .inr (hsame rfl hg)
    · rw [hk] at hnone
      cases hnone

/-- An entry that was not there was introduced by the edit. -/
lemma introduces_of_get?_edit (hn : g.foreign.get? c = none)
    (he : (g.edit x).foreign.get? c = some e) : x.Introduces g c e := by
  have hkept {P : Prop} (hg : g.foreign.get? c = some e) : P := by
    rw [hn] at hg
    cases hg
  cases x with
  | hear | enrol | dropMember | prune => exact hkept he
  | note cluster r p =>
    by_cases hc : cluster = c
    · subst hc
      rw [edit, get?_noteCluster_of_unknown hn] at he
      cases he
      exact .noted p
    · rw [edit, get?_noteCluster_of_ne (Ne.symm hc)] at he
      exact hkept he
  | forget => exact hkept (Table.of_get?_erase he)
  | maintain own now timeout =>
    rcases foreign_get?_of_maintain he with hg | ⟨-, hr, hh, hb⟩
    · exact hkept hg
    · exact .seen now timeout hr hh fun hc => hb (beq_iff_eq.2 hc)

/-- What an edit says with authority about the cluster that it introduces is what it puts in. -/
lemma Edit.Introduces.eq_of_word? (h : x.Introduces g c first) (hx : x.word? c = some e) :
    e = first := by
  cases h with
  | noted p =>
    cases p with
    | authoritative => exact (Option.some.inj ((if_pos rfl).symm.trans hx)).symm
    | hearsay => cases hx
  | seen => cases hx

/-! ### Entries that stay -/

/-- What an edit makes of an entry at the end of a history. -/
lemma of_get?_after_snoc {y : Edit}
    (hd : (after (before ++ x :: later)).foreign.get? c = some d)
    (he : (after (before ++ x :: (later ++ [y]))).foreign.get? c = some e) :
    y.word? c = some e ∨ y.word? c = none ∧ e = { d with timestamp := e.timestamp } ∧
      d.timestamp ≤ e.timestamp := by
  rw [← List.cons_append, ← List.append_assoc, after_snoc] at he
  exact of_get?_edit hd he

lemma stays_snoc_iff {y : Edit} :
    Stays c before x (later ++ [y]) ↔
      Stays c before x later ∧ (after (before ++ x :: (later ++ [y]))).foreign.contains c := by
  constructor
  · intro h
    exact ⟨⟨h.new, fun xs hx => h.known xs (hx.trans (List.prefix_append later [y]))⟩,
      h.known _ (List.prefix_refl _)⟩
  · rintro ⟨h, hy⟩
    refine ⟨h.new, fun xs hx => ?_⟩
    rcases List.prefix_concat_iff.1 hx with rfl | hx
    · exact hy
    · exact h.known xs hx

/-- Every entry was put in by some edit and has stayed since. -/
lemma exists_stays (h : (after history).foreign.contains c) :
    ∃ before x later, history = before ++ x :: later ∧ Stays c before x later := by
  induction history using List.reverseRecOn with
  | nil => cases h
  | append_singleton history y ih =>
    -- The entry was there before the last edit, or the last edit has put it in.
    by_cases hk : (after history).foreign.contains c
    · obtain ⟨before, x, later, rfl, hs⟩ := ih hk
      rw [List.append_assoc, List.cons_append] at h ⊢
      exact ⟨before, x, later ++ [y], rfl, stays_snoc_iff.2 ⟨hs, h⟩⟩
    · refine ⟨history, y, [], rfl, hk, fun xs hx => ?_⟩
      rw [List.prefix_nil.1 hx]
      exact h

namespace Stays

lemma exists_get? (h : Stays c before x later) {xs : List Edit} (hx : xs <+: later) :
    ∃ e, (after (before ++ x :: xs)).foreign.get? c = some e :=
  Table.contains_iff.1 (h.known xs hx)

lemma introduces (h : Stays c before x later)
    (hf : (after (before ++ [x])).foreign.get? c = some first) :
    x.Introduces (after before) c first := by
  rw [after_snoc] at hf
  exact introduces_of_get?_edit (Option.not_isSome_iff_eq_none.1 h.new) hf

/-- Apart from the time, the entry says what was said last with authority, or at first. -/
lemma entry_eq (h : Stays c before x later)
    (hf : (after (before ++ [x])).foreign.get? c = some first)
    (he : (after (before ++ x :: later)).foreign.get? c = some e) :
    e = { (lastWord? c later).getD first with timestamp := e.timestamp } := by
  induction later using List.reverseRecOn generalizing e with
  | nil =>
    rw [hf] at he
    cases he
    rfl
  | append_singleton later y ih =>
    obtain ⟨h, -⟩ := stays_snoc_iff.1 h
    obtain ⟨d, hd⟩ := h.exists_get? (List.prefix_refl _)
    rw [lastWord?_append, lastWord?_singleton]
    rcases of_get?_after_snoc hd he with hy | ⟨hy, hsame, -⟩
    · rw [hy]
      rfl
    · rw [hy, Option.none_or, hsame, ih h hd]

/-- Until something is said with authority, the entry is not put back in time. -/
lemma timestamp_le {xs ys : List Edit} (h : Stays c before x (xs ++ ys))
    (hy : lastWord? c ys = none)
    (hd : (after (before ++ x :: xs)).foreign.get? c = some d)
    (he : (after (before ++ x :: (xs ++ ys))).foreign.get? c = some e) :
    d.timestamp ≤ e.timestamp := by
  induction ys using List.reverseRecOn generalizing e with
  | nil =>
    rw [List.append_nil, hd] at he
    cases he
    exact Timestamp.le_refl _
  | append_singleton ys y ih =>
    rw [← List.append_assoc] at h he
    obtain ⟨h, -⟩ := stays_snoc_iff.1 h
    obtain ⟨d', hd'⟩ := h.exists_get? (List.prefix_refl _)
    rw [lastWord?_append, lastWord?_singleton, Option.or_eq_none_iff] at hy
    rcases of_get?_after_snoc hd' he with hword | ⟨-, -, hle⟩
    · rw [hy.1] at hword
      cases hword
    · exact Timestamp.le_trans (ih h hy.2 hd') hle

end Stays

/-- Hearsay never displaces what is known with authority. Every entry of a foreign cluster was put
in by some edit and has stayed since. From then on, apart from the time, it says what was said last
with authority about the cluster, and what was put in at first as long as nothing was; and from one
such word to the next its timestamp never decreases. -/
theorem hearsay_displaces_nothing (history : List Edit) (c : NodeId) :
    ((after history).foreign.contains c →
      ∃ before x later, history = before ++ x :: later ∧ Stays c before x later) ∧
    ∀ before x later, history = before ++ x :: later → Stays c before x later →
      ∃ first e, x.Introduces (after before) c first ∧
        (after (before ++ [x])).foreign.get? c = some first ∧
        (after history).foreign.get? c = some e ∧
        (∀ r, lastWord? c (x :: later) = some r → e = { r with timestamp := e.timestamp }) ∧
        (lastWord? c (x :: later) = none → e = { first with timestamp := e.timestamp }) ∧
        ∀ xs ys d, later = xs ++ ys → lastWord? c ys = none →
          (after (before ++ x :: xs)).foreign.get? c = some d → d.timestamp ≤ e.timestamp := by
  refine ⟨exists_stays, ?_⟩
  rintro before x later rfl h
  obtain ⟨first, hf⟩ := h.exists_get? List.nil_prefix
  obtain ⟨e, he⟩ := h.exists_get? (List.prefix_refl later)
  have hintro := h.introduces hf
  have hentry := h.entry_eq hf he
  have hword : lastWord? c (x :: later) = (lastWord? c later).or (x.word? c) := by
    rw [← List.singleton_append, lastWord?_append, lastWord?_singleton]
  refine ⟨first, e, hintro, hf, he, ?_, ?_, ?_⟩
  · intro r hr
    rw [hword] at hr
    rcases Option.or_eq_some_iff.1 hr with hlater | ⟨hlater, hx⟩
    · rwa [hlater] at hentry
    · rw [hlater] at hentry
      rwa [hintro.eq_of_word? hx]
  · intro hr
    rw [hword, Option.or_eq_none_iff] at hr
    rwa [hr.1] at hentry
  · rintro xs ys d rfl hy hd
    exact h.timestamp_le hy hd he

/-- What is heard of cluster 20 from a member of it: the record of the member. -/
def rumour (time : Timestamp) : Record := Record.lone ⟨4⟩ Vec3.zero time

/-- The head of cluster 20, which stands at another place. -/
def talkedAbout : Record :=
  (Record.lone ⟨20⟩ ⟨.two, .zero, .zero⟩ (.ofMillis 500)).becomeHead

/-- The member is heard first, then the head speaks for itself, the member is heard again, and a
round of upkeep follows. -/
def talk : List Edit :=
  [.note ⟨20⟩ (rumour .start) .hearsay, .note ⟨20⟩ talkedAbout .authoritative,
    .note ⟨20⟩ (rumour (.ofMillis 900)) .hearsay,
    .maintain (Record.lone ⟨1⟩ Vec3.zero .start) (.ofMillis 1000) (.ofMillis 600)]

/-- The member renews the entry of its cluster, but it does not move the head. -/
theorem rumour_does_not_move_head :
    (∃ before x later, talk = before ++ x :: later ∧ Stays ⟨20⟩ before x later) ∧
      Stays ⟨20⟩ [] (.note ⟨20⟩ (rumour .start) .hearsay) talk.tail ∧
      ∃ e, (after talk).foreign.get? ⟨20⟩ = some e ∧
        e = { talkedAbout with timestamp := .ofMillis 900 } := by
  have hstays : Stays ⟨20⟩ [] (.note ⟨20⟩ (rumour .start) .hearsay) talk.tail := by decide
  obtain ⟨hexists, hall⟩ := hearsay_displaces_nothing talk ⟨20⟩
  obtain ⟨first, e, -, -, he, hword, -⟩ := hall [] _ talk.tail rfl hstays
  have hentry : e = { talkedAbout with timestamp := e.timestamp } :=
    hword talkedAbout (by decide)
  have htime : e.timestamp = .ofMillis 900 := by
    have hmap : ((after talk).foreign.get? ⟨20⟩).map Record.timestamp = some (.ofMillis 900) := by
      decide
    rw [he] at hmap
    exact Option.some.inj hmap
  rw [htime] at hentry
  exact ⟨hexists (by decide), hstays, e, he, hentry⟩

end Registry

end ClusterWave
