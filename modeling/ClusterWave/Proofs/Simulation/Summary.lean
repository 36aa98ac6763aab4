import ClusterWave.Simulation.Snapshot
import Mathlib.Data.List.Nodup
import Mathlib.Data.List.Perm.Basic
import Mathlib.Tactic.Lemma

/-!
# Clusters in a summary

A summary files every node once: as a head, under its head, as one that stands alone, or as one
whose head is not there. The heads are taken down before any node is filed, and so it does not
matter in which order the nodes come. From the summary one can tell the head of every node, and
whether all nodes have settled.
-/

namespace ClusterWave

/-! ### Nodes and their heads -/

namespace NodeSummary

variable {n : NodeSummary} {head : NodeId}

/-- Whether a node is a member of the cluster of a head. -/
def follows (n : NodeSummary) (head : NodeId) : Bool :=
  n.degree == .member && n.cluster == some head

lemma follows_iff : n.follows head ↔ n.degree = .member ∧ n.cluster = some head := by
  simp [follows]

lemma isHead_iff : n.isHead ↔ n.degree = .head := by
  simp [isHead]

lemma isConsistent_iff : n.isConsistent ↔ (n.degree = .head ↔ n.cluster = some n.id) := by
  simp only [isConsistent, isHead, beq_iff_eq]
  rw [Bool.eq_iff_iff, beq_iff_eq, beq_iff_eq]

lemma not_follows_of_isHead (h : n.isHead) : ¬n.follows head := by
  rw [follows_iff, isHead_iff.1 h]
  exact fun hm => nomatch hm.1

lemma eq_of_follows {head' : NodeId} (h : n.follows head) (h' : n.follows head') : head = head' :=
  Option.some.inj ((follows_iff.1 h).2.symm.trans (follows_iff.1 h').2)

end NodeSummary

/-- Whether one of some nodes is a head of a given number. -/
def Leads (nodes : List NodeSummary) (head : NodeId) : Prop := ∃ n ∈ nodes, n.isHead ∧ n.id = head

instance (nodes : List NodeSummary) (head : NodeId) : Decidable (Leads nodes head) :=
  inferInstanceAs (Decidable (∃ n ∈ nodes, n.isHead ∧ n.id = head))

/-- Whether a node is a member of which the head is not among some nodes. -/
def Strays (nodes : List NodeSummary) (n : NodeSummary) : Prop :=
  n.degree = .member ∧ ∀ head ∈ n.cluster, ¬Leads nodes head

instance (nodes : List NodeSummary) (n : NodeSummary) : Decidable (Strays nodes n) :=
  inferInstanceAs (Decidable (n.degree = .member ∧ ∀ head ∈ n.cluster, ¬Leads nodes head))

/-- The members of the cluster of a head, in order. -/
def followers (nodes : List NodeSummary) (head : NodeId) : List NodeId :=
  (nodes.filter (·.follows head)).map NodeSummary.id

namespace ClusterSummary

variable {s : ClusterSummary} {n : NodeSummary} {nodes done : List NodeSummary} {head id : NodeId}

/-! ### Filing a node -/

/-- List a node that is inconsistent. -/
def note (s : ClusterSummary) (n : NodeSummary) : ClusterSummary :=
  if n.isConsistent then s else { s with inconsistent := s.inconsistent ++ [n.id] }

@[simp]
lemma clusters_note (s : ClusterSummary) (n : NodeSummary) : (s.note n).clusters = s.clusters := by
  rw [note]
  split <;> rfl

@[simp]
lemma standalone_note (s : ClusterSummary) (n : NodeSummary) :
    (s.note n).standalone = s.standalone := by
  rw [note]
  split <;> rfl

@[simp]
lemma dangling_note (s : ClusterSummary) (n : NodeSummary) : (s.note n).dangling = s.dangling := by
  rw [note]
  split <;> rfl

lemma inconsistent_fileMember (s : ClusterSummary) (id : NodeId) (cluster : Option NodeId) :
    (s.fileMember id cluster).inconsistent = s.inconsistent := by
  simp only [fileMember]
  split <;> rfl

lemma file_of_head (s : ClusterSummary) (h : n.degree = .head) : s.file n = s.note n := by
  simp only [file, h, note]

lemma file_of_standalone (s : ClusterSummary) (h : n.degree = .standalone) :
    s.file n = { s.note n with standalone := (s.note n).standalone ++ [n.id] } := by
  simp only [file, h, note]

lemma file_of_member (s : ClusterSummary) (h : n.degree = .member) :
    s.file n = (s.note n).fileMember n.id n.cluster := by
  simp only [file, h, note]

/-- A member is filed under its head if the head is there. -/
lemma file_of_follows {members : List NodeId} (h : n.follows head)
    (hm : s.clusters.get? head = some members) :
    s.file n = { s.note n with clusters := s.clusters.insert head (members ++ [n.id]) } := by
  obtain ⟨hd, hc⟩ := NodeSummary.follows_iff.1 h
  rw [file_of_member s hd, hc]
  simp only [fileMember, Option.bind_some, clusters_note, hm, Option.map_some]

/-- A member whose head is not there is put with the others of the kind. -/
lemma file_of_stray (hd : n.degree = .member)
    (h : ∀ head ∈ n.cluster, s.clusters.get? head = none) :
    s.file n = { s.note n with dangling := s.dangling ++ [n.id] } := by
  rw [file_of_member s hd]
  cases hc : n.cluster with
  | none => simp only [fileMember, Option.bind_none, dangling_note]
  | some head =>
    simp only [fileMember, Option.bind_some, clusters_note, h head hc, Option.map_none,
      dangling_note]

lemma inconsistent_file (s : ClusterSummary) (n : NodeSummary) :
    (s.file n).inconsistent = (s.note n).inconsistent := by
  cases hd : n.degree with
  | head => rw [file_of_head s hd]
  | member => rw [file_of_member s hd, inconsistent_fileMember]
  | standalone => rw [file_of_standalone s hd]

/-- The inconsistent nodes are listed in order. -/
lemma inconsistent_ofNodes (ns : List NodeSummary) :
    (ofNodes ns).inconsistent = (ns.filter fun n => !n.isConsistent).map NodeSummary.id := by
  have hfold (s : ClusterSummary) : (ns.foldl file s).inconsistent =
      s.inconsistent ++ (ns.filter fun n => !n.isConsistent).map NodeSummary.id := by
    induction ns generalizing s with
    | nil => simp
    | cons n ns ih =>
      rw [List.foldl_cons, ih, inconsistent_file, note]
      cases hn : n.isConsistent <;> simp [hn]
  simp [ofNodes, hfold]

/-! ### Who is in one of the lists -/

/-- The nodes that are in a list of members, or stand alone, or dangle. -/
def listed (s : ClusterSummary) : List NodeId :=
  s.clusters.values.flatten ++ s.standalone ++ s.dangling

lemma listed_file_of_head (s : ClusterSummary) (h : n.degree = .head) :
    (s.file n).listed = s.listed := by
  simp only [file_of_head s h, listed, clusters_note, standalone_note, dangling_note]

lemma listed_file_of_standalone (s : ClusterSummary) (h : n.degree = .standalone) :
    (s.file n).listed.Perm (s.listed ++ [n.id]) := by
  simp only [file_of_standalone s h, listed, clusters_note, standalone_note, dangling_note]
  rw [List.perm_iff_count]
  intro id
  simp only [List.count_append]
  omega

lemma listed_file_of_follows {members : List NodeId} (h : n.follows head)
    (hm : s.clusters.get? head = some members) : (s.file n).listed.Perm (s.listed ++ [n.id]) := by
  obtain ⟨l, r, hvalues, hinsert⟩ := Table.exists_values hm
  simp only [file_of_follows h hm, listed, standalone_note, dangling_note, hvalues, hinsert,
    List.flatten_append, List.flatten_cons]
  rw [List.perm_iff_count]
  intro id
  simp only [List.count_append]
  omega

lemma listed_file_of_stray (hd : n.degree = .member)
    (h : ∀ head ∈ n.cluster, s.clusters.get? head = none) :
    (s.file n).listed = s.listed ++ [n.id] := by
  simp only [file_of_stray hd h, listed, clusters_note, standalone_note, List.append_assoc]

/-! ### Filing all nodes -/

/-- The heads are taken down with no members. -/
lemma get?_heads (nodes : List NodeSummary) (head : NodeId) :
    (heads nodes).get? head = if Leads nodes head then some [] else none := by
  have hfold (ns : List NodeSummary) (t : Table NodeId (List NodeId)) :
      (ns.foldl (fun t n => t.insert n.id []) t).get? head =
        if ∃ n ∈ ns, n.id = head then some [] else t.get? head := by
    induction ns generalizing t with
    | nil => simp
    | cons n ns ih =>
      rw [List.foldl_cons, ih]
      by_cases hn : head = n.id
      · simp [hn, Table.get?_insert_self]
      · simp [Table.get?_insert_of_ne _ _ hn, Ne.symm hn]
  rw [heads, hfold, Table.get?_empty]
  exact if_congr (by simp only [Leads, List.mem_filter, and_assoc]) rfl rfl

lemma flatten_values_heads (nodes : List NodeSummary) : (heads nodes).values.flatten = [] := by
  rw [List.flatten_eq_nil_iff]
  intro members hmem
  obtain ⟨⟨head, _⟩, hentry, rfl⟩ := List.mem_map.1 hmem
  have hget := Table.get?_eq_some_iff.2 hentry
  rw [get?_heads, Option.ite_none_right_eq_some] at hget
  exact (Option.some.inj hget.2).symm

/-- What a summary shows when some nodes have been filed under the heads of all. -/
structure Filed (nodes done : List NodeSummary) (s : ClusterSummary) : Prop where
  clusters : ∀ head, s.clusters.get? head =
    if Leads nodes head then some (followers done head) else none
  standalone : s.standalone = (done.filter (·.degree = .standalone)).map NodeSummary.id
  dangling : s.dangling = (done.filter (Strays nodes ·)).map NodeSummary.id
  /-- All but the heads are in one of the lists, once. -/
  listed : s.listed.Perm ((done.filter (!·.isHead)).map NodeSummary.id)

lemma filed_heads (nodes : List NodeSummary) : Filed nodes [] ⟨heads nodes, [], [], []⟩ where
  clusters := get?_heads nodes
  standalone := rfl
  dangling := rfl
  listed := by
    rw [ClusterSummary.listed, flatten_values_heads]
    exact List.Perm.nil

namespace Filed

lemma get?_eq_none_iff (h : Filed nodes done s) :
    s.clusters.get? head = none ↔ ¬Leads nodes head := by
  rw [h.clusters]
  split <;> simp [*]

lemma get?_eq_some_iff {members : List NodeId} (h : Filed nodes done s) :
    s.clusters.get? head = some members ↔ Leads nodes head ∧ members = followers done head := by
  rw [h.clusters, Option.ite_none_right_eq_some, Option.some_inj, eq_comm (a := members)]

lemma file_head (h : Filed nodes done s) (hd : n.degree = .head) :
    Filed nodes (done ++ [n]) (s.file n) where
  clusters head := by
    simp [file_of_head s hd, h.clusters, followers, NodeSummary.follows, hd]
  standalone := by simp [file_of_head s hd, h.standalone, hd]
  dangling := by simp [file_of_head s hd, h.dangling, Strays, hd]
  listed := by
    rw [listed_file_of_head s hd]
    simpa [NodeSummary.isHead, hd] using h.listed

lemma file_standalone (h : Filed nodes done s) (hd : n.degree = .standalone) :
    Filed nodes (done ++ [n]) (s.file n) where
  clusters head := by
    simp [file_of_standalone s hd, h.clusters, followers, NodeSummary.follows, hd]
  standalone := by simp [file_of_standalone s hd, h.standalone, hd]
  dangling := by simp [file_of_standalone s hd, h.dangling, Strays, hd]
  listed := by
    refine (listed_file_of_standalone s hd).trans ?_
    simpa [NodeSummary.isHead, hd] using h.listed.append_right [n.id]

lemma file_stray (h : Filed nodes done s) (hn : Strays nodes n) :
    Filed nodes (done ++ [n]) (s.file n) := by
  have ⟨hd, hc⟩ := hn
  have hnone : ∀ head ∈ n.cluster, s.clusters.get? head = none := fun head hhead =>
    h.get?_eq_none_iff.2 (hc head hhead)
  refine ⟨fun head => ?_, ?_, ?_, ?_⟩
  · rw [file_of_stray hd hnone, clusters_note, h.clusters]
    by_cases hl : Leads nodes head
    · have hnf : ¬n.follows head := fun hf => hc head (NodeSummary.follows_iff.1 hf).2 hl
      simp [hl, followers, hnf]
    · simp [hl]
  · simp [file_of_stray hd hnone, h.standalone, hd]
  · simp [file_of_stray hd hnone, h.dangling, hn]
  · rw [listed_file_of_stray hd hnone]
    simpa [NodeSummary.isHead, hd] using h.listed.append_right [n.id]

lemma file_follows (h : Filed nodes done s) (hn : n.follows head) (hl : Leads nodes head) :
    Filed nodes (done ++ [n]) (s.file n) := by
  obtain ⟨hd, hc⟩ := NodeSummary.follows_iff.1 hn
  have hget := h.get?_eq_some_iff.2 ⟨hl, rfl⟩
  have hstray : ¬Strays nodes n := fun hs => hs.2 head hc hl
  refine ⟨fun head' => ?_, ?_, ?_, ?_⟩
  · rw [file_of_follows hn hget]
    by_cases he : head' = head
    · subst he
      simp [Table.get?_insert_self, hl, followers, hn]
    · have hnf : ¬n.follows head' := fun hf => he (NodeSummary.eq_of_follows hf hn)
      simp [Table.get?_insert_of_ne _ _ he, h.clusters, followers, hnf]
  · simp [file_of_follows hn hget, h.standalone, hd]
  · simp [file_of_follows hn hget, h.dangling, hstray]
  · refine (listed_file_of_follows hn hget).trans ?_
    simpa [NodeSummary.isHead, hd] using h.listed.append_right [n.id]

/-- One more node is filed. -/
lemma file (h : Filed nodes done s) (n : NodeSummary) : Filed nodes (done ++ [n]) (s.file n) := by
  cases hd : n.degree with
  | head => exact h.file_head hd
  | standalone => exact h.file_standalone hd
  | member =>
    by_cases hstray : Strays nodes n
    · exact h.file_stray hstray
    · obtain ⟨head, hc, hl⟩ : ∃ head ∈ n.cluster, Leads nodes head := by
        simpa [Strays, hd] using hstray
      exact h.file_follows (NodeSummary.follows_iff.2 ⟨hd, hc⟩) hl

lemma foldl (h : Filed nodes done s) (ns : List NodeSummary) :
    Filed nodes (done ++ ns) (ns.foldl ClusterSummary.file s) := by
  induction ns generalizing done s with
  | nil => rwa [List.append_nil]
  | cons n ns ih =>
    rw [List.append_cons]
    exact ih (h.file n)

end Filed

/-- All nodes are filed in the end, whatever their order. -/
lemma filed_ofNodes (nodes : List NodeSummary) : Filed nodes nodes (ofNodes nodes) :=
  (filed_heads nodes).foldl nodes

/-! ### The head of a node -/

/-- A head that is found leads the node, or has it among its members. -/
lemma of_headOf? (h : s.headOf? id = some head) :
    ∃ members, s.clusters.get? head = some members ∧ (head = id ∨ id ∈ members) := by
  obtain ⟨⟨_, members⟩, hfind, rfl⟩ := Option.map_eq_some_iff.1 h
  have hpred := List.find?_some hfind
  simp only [Bool.or_eq_true, beq_iff_eq, List.contains_iff_mem] at hpred
  exact ⟨members, Table.get?_eq_some_iff.2 (List.mem_of_find?_eq_some hfind), hpred⟩

lemma exists_headOf? {members : List NodeId} (h : s.clusters.get? head = some members)
    (hid : head = id ∨ id ∈ members) : ∃ head', s.headOf? id = some head' := by
  rw [← Option.isSome_iff_exists, headOf?, Option.isSome_map, List.find?_isSome]
  refine ⟨(head, members), Table.get?_eq_some_iff.1 h, ?_⟩
  simpa only [Bool.or_eq_true, beq_iff_eq, List.contains_iff_mem] using hid

/-- Who leads a cluster or is a member of it. -/
lemma Filed.exists_get?_iff (h : Filed nodes nodes s) :
    (∃ members, s.clusters.get? head = some members ∧ (head = id ∨ id ∈ members)) ↔
      ∃ n ∈ nodes, n.id = id ∧ (n.isHead ∧ head = id ∨ n.follows head ∧ Leads nodes head) := by
  simp only [h.get?_eq_some_iff]
  constructor
  · rintro ⟨_, ⟨hl, rfl⟩, rfl | hid⟩
    · obtain ⟨n, hn, hhead, hid⟩ := hl
      exact ⟨n, hn, hid, .inl ⟨hhead, rfl⟩⟩
    · obtain ⟨n, hn, rfl⟩ := List.mem_map.1 hid
      obtain ⟨hn, hf⟩ := List.mem_filter.1 hn
      exact ⟨n, hn, rfl, .inr ⟨hf, hl⟩⟩
  · rintro ⟨n, hn, rfl, ⟨hhead, rfl⟩ | ⟨hf, hl⟩⟩
    · exact ⟨_, ⟨⟨n, hn, hhead, rfl⟩, rfl⟩, .inl rfl⟩
    · exact ⟨_, ⟨hl, rfl⟩, .inr (List.mem_map.2 ⟨n, List.mem_filter.2 ⟨hn, hf⟩, rfl⟩)⟩

/-- Whether all have settled can be told from the nodes one by one. -/
lemma isSettled_ofNodes_iff : (ofNodes nodes).isSettled ↔
    ∀ n ∈ nodes, n.degree ≠ .standalone ∧ ¬Strays nodes n ∧ n.isConsistent := by
  have hfiled := filed_ofNodes nodes
  simp only [isSettled, Bool.and_eq_true, List.isEmpty_iff, hfiled.standalone, hfiled.dangling,
    inconsistent_ofNodes, List.map_eq_nil_iff, List.filter_eq_nil_iff, decide_eq_true_eq,
    Bool.not_eq_true', Bool.not_eq_false, and_assoc]
  grind

section Distinct

variable (hids : (nodes.map NodeSummary.id).Nodup)
include hids

/-- The heads and the lists share out the nodes. -/
lemma perm_ofNodes : ((ofNodes nodes).clusters.keys ++ (ofNodes nodes).clusters.values.flatten ++
    (ofNodes nodes).standalone ++ (ofNodes nodes).dangling).Perm (nodes.map NodeSummary.id) := by
  have hfiled := filed_ofNodes nodes
  have hkeys : (ofNodes nodes).clusters.keys.Perm
      ((nodes.filter NodeSummary.isHead).map NodeSummary.id) := by
    rw [List.perm_ext_iff_of_nodup (Table.nodup_keys _)
      (hids.sublist ((List.filter_sublist).map NodeSummary.id))]
    intro head
    rw [Table.mem_keys_iff, hfiled.clusters, Option.isSome_ite]
    simp only [Leads, List.mem_map, List.mem_filter, and_assoc]
  have hsplit := (List.filter_append_perm NodeSummary.isHead nodes).map NodeSummary.id
  rw [List.map_append] at hsplit
  have := (hkeys.append hfiled.listed).trans hsplit
  simpa only [listed, List.append_assoc] using this

lemma headOf?_ofNodes_iff : (ofNodes nodes).headOf? id = some head ↔
    ∃ n ∈ nodes, n.id = id ∧ (n.isHead ∧ head = id ∨ n.follows head ∧ Leads nodes head) := by
  have hfiled := filed_ofNodes nodes
  constructor
  · intro h
    exact hfiled.exists_get?_iff.1 (of_headOf? h)
  · intro h
    obtain ⟨members, hget, hid⟩ := hfiled.exists_get?_iff.2 h
    obtain ⟨head', h'⟩ := exists_headOf? hget hid
    obtain ⟨n, hn, rfl, hlead⟩ := h
    obtain ⟨m, hm, hmid, hlead'⟩ := hfiled.exists_get?_iff.1 (of_headOf? h')
    -- No two nodes have the same number, so both heads are those of one node.
    obtain rfl := List.inj_on_of_nodup_map hids hm hn hmid
    rw [h', Option.some_inj]
    rcases hlead with ⟨hh, rfl⟩ | ⟨hf, -⟩ <;> rcases hlead' with ⟨hh', rfl⟩ | ⟨hf', -⟩
    · rfl
    · exact absurd hf' (NodeSummary.not_follows_of_isHead hh)
    · exact absurd hf (NodeSummary.not_follows_of_isHead hh')
    · exact NodeSummary.eq_of_follows hf' hf

/-- A node has settled if it leads its own cluster or belongs to a head that is there. -/
lemma settled_iff (hn : n ∈ nodes) :
    n.degree ≠ .standalone ∧ ¬Strays nodes n ∧ n.isConsistent ↔
      n.isHead ∧ n.cluster = some n.id ∨ ∃ head, n.follows head ∧ Leads nodes head := by
  rw [NodeSummary.isConsistent_iff]
  constructor
  · rintro ⟨hs, hstray, hcons⟩
    cases hd : n.degree with
    | head => exact .inl ⟨NodeSummary.isHead_iff.2 hd, hcons.1 hd⟩
    | standalone => exact absurd hd hs
    | member =>
      obtain ⟨head, hc, hl⟩ : ∃ head ∈ n.cluster, Leads nodes head := by
        simpa [Strays, hd] using hstray
      exact .inr ⟨head, NodeSummary.follows_iff.2 ⟨hd, hc⟩, hl⟩
  · rintro (⟨hh, hc⟩ | ⟨head, hf, hl⟩)
    · have hd := NodeSummary.isHead_iff.1 hh
      exact ⟨by simp [hd], by simp [Strays, hd], by simp [hd, hc]⟩
    · obtain ⟨hd, hc⟩ := NodeSummary.follows_iff.1 hf
      refine ⟨by simp [hd], fun hs => hs.2 head hc hl, ?_⟩
      -- The head is another node, since this one is a member.
      have hne : n.cluster ≠ some n.id := by
        intro hself
        obtain ⟨m, hm, hh, hid⟩ := hl
        obtain rfl := List.inj_on_of_nodup_map hids hm hn
          (hid.trans (Option.some.inj (hc.symm.trans hself)))
        exact NodeSummary.not_follows_of_isHead hh hf
      simp [hd, hne]

end Distinct

/-- Nodes with distinct numbers, in any order, are all filed, and each once: as a head, among the
members of a head, as one that stands alone, or as one whose head is not there. The members of a
head are listed in the order of the nodes. The head of a node is the node itself if it leads, and
the head that it follows if that is one of the nodes. All have settled if every node leads its own
cluster or follows one of the heads. -/
theorem nodes_are_filed_once {nodes : List NodeSummary}
    (hids : (nodes.map NodeSummary.id).Nodup) :
    let s := ofNodes nodes
    (s.clusters.keys ++ s.clusters.values.flatten ++ s.standalone ++ s.dangling).Perm
        (nodes.map NodeSummary.id) ∧
      (∀ head members, s.clusters.get? head = some members ↔
        Leads nodes head ∧ members = followers nodes head) ∧
      s.standalone = (nodes.filter (·.degree = .standalone)).map NodeSummary.id ∧
      s.dangling = (nodes.filter (Strays nodes ·)).map NodeSummary.id ∧
      (∀ id head, s.headOf? id = some head ↔ ∃ n ∈ nodes, n.id = id ∧
        (n.isHead ∧ head = id ∨ n.follows head ∧ Leads nodes head)) ∧
      (s.isSettled ↔ ∀ n ∈ nodes,
        n.isHead ∧ n.cluster = some n.id ∨ ∃ head, n.follows head ∧ Leads nodes head) := by
  have hfiled := filed_ofNodes nodes
  refine ⟨perm_ofNodes hids, fun _ _ => hfiled.get?_eq_some_iff, hfiled.standalone,
    hfiled.dangling, fun _ _ => headOf?_ofNodes_iff hids, ?_⟩
  rw [isSettled_ofNodes_iff]
  exact forall₂_congr fun n hn => settled_iff hids hn

/-- A member that comes before its head, a head that belongs to no cluster, a member of a cluster
that nobody leads, one that stands alone, and one that follows itself. -/
def oddNodes : List NodeSummary :=
  let node (id : NodeId) (degree : Degree) (cluster : Option NodeId) : NodeSummary :=
    ⟨id, .active, degree, cluster, Vec3.zero, .start, 0⟩
  [ node ⟨1⟩ .member (some ⟨9⟩), node ⟨9⟩ .head none, node ⟨3⟩ .member (some ⟨7⟩),
    node ⟨4⟩ .standalone none, node ⟨2⟩ .member (some ⟨9⟩), node ⟨6⟩ .member (some ⟨6⟩) ]

/-- A node that follows itself is not among its members, and one that belongs to no cluster leads
nonetheless. -/
theorem self_follower_dangles : (oddNodes.map NodeSummary.id).Nodup ∧
    (ofNodes oddNodes).clusters.get? ⟨9⟩ = some [⟨1⟩, ⟨2⟩] ∧
    (ofNodes oddNodes).standalone = [⟨4⟩] ∧
    (ofNodes oddNodes).dangling = [⟨3⟩, ⟨6⟩] ∧
    (ofNodes oddNodes).headOf? ⟨1⟩ = some ⟨9⟩ ∧
    (ofNodes oddNodes).headOf? ⟨6⟩ ≠ some ⟨6⟩ ∧
    ¬(ofNodes oddNodes).isSettled := by
  have hids : (oddNodes.map NodeSummary.id).Nodup := by decide
  obtain ⟨-, hclusters, hstandalone, hdangling, hhead, hsettled⟩ := nodes_are_filed_once hids
  refine ⟨hids, (hclusters _ _).2 ⟨by decide, by decide⟩, hstandalone, hdangling,
    (hhead _ _).2 (by decide), mt (hhead _ _).1 (by decide), mt hsettled.1 ?_⟩
  intro hall
  have halone := hall (oddNodes[3]) (by decide)
  simp [oddNodes, NodeSummary.isHead, NodeSummary.follows] at halone

end ClusterSummary

end ClusterWave
