import ClusterWave.Proofs.Peer.Upkeep

/-!
# One round of upkeep

What a round of upkeep makes of a registry, entry by entry, and of the role of the node. What was
heard in time stays as it is, members follow their neighbor records, and the node changes its role
only if it has lost its head or its last neighbor. A foreign cluster that is known is not refreshed
when its head is heard, so that it times out however recently the head was heard.
-/

namespace ClusterWave

namespace Registry

variable {g : Registry} {own r e : Record} {now : Timestamp} {timeout : Duration} {id c : NodeId}

/-! ### Neighbors and members -/

/-- The neighbors that time out are those that are dropped. -/
lemma mem_expired_iff_dropped (hk : ∀ id r, g.neighbors.get? id = some r → r.id = id)
    (own : Record) :
    id ∈ g.expired now timeout ↔
      g.neighbors.contains id ∧ ¬ (g.maintain own now timeout).1.neighbors.contains id := by
  rw [mem_expired_iff hk]
  constructor
  · rintro ⟨r, hr, hs⟩
    refine ⟨Table.contains_of_get? hr, fun hc => ?_⟩
    obtain ⟨r', hr'⟩ := Table.contains_iff.1 hc
    obtain ⟨hr', hle⟩ := (get?_maintain_iff hk).1 hr'
    rw [hr] at hr'
    exact not_isStale_iff.2 hle (Option.some.inj hr' ▸ hs)
  · rintro ⟨hc, hd⟩
    obtain ⟨r, hr⟩ := Table.contains_iff.1 hc
    refine ⟨r, hr, Decidable.byContradiction fun hs => ?_⟩
    exact hd (Table.contains_of_get? (get?_maintain hk hr hs))

/-- The neighbors that time out are listed by ascending number. -/
lemma ascending_expired (hk : ∀ id r, g.neighbors.get? id = some r → r.id = id) :
    (g.expired now timeout).Pairwise (· < ·) := by
  rw [expired, Table.values, List.filter_map, List.map_map, List.pairwise_map]
  refine (g.neighbors.sorted.filter _).imp_of_mem ?_
  rintro ⟨id, r⟩ ⟨id', r'⟩ hm hm' hlt
  have hid : r.id = id := hk id r (Table.get?_eq_some_iff.2 (List.mem_filter.1 hm).1)
  have hid' : r'.id = id' := hk id' r' (Table.get?_eq_some_iff.2 (List.mem_filter.1 hm').1)
  show r.id < r'.id
  rw [hid, hid']
  exact UInt64.lt_iff_toNat_lt.2 hlt

/-- A member stays if its neighbor record stays and names the node as its head. -/
lemma members_maintain_iff (hk : ∀ id r, g.neighbors.get? id = some r → r.id = id)
    (hm : ∀ id, g.members.contains id → g.neighbors.contains id) {m : Record} :
    (g.maintain own now timeout).1.members.get? id = some m ↔
      g.members.get? id = some m ∧ ∃ r,
        (g.maintain own now timeout).1.neighbors.get? id = some r ∧ r.cluster = some own.id := by
  have hmembers : (g.maintain own now timeout).1.members =
      (g.dropStrayMembers own.id).members.filter
        fun id _ => !(g.expired now timeout).contains id := rfl
  rw [hmembers, Table.get?_filter_eq_some_iff, dropStrayMembers, Table.get?_filter_eq_some_iff,
    Bool.not_eq_true', List.contains_eq_mem, decide_eq_false_iff_not]
  constructor
  · rintro ⟨⟨hget, hstays⟩, hkept⟩
    obtain ⟨r, hr⟩ := Table.contains_iff.1 (hm id (Table.contains_of_get? hget))
    rw [hr] at hstays
    refine ⟨hget, r, get?_maintain hk hr ?_, beq_iff_eq.1 hstays⟩
    exact fun hs => hkept ((mem_expired_iff hk).2 ⟨r, hr, hs⟩)
  · rintro ⟨hget, r, hr, hb⟩
    refine ⟨⟨hget, ?_⟩, ?_⟩
    · rw [get?_of_maintain hr]
      exact beq_iff_eq.2 hb
    · intro hx
      exact ((mem_expired_iff_dropped hk own).1 hx).2 (Table.contains_of_get? hr)

/-! ### The role of the node -/

/-- Whether the head of a node is held as a head. -/
lemma headVisible_eq (g : Registry) (own : Record) :
    g.headVisible own = own.cluster.any fun c => (g.neighbors.get? c).any Record.isHead := by
  rw [Bool.eq_iff_iff, headVisible, List.any_eq_true, Option.any_eq_true]
  constructor
  · rintro ⟨⟨c, r⟩, hm, hv⟩
    rw [Bool.and_eq_true] at hv
    refine ⟨c, beq_iff_eq.1 hv.1, ?_⟩
    rw [Table.get?_eq_some_iff.2 hm]
    exact hv.2
  · rintro ⟨c, hc, hv⟩
    obtain ⟨r, hr, hh⟩ := (Option.any_eq_true _ _).1 hv
    refine ⟨(c, r), Table.get?_eq_some_iff.1 hr, ?_⟩
    rw [Bool.and_eq_true]
    exact ⟨beq_iff_eq.2 hc, hh⟩

/-- Whether neighbors time out and none is left. -/
def empties (g : Registry) (now : Timestamp) (timeout : Duration) : Bool :=
  !(g.expired now timeout).isEmpty &&
    (g.neighbors.filter fun id _ => !(g.expired now timeout).contains id).isEmpty

/-- Whether the head of a node times out. -/
def losesHead (g : Registry) (own : Record) (now : Timestamp) (timeout : Duration) : Bool :=
  own.cluster.any (g.expired now timeout).contains

lemma prune_role (g : Registry) (own : Record) (now : Timestamp) (timeout : Duration) :
    (g.prune own now timeout).2.1 =
      (if own.isHead then own
        else if g.empties now timeout then own.becomeHead
        else if g.losesHead own now timeout then own.leave
        else own) ∧
      (g.prune own now timeout).2.2.lostHead = (!own.isHead && g.losesHead own now timeout) ∧
      (g.prune own now timeout).2.2.becameHead = (!own.isHead && g.empties now timeout) := by
  have hleave : own.leave.isHead = false := rfl
  have hlead : own.leave.becomeHead = own.becomeHead := rfl
  have hrole (lost empty : Bool) :
      let left := if !own.isHead && lost then own.leave else own
      (if empty && !left.isHead then left.becomeHead else left) =
        (if own.isHead then own
          else if empty then own.becomeHead else if lost then own.leave else own) ∧
        (empty && !left.isHead) = (!own.isHead && empty) := by
    cases hh : own.isHead <;> cases lost <;> cases empty <;> simp [hh, hleave, hlead]
  obtain ⟨hself, hbecame⟩ := hrole (g.losesHead own now timeout) (g.empties now timeout)
  exact ⟨hself, rfl, hbecame⟩

/-- What becomes of the own record, and whether the role is said to have changed. -/
lemma maintain_role (g : Registry) (own : Record) (now : Timestamp) (timeout : Duration) :
    (g.maintain own now timeout).2.1 =
      (if own.isHead then own
        else if g.empties now timeout then own.becomeHead
        else if g.losesHead own now timeout || own.isMember && !g.headVisible own then own.leave
        else own) ∧
      (g.maintain own now timeout).2.2.roleChanged =
        (!own.isHead && (g.empties now timeout || g.losesHead own now timeout ||
          own.isMember && !g.headVisible own)) := by
  let pruned := ((g.dropStrayMembers own.id).reviewForeign own).prune own now timeout
  have hself : (g.maintain own now timeout).2.1 =
      if pruned.2.1.isMember && !g.headVisible own && !pruned.2.2.lostHead then pruned.2.1.leave
      else pruned.2.1 := rfl
  have hchanged : (g.maintain own now timeout).2.2.roleChanged =
      (pruned.2.2.lostHead ||
        (pruned.2.1.isMember && !g.headVisible own && !pruned.2.2.lostHead) ||
        pruned.2.2.becameHead) := rfl
  obtain ⟨hrole, hlost, hbecame⟩ :=
    ((g.dropStrayMembers own.id).reviewForeign own).prune_role own now timeout
  -- Neither the stray members nor the foreign clusters matter for the neighbors.
  have hempties : ((g.dropStrayMembers own.id).reviewForeign own).empties now timeout =
      g.empties now timeout := rfl
  have hloses : ((g.dropStrayMembers own.id).reviewForeign own).losesHead own now timeout =
      g.losesHead own now timeout := rfl
  rw [hself, hchanged, hrole, hlost, hbecame, hempties, hloses]
  have hleave : own.leave.isMember = false := rfl
  have hlead : own.becomeHead.isMember = false := rfl
  have hhead : own.isHead = true → own.isMember = false := fun hh =>
    Bool.eq_false_iff.2 fun hm => Record.not_isHead_of_isMember hm hh
  cases hh : own.isHead with
  | true => simp [hhead hh]
  | false =>
    cases g.empties now timeout with
    | true => simp [hlead]
    | false => cases g.losesHead own now timeout <;> simp [hleave]

/-- The role is said to have changed whenever it has. -/
lemma roleChanged_maintain_iff (g : Registry) (own : Record) (now : Timestamp)
    (timeout : Duration) :
    (g.maintain own now timeout).2.2.roleChanged ↔
      (g.maintain own now timeout).2.1.role ≠ own.role := by
  obtain ⟨hself, hchanged⟩ := g.maintain_role own now timeout
  rw [hself, hchanged]
  have hlead (hh : ¬ own.isHead) : own.becomeHead.role ≠ own.role := fun he =>
    hh (beq_iff_eq.2 (congrArg Prod.fst he).symm)
  cases hh : own.isHead with
  | true => simp
  | false =>
    cases g.empties now timeout with
    | true => simpa using hlead (by rw [hh]; exact Bool.false_ne_true)
    | false =>
      cases hl : g.losesHead own now timeout with
      | true =>
        obtain ⟨c, hc, -⟩ := (Option.any_eq_true _ _).1 hl
        simp only [Bool.true_or, Bool.or_true, Bool.not_false, Bool.and_self, if_true, true_iff]
        intro he
        have hnone : none = own.cluster := congrArg Prod.snd he
        rw [hc] at hnone
        cases hnone
      | false =>
        cases hm : own.isMember && !g.headVisible own with
        | false => simp
        | true =>
          have hmember : own.isMember := (Bool.and_eq_true_iff.1 hm).1
          simp only [Bool.false_or, Bool.or_true, Bool.not_false, Bool.and_self, if_true, true_iff]
          intro he
          have hs : Degree.standalone = own.degree := congrArg Prod.fst he
          rw [Record.isMember, ← hs] at hmember
          cases hmember

/-! ### The round as a whole -/

/-- What a round of upkeep makes of a registry `g` and of the own record of a node: they are `g'`
and `own'` after it, and `u` tells what has changed. -/
structure Round (g : Registry) (own : Record) (now : Timestamp) (timeout : Duration)
    (g' : Registry) (own' : Record) (u : Upkeep) : Prop where
  /-- The neighbors heard within the timeout stay as they are, and there are no others. -/
  neighbors : ∀ id r, g'.neighbors.get? id = some r ↔
    g.neighbors.get? id = some r ∧ now.since r.timestamp ≤ timeout
  expired : ∀ id, id ∈ u.expired ↔ g.neighbors.contains id ∧ ¬ g'.neighbors.contains id
  ascending : u.expired.Pairwise (· < ·)
  /-- A member stays if its neighbor record stays and names the node as its head. -/
  members : ∀ id m, g'.members.get? id = some m ↔
    g.members.get? id = some m ∧ ∃ r, g'.neighbors.get? id = some r ∧ r.cluster = some own.id
  timely : ∀ c e, g'.foreign.get? c = some e → now.since e.timestamp ≤ timeout
  /-- A neighbor that does not lead, or whose cluster is the node's own, stands for no foreign
  cluster. -/
  foreign : ∀ c r, g.neighbors.get? c = some r → ¬ r.isHead ∨ own.cluster = some c →
    ¬ g'.foreign.contains c
  /-- A head stays one. Any other node leads when the last neighbor has timed out, stands alone when
  its head has timed out or is not held as a head, and keeps its role otherwise. -/
  role : own' =
    if own.isHead then own
    else if !u.expired.isEmpty && g'.neighbors.isEmpty then own.becomeHead
    else if own.cluster.any u.expired.contains ||
        own.isMember && !own.cluster.any (fun c => (g.neighbors.get? c).any Record.isHead)
      then own.leave
    else own
  /-- Who is a member after the round has its head in range. -/
  member : own'.isMember → ∃ c r, own'.cluster = some c ∧ g'.neighbors.get? c = some r ∧
    r.isHead ∧ now.since r.timestamp ≤ timeout
  changed : u.roleChanged ↔ own'.degree ≠ own.degree ∨ own'.cluster ≠ own.cluster

/-- Who is a member after a round of upkeep was one before, with a head that was heard in time. -/
lemma exists_head_of_maintain (hk : ∀ id r, g.neighbors.get? id = some r → r.id = id)
    (hm : (g.maintain own now timeout).2.1.isMember) :
    (g.maintain own now timeout).2.1 = own ∧ ∃ c r, own.cluster = some c ∧
      (g.maintain own now timeout).1.neighbors.get? c = some r ∧ r.isHead := by
  rw [(g.maintain_role own now timeout).1] at hm ⊢
  split at hm
  · rename_i hh
    exact absurd hh (Record.not_isHead_of_isMember hm)
  · rename_i hh
    split at hm
    · cases hm
    · rename_i hempty
      split at hm
      · cases hm
      · rename_i hstays
        rw [if_neg hh, if_neg hempty, if_neg hstays]
        rw [Bool.not_eq_true, Bool.or_eq_false_iff, hm, Bool.true_and, Bool.not_eq_false',
          headVisible_eq, Option.any_eq_true] at hstays
        obtain ⟨hkept, c, hc, hv⟩ := hstays
        obtain ⟨r, hr, hlead⟩ := (Option.any_eq_true _ _).1 hv
        refine ⟨rfl, c, r, hc, get?_maintain hk hr fun hs => ?_, hlead⟩
        rw [losesHead, hc, Option.any_some, List.contains_eq_mem, decide_eq_false_iff_not] at hkept
        exact hkept ((mem_expired_iff hk).2 ⟨r, hr, hs⟩)

/-- A round of upkeep does all this to every registry that has its neighbors under their numbers
and its members among them, for every node. -/
theorem round_maintain (hk : ∀ id r, g.neighbors.get? id = some r → r.id = id)
    (hm : ∀ id, g.members.contains id → g.neighbors.contains id) (own : Record) (now : Timestamp)
    (timeout : Duration) :
    g.Round own now timeout (g.maintain own now timeout).1 (g.maintain own now timeout).2.1
      (g.maintain own now timeout).2.2 where
  neighbors id r := get?_maintain_iff hk
  expired id := mem_expired_iff_dropped hk own
  ascending := ascending_expired hk
  members id m := members_maintain_iff hk hm
  timely c e he := (foreign_maintain_iff.1 he).2
  foreign c r hr hc := by
    intro hin
    obtain ⟨e, he⟩ := Table.contains_iff.1 hin
    have hreview := (foreign_maintain_iff.1 he).1
    rw [get?_reviewForeign, hr] at hreview
    dsimp only at hreview
    split at hreview
    · rename_i hlead
      rw [Bool.and_eq_true, Bool.not_eq_true'] at hlead
      rcases hc with hh | hown
      · exact hh hlead.1
      · rw [Record.belongsTo, hown, beq_self_eq_true] at hlead
        cases hlead.2
    · cases hreview
  role := by
    rw [← headVisible_eq]
    exact (g.maintain_role own now timeout).1
  member hmember := by
    obtain ⟨hself, c, r, hc, hr, hh⟩ := exists_head_of_maintain hk hmember
    exact ⟨c, r, (congrArg Record.cluster hself).trans hc, hr, hh,
      ((get?_maintain_iff hk).1 hr).2⟩
  changed := by
    rw [roleChanged_maintain_iff, Ne, Record.role, Record.role, Prod.mk.injEq,
      Decidable.not_and_iff_not_or_not]

/-- A registry of a head: one neighbor was heard long ago, one is a member, and one leads. -/
def crowded : Registry :=
  let stale := Record.lone ⟨2⟩ Vec3.zero .start
  let member := (Record.lone ⟨3⟩ Vec3.zero (.ofMillis 500)).join ⟨1⟩
  let head := (Record.lone ⟨4⟩ Vec3.zero (.ofMillis 900)).becomeHead
  (((empty.hear stale).hear member).enrol member).hear head

lemma crowded_neighbors : ∀ id r, crowded.neighbors.get? id = some r → r.id = id := by
  have h : ∀ e ∈ crowded.neighbors.entries, e.2.id = e.1 := by decide
  intro id r hr
  exact h (id, r) (Table.get?_eq_some_iff.1 hr)

lemma crowded_members : ∀ id, crowded.members.contains id → crowded.neighbors.contains id := by
  have h : ∀ e ∈ crowded.members.entries, crowded.neighbors.contains e.1 := by decide
  intro id hid
  obtain ⟨m, hm⟩ := Table.contains_iff.1 hid
  exact h (id, m) (Table.get?_eq_some_iff.1 hm)

/-- The neighbor that was heard long ago is dropped in a round of upkeep of the head. -/
theorem crowded_round :
    let own := (Record.lone ⟨1⟩ Vec3.zero .start).becomeHead
    let after := crowded.maintain own (.ofMillis 1000) (.ofMillis 600)
    (∀ id r, crowded.neighbors.get? id = some r → r.id = id) ∧
      (∀ id, crowded.members.contains id → crowded.neighbors.contains id) ∧
      crowded.Round own (.ofMillis 1000) (.ofMillis 600) after.1 after.2.1 after.2.2 ∧
      after.2.2.expired = [⟨2⟩] := by
  refine ⟨crowded_neighbors, crowded_members, ?_, by decide⟩
  exact round_maintain crowded_neighbors crowded_members _ _ _

/-! ### Heads that are heard -/

/-- The cluster of a neighbor that is held as a head after a round of upkeep is the node's own after
the round if it was before. -/
lemma not_belongsTo_of_maintain (hk : ∀ id r, g.neighbors.get? id = some r → r.id = id)
    (hr : (g.maintain own now timeout).1.neighbors.get? id = some r) (hh : r.isHead)
    (hc : (g.maintain own now timeout).2.1.cluster ≠ some id) : ¬ own.belongsTo id := by
  intro hown
  have hcluster : own.cluster = some id := beq_iff_eq.1 hown
  obtain ⟨hr, hle⟩ := (get?_maintain_iff hk).1 hr
  have hfresh : ¬ isStale now timeout r := not_isStale_iff.2 hle
  have hquiet : g.Quiet own now timeout := by
    refine .inr ⟨?_, .inl ⟨id, r, hr, hfresh⟩⟩
    intro c hc r' hr'
    rw [hcluster] at hc
    rw [← Option.some.inj hc, hr] at hr'
    exact Option.some.inj hr' ▸ hfresh
  have hself := (maintain_of_quiet hk hquiet fun _ => by
    rw [headVisible_eq, hcluster, Option.any_some, hr]
    exact hh).1
  rw [hself] at hc
  exact hc hcluster

/-- A neighbor that is held as the head of another cluster after a round of upkeep is among the
foreign clusters, unless what was known of its cluster before the round has timed out. What is known
is not refreshed, although the head is heard. -/
theorem heard_head_is_foreign_iff (hk : ∀ id r, g.neighbors.get? id = some r → r.id = id)
    (hr : (g.maintain own now timeout).1.neighbors.get? id = some r) (hh : r.isHead)
    (hc : (g.maintain own now timeout).2.1.cluster ≠ some id) :
    (g.maintain own now timeout).1.foreign.contains id ↔
      ∀ e, g.foreign.get? id = some e → now.since e.timestamp ≤ timeout := by
  have hother : own.belongsTo id = false :=
    Bool.eq_false_iff.2 (not_belongsTo_of_maintain hk hr hh hc)
  obtain ⟨hr, hle⟩ := (get?_maintain_iff hk).1 hr
  have hreview : (g.reviewForeign own).foreign.get? id = (g.foreign.get? id).or (some r) := by
    rw [get?_reviewForeign, hr]
    dsimp only
    rw [hh, hother]
    rfl
  rw [Table.contains_iff]
  simp only [foreign_maintain_iff, hreview]
  cases hknown : g.foreign.get? id with
  | none =>
    refine iff_of_true ⟨r, rfl, hle⟩ ?_
    rintro e ⟨⟩
  | some known =>
    constructor
    · rintro ⟨e, ⟨⟩, htimely⟩ e' ⟨⟩
      exact htimely
    · intro htimely
      exact ⟨known, rfl, htimely known rfl⟩

/-- A neighbor that leads is put in among the foreign clusters. -/
theorem crowded_lists_head :
    let own := (Record.lone ⟨1⟩ Vec3.zero .start).becomeHead
    let head := (Record.lone ⟨4⟩ Vec3.zero (.ofMillis 900)).becomeHead
    let after := crowded.maintain own (.ofMillis 1000) (.ofMillis 600)
    (∀ id r, crowded.neighbors.get? id = some r → r.id = id) ∧
      after.1.neighbors.get? ⟨4⟩ = some head ∧ head.isHead ∧ after.2.1.cluster ≠ some ⟨4⟩ ∧
      after.1.foreign.contains ⟨4⟩ := by
  have hr : (crowded.maintain (Record.lone ⟨1⟩ Vec3.zero .start).becomeHead (.ofMillis 1000)
      (.ofMillis 600)).1.neighbors.get? ⟨4⟩ =
        some (Record.lone ⟨4⟩ Vec3.zero (.ofMillis 900)).becomeHead := by decide
  refine ⟨crowded_neighbors, hr, rfl, by decide, ?_⟩
  refine (heard_head_is_foreign_iff crowded_neighbors hr rfl (by decide)).2 ?_
  intro e he
  cases he

/-- A head broadcasts its record at first, and declares its cluster formed half a second later.
Only the first broadcast is noted among the foreign clusters, the second one renews the neighbor
alone. -/
def heardTwice : Registry :=
  (empty.noteCluster ⟨8⟩ (Record.lone ⟨8⟩ Vec3.zero .start).becomeHead .authoritative).hear
    (Record.lone ⟨8⟩ Vec3.zero (.ofMillis 500)).becomeHead

/-- So the cluster is dropped in the next round of upkeep, while its head is still held as one. -/
theorem heard_head_is_dropped :
    let own := (Record.lone ⟨1⟩ Vec3.zero .start).becomeHead
    let head := (Record.lone ⟨8⟩ Vec3.zero (.ofMillis 500)).becomeHead
    let after := heardTwice.maintain own (.ofMillis 700) (.ofMillis 600)
    after.1.neighbors.get? ⟨8⟩ = some head ∧ head.isHead ∧ after.2.1.cluster ≠ some ⟨8⟩ ∧
      ¬ after.1.foreign.contains ⟨8⟩ := by
  decide

end Registry

end ClusterWave
