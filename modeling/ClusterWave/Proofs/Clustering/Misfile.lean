import ClusterWave.Proofs.Clustering.Revision
import ClusterWave.Proofs.Node.Role
import ClusterWave.Proofs.Peer.Upkeep

/-!
# Clusters in the wrong table

A node lists the clusters of others and strikes a cluster off when it joins it. There are two ways
around that. A node that settles with a head in the middle of the election does not look at the
list, and a map lets the cluster that it comes from be listed even if the node belongs to it by now.
`Turn.misfiles` says exactly when the own cluster gets onto the list.
-/

namespace ClusterWave

/-- The own cluster of a node is not listed as a foreign one. -/
def Node.Filed (n : Node) : Prop :=
  ∀ c, n.record.cluster = some c → ¬ n.registry.foreign.contains c

instance (n : Node) : Decidable n.Filed :=
  decidable_of_iff (n.record.cluster.all fun c => !n.registry.foreign.contains c) (by
    simp only [Node.Filed, Option.all_eq_true, Bool.not_eq_true', Bool.not_eq_true])

namespace Turn

/-- Whether a message lets the own cluster of the node be listed as a foreign one: the node settles
with a head that is listed, or it is sent a map of its own cluster. -/
def misfiles (t : Turn) : Message → Bool
  | .clusterInfo _ r =>
    (t.node.status = .update || t.node.status = .headElection) && t.node.record.isStandalone &&
      t.node.inRange (r.stamp t.now) &&
        (t.node.registry.hear (r.stamp t.now)).highestHead?.any t.node.registry.foreign.contains
  | .densityMap seq cluster r map =>
    t.node.record.belongsTo cluster && (Message.densityMap seq cluster r map).isWellShaped
  | _ => false

/-- Whether one of some messages passes a test when they are handled in turn. -/
def among (test : Turn → Message → Bool) (sender : NodeId) : Turn → List Message → Bool
  | _, [] => false
  | t, m :: ms => test t m || among test sender (t.onMessage sender m) ms

end Turn

/-- Whether a message of a visit lets the own cluster of the node be listed as a foreign one. -/
def Node.misfiles (n : Node) (v : Visit) : Bool :=
  match v.call with
  | .packet sender packet =>
    Turn.among Turn.misfiles sender (Turn.start n v.now v.position v.nextHandle).receive
      packet.messages
  | _ => false

/-! ### The name of a node -/

/-- Whether a message is not in the name of a node. -/
def Message.isAlien (id : NodeId) : Message → Bool
  | .densityMap _ cluster _ _ => cluster ≠ id
  | m => m.isFair id

/-- Whether only such messages arrive with a visit. -/
def Visit.Alien (v : Visit) (id : NodeId) : Prop := ∀ m ∈ v.messages, m.isAlien id

lemma Visit.Alien.fair {v : Visit} {id : NodeId} (h : v.Alien id) : v.Fair id := by
  intro m hm
  cases m with
  | densityMap => rfl
  | _ => exact h _ hm

/-- A node is neither one of the neighbors nor the name of a foreign cluster. -/
structure Registry.Excludes (g : Registry) (id : NodeId) : Prop where
  neighbors : ¬ g.neighbors.contains id
  foreign : ¬ g.foreign.contains id

/-- A node keeps itself apart from the others. -/
structure Node.Apart (n : Node) : Prop where
  upright : ∃ r₀ : Record, r₀.Upright n.record
  excludes : n.registry.Excludes n.record.id

namespace Registry

variable {g : Registry} {own r : Record} {id c : NodeId} {now : Timestamp} {timeout : Duration}

namespace Excludes

lemma empty (id : NodeId) : Registry.empty.Excludes id := by
  constructor
  · intro h
    cases h
  · intro h
    cases h

lemma hear (h : g.Excludes id) (hr : r.id ≠ id) : (g.hear r).Excludes id := by
  refine ⟨?_, h.foreign⟩
  intro hc
  rw [Table.contains, Registry.hear, Table.get?_insert_of_ne _ _ hr.symm] at hc
  exact h.neighbors hc

lemma noteCluster (h : g.Excludes id) (hc : c ≠ id) (r : Record) (p : Provenance) :
    (g.noteCluster c r p).Excludes id := by
  refine ⟨(neighbors_noteCluster g c r p).symm ▸ h.neighbors, ?_⟩
  intro hf
  rcases foreign_of_noteCluster hf with rfl | hf
  · exact hc rfl
  · exact h.foreign hf

lemma forgetCluster (h : g.Excludes id) (c : NodeId) : (g.forgetCluster c).Excludes id := by
  refine ⟨h.neighbors, ?_⟩
  intro hf
  obtain ⟨r, hr⟩ := Table.contains_iff.1 hf
  exact h.foreign (Table.contains_of_get? (Table.of_get?_erase hr))

lemma maintain (h : g.Excludes id) (own : Record) (now : Timestamp) (timeout : Duration) :
    (g.maintain own now timeout).1.Excludes id := by
  constructor
  · intro hc
    obtain ⟨r, hr⟩ := Table.contains_iff.1 hc
    exact h.neighbors (Table.contains_of_get? (get?_of_maintain hr))
  · intro hf
    rcases foreign_of_maintain hf with hf | ⟨r, hr, -⟩
    · exact h.foreign hf
    · exact h.neighbors (Table.contains_of_get? hr)

end Excludes

end Registry

lemma Record.cluster_of_changes {r : Record} {c : NodeId} {lost became orphaned : Bool}
    (h : (if orphaned then
        (if became then (if lost then r.leave else r).becomeHead
          else if lost then r.leave else r).leave
      else if became then (if lost then r.leave else r).becomeHead
        else if lost then r.leave else r).cluster = some c) : r.cluster = some c ∨ c = r.id := by
  cases orphaned with
  | true => cases h
  | false =>
    cases became with
    | true =>
      cases lost with
      | true => exact .inr (Option.some.inj h).symm
      | false => exact .inr (Option.some.inj h).symm
    | false =>
      cases lost with
      | true => cases h
      | false => exact .inl h

/-- The cluster of a node after upkeep is the one before, or its own. -/
lemma Registry.cluster_of_maintain {g : Registry} {own : Record} {c : NodeId} {now : Timestamp}
    {timeout : Duration} (h : (g.maintain own now timeout).2.1.cluster = some c) :
    own.cluster = some c ∨ c = own.id := Record.cluster_of_changes h

lemma Record.cluster_join (r : Record) (head : NodeId) : (r.join head).cluster = some head := by
  simp only [join]
  split
  · rename_i he
    rw [he]
    rfl
  · rfl

variable {n n' : Node} {v : Visit} {t t' : Turn}

/-- Nobody becomes a neighbor of itself or notes its own name as that of a foreign cluster. -/
lemma Stride.excludes (s : Stride v t t') (hv : v.Alien t.node.record.id)
    (h : t.node.registry.Excludes t.node.record.id) :
    t'.node.registry.Excludes t'.node.record.id := by
  have hg := s.revises
  rw [s.id]
  generalize t'.node.registry = g at hg ⊢
  cases hg with
  | kept => exact h
  | enrolled => exact ⟨h.neighbors, h.foreign⟩
  | @heard r hr =>
    have hne : r.id ≠ t.node.record.id := hv.fair.others hr
    exact h.hear (r := r.stamp t.now) hne
  | forgot => exact h.forgetCluster _
  | maintained => exact h.maintain _ _ _
  | noted p hr =>
    apply h.noteCluster
    cases hr with
    | clusterInfo _ _ _ hn => exact hn
    | neighborCluster _ _ _ hn => exact hn
    | densityMap hm => exact of_decide_eq_true (hv _ hm)

lemma Strides.excludes (hs : Strides v t t') (hv : v.Alien t.node.record.id)
    (h : t.node.registry.Excludes t.node.record.id) :
    t'.node.registry.Excludes t'.node.record.id := by
  refine (hs.induct (P := fun u => u.node.record.id = t.node.record.id ∧
    u.node.registry.Excludes u.node.record.id) ⟨rfl, h⟩ ?_).2
  rintro u u' ⟨hid, h⟩ s
  exact ⟨s.id.trans hid, s.excludes (hid.symm ▸ hv) h⟩

/-! ### Roles and lists -/

namespace Node.Filed

lemma congr (h : n.Filed) (hc : n'.record.cluster = n.record.cluster)
    (hg : n'.registry = n.registry) : n'.Filed := by
  rw [Filed, hc, hg]
  exact h

variable {r : Record} {g : Registry} {s : Status}

lemma of_core (h : n.Filed) (hc : n'.core = (n.record, n.registry, s)) : n'.Filed :=
  h.congr (congrArg (·.1.cluster) hc) (congrArg (·.2.1) hc)

/-- Who leads belongs to a cluster of its own name. -/
lemma of_becomeHead (h : g.Excludes r.id) (hc : n.core = (r.becomeHead, g, s)) : n.Filed := by
  obtain ⟨hr, hc⟩ := Prod.mk.inj hc
  obtain ⟨rfl, -⟩ := Prod.mk.inj hc
  intro c hcl
  rw [hr] at hcl
  rw [← Option.some.inj hcl]
  exact h.foreign

/-- Who joins a cluster and strikes it off has it filed. -/
lemma of_join {head : NodeId} (hc : n.core = (r.join head, g.forgetCluster head, s)) :
    n.Filed := by
  obtain ⟨hr, hc⟩ := Prod.mk.inj hc
  obtain ⟨hg, -⟩ := Prod.mk.inj hc
  intro c hcl
  rw [hr, Record.cluster_join] at hcl
  rw [hg, ← Option.some.inj hcl, Table.contains, Registry.forgetCluster, Table.get?_erase_self]
  exact Bool.false_ne_true

end Node.Filed

namespace Turn

lemma Beside.filed (hb : t.Beside t') (h : t.node.Filed) : t'.node.Filed :=
  h.congr (congrArg (fun s : Stance => s.role.2) hb.stance) hb.registry

lemma filed_endClustering (h : t.node.Filed) : t.endClustering.node.Filed := by
  obtain ⟨u, hu, hb⟩ := t.exists_beside_endClustering
  apply hb.filed
  rw [hu]
  exact h

lemma filed_transmit (he : t.node.registry.Excludes t.node.record.id) (h : t.node.Filed) :
    t.transmit.node.Filed := by
  simp only [transmit]
  split
  · exact h.of_core t.core_sendGreeting
  · exact .of_becomeHead he t.core_sendCandidacy
  · exact .of_becomeHead he t.core_sendFormation
  · split
    · simp only [sendUpdate]
      exact (((Beside.updateMessages t).trans (.packets _ _)).filed h).of_core (core_queueSend _ _)
    · exact h
  · exact h

lemma filed_checkElection (h : t.node.Filed) : t.checkElection.node.Filed := by
  simp only [checkElection]
  split
  · exact h
  · split
    · exact h.of_core (core_queueSend (t.setStatus .update) _)
    · split
      · exact h.of_core (core_queueSend (t.setStatus .headElection) _)
      · exact h.of_core (core_queueSend _ _)

/-- Upkeep lists the heads of other clusters only. -/
lemma filed_upkeep (he : t.node.registry.Excludes t.node.record.id) (h : t.node.Filed) :
    t.upkeep.node.Filed := by
  cases hc : t.node.clustering with
  | false =>
    rw [upkeep_of_idle hc]
    exact h
  | true =>
    have hr : t.upkeep.node.record = t.maintained.2.1 := congrArg (·.1) (core_upkeep hc)
    have hg : t.upkeep.node.registry = t.maintained.1 := congrArg (·.2.1) (core_upkeep hc)
    intro c hcl hf
    rw [hr] at hcl
    rw [hg] at hf
    rcases Registry.cluster_of_maintain hcl with hcl | rfl
    · rcases Registry.foreign_of_maintain hf with hf | ⟨r, -, -, hb⟩
      · exact h c hcl hf
      · exact hb (beq_iff_eq.2 hcl)
    · exact (he.maintain _ _ _).foreign hf

lemma filed_join (t : Turn) (head : NodeId) : (t.join head).node.Filed :=
  .of_join (t.core_join head)

lemma filed_merge (h : t.node.Filed) : t.merge.node.Filed := by
  simp only [merge]
  split
  · exact h
  · split
    · exact .of_join rfl
    · exact h

/-! ### Messages -/

lemma filed_settle_iff (he : t.node.registry.Excludes t.node.record.id) :
    t.settle.node.Filed ↔ ¬ t.node.registry.highestHead?.any t.node.registry.foreign.contains := by
  simp only [settle]
  split
  · rename_i head hh
    rw [hh]
    constructor
    · intro h
      exact h head (Record.cluster_join _ head)
    · intro h c hc
      have hch : head = c := Option.some.inj ((Record.cluster_join _ head).symm.trans hc)
      rw [← hch]
      exact h
  · rename_i hh
    rw [hh]
    exact iff_of_true (.of_becomeHead (s := .update) he (core_queueSend _ _)) Bool.false_ne_true

/-- Who settles with a head does not look at the list; every other way into a cluster does. -/
lemma filed_weighNeighbor_iff (he : t.node.registry.Excludes t.node.record.id)
    (h : t.node.Filed) (r : Record) : (t.weighNeighbor r).node.Filed ↔
      ¬ ((t.node.status = .update ∨ t.node.status = .headElection) ∧ t.node.record.isStandalone ∧
        t.node.registry.highestHead?.any t.node.registry.foreign.contains) := by
  have settles : (if t.node.record.isStandalone then t.settle
      else if t.node.record.isHead && r.belongsTo t.node.id then
        t.setRegistry (t.node.registry.enrol r)
      else if t.node.registry.members.isEmpty then t.merge
      else t).node.Filed ↔ ¬ (t.node.record.isStandalone ∧
        t.node.registry.highestHead?.any t.node.registry.foreign.contains) := by
    split
    · rename_i hs
      simp only [hs, true_and]
      exact filed_settle_iff he
    · rename_i hs
      simp only [hs, false_and, not_false_iff, iff_true, Bool.false_eq_true]
      split
      · exact h
      · split
        · exact filed_merge h
        · exact h
  simp only [weighNeighbor]
  split
  · rename_i hs
    simp only [hs, reduceCtorEq, or_self, false_and, not_false_iff, iff_true]
    split
    · exact filed_join t _
    · exact h
  · rename_i hs
    simpa only [hs, true_or, true_and] using settles
  · rename_i hs
    simpa only [hs, or_true, true_and] using settles
  · rename_i hu hv
    refine iff_of_true h ?_
    rintro ⟨hs, -⟩
    exact hs.elim hu hv

/-- A foreign cluster is listed: that does no harm unless it is the own one. -/
lemma filed_noteCluster_iff {cluster : NodeId} (hc : t.node.record.cluster ≠ some cluster)
    (r : Record) (p : Provenance) :
    (t.setRegistry (t.node.registry.noteCluster cluster r p)).node.Filed ↔ t.node.Filed := by
  refine forall_congr' fun c => forall_congr' fun hcl => not_congr ?_
  have hne : c ≠ cluster := by
    rintro rfl
    exact hc hcl
  show ((t.node.registry.noteCluster cluster r p).foreign.get? c).isSome ↔
    (t.node.registry.foreign.get? c).isSome
  rw [Registry.get?_noteCluster_of_ne hne p]

lemma filed_noteForeign_iff (t : Turn) (r : Record) :
    (t.noteForeign r).node.Filed ↔ t.node.Filed := by
  simp only [noteForeign]
  split
  · rfl
  · split
    · rename_i hf
      exact filed_noteCluster_iff hf.1 _ _
    · rfl

lemma filed_onClusterInfo_iff (he : t.node.registry.Excludes t.node.record.id) (h : t.node.Filed)
    {seq : UInt64} {r : Record} (hr : r.id ≠ t.node.record.id) :
    (t.onClusterInfo (r.stamp t.now)).node.Filed ↔ ¬ t.misfiles (.clusterInfo seq r) := by
  by_cases hn : t.node.inRange (r.stamp t.now)
  · simp only [onClusterInfo, if_pos hn]
    rw [filed_noteForeign_iff]
    have hne : (r.stamp t.now).id ≠ t.node.record.id := hr
    rw [filed_weighNeighbor_iff (t := t.setRegistry (t.node.registry.hear (r.stamp t.now)))
      (he.hear hne) h]
    simp only [misfiles, hn, Bool.and_true, Bool.and_eq_true, Bool.or_eq_true, decide_eq_true_eq,
      and_assoc]
    rfl
  · simp only [onClusterInfo, if_neg hn]
    simp only [misfiles, hn, Bool.and_false, Bool.false_and, Bool.false_eq_true, not_false_iff,
      iff_true]
    exact h

lemma filed_onNeighborCluster {r₀ : Record} (hu : r₀.Upright t.node.record) (h : t.node.Filed)
    (cluster : NodeId) (r : Record) : (t.onNeighborCluster cluster r).node.Filed := by
  simp only [onNeighborCluster]
  split
  · rename_i hh
    split
    · exact h
    · split
      · rename_i foreign _ hf
        have hown : t.node.record.cluster = some t.node.record.id :=
          (Record.isConsistent_iff.1 hu.consistent).1.1 (beq_iff_eq.1 hh.1)
        have hc : t.node.record.cluster ≠ some foreign := by
          rw [hown]
          intro he
          exact hf (Option.some.inj he).symm
        exact (filed_noteCluster_iff hc _ _).2 h
      · exact h
  · exact h

lemma filed_onDensityMap_iff (h : t.node.Filed) {seq : UInt64} {cluster : NodeId} {r : Record}
    {map : DensityMap} : (t.onDensityMap seq cluster (r.stamp t.now) map).node.Filed ↔
      ¬ t.misfiles (.densityMap seq cluster r map) := by
  simp only [misfiles, Message.isWellShaped, onDensityMap]
  split
  · rename_i hs
    simp only [hs, Except.toOption, Option.isSome_none, Bool.and_false, Bool.false_eq_true,
      not_false_iff, iff_true]
    exact h
  · rename_i hs
    simp only [hs, Except.toOption, Option.isSome_some, Bool.and_true]
    by_cases hc : t.node.record.cluster = some cluster
    · simp only [Record.belongsTo, hc, beq_self_eq_true, not_true, iff_false]
      intro hf
      exact hf cluster hc (Registry.contains_noteCluster_self _ _ _ _)
    · simp only [Record.belongsTo, beq_iff_eq, hc, not_false_iff, iff_true]
      exact (filed_noteCluster_iff hc (r.stamp t.now) .authoritative).2 h

/-- A message lists the own cluster just if it is one of the two kinds. -/
lemma filed_onMessage_iff {r₀ : Record} (hu : r₀.Upright t.node.record)
    (he : t.node.registry.Excludes t.node.record.id) (h : t.node.Filed) (sender : NodeId)
    {m : Message} (hm : m.isAlien t.node.record.id) :
    (t.onMessage sender m).node.Filed ↔ ¬ t.misfiles m := by
  cases m with
  | clusterInfo => exact filed_onClusterInfo_iff he h (of_decide_eq_true hm)
  | densityMap => exact filed_onDensityMap_iff h
  | initiateCluster _ cluster r =>
    refine iff_of_true ?_ Bool.false_ne_true
    simp only [onMessage, onInitiateCluster]
    split
    · exact filed_join _ _
    · exact h
  | formCluster _ r =>
    refine iff_of_true ?_ Bool.false_ne_true
    simp only [onMessage, onFormCluster]
    split
    · split
      · exact filed_join _ _
      · exact h
    · exact h
  | neighborCluster _ cluster r =>
    exact iff_of_true (filed_onNeighborCluster hu h cluster _) Bool.false_ne_true
  | interCluster =>
    exact iff_of_true ((Beside.onInterCluster t _ _ _ _ _ _).filed h) Bool.false_ne_true
  | intraCluster =>
    exact iff_of_true ((Beside.onIntraCluster t _ _ _ _).filed h) Bool.false_ne_true
  | interNode => exact iff_of_true ((Beside.onInterNode t _ _ _).filed h) Bool.false_ne_true
  | ack => exact iff_of_true h Bool.false_ne_true
  | incident => exact iff_of_true ((Beside.onIncident t _ _ _ _ _).filed h) Bool.false_ne_true

end Turn

/-- Only messages may let the own cluster be listed. -/
lemma Stride.filed (s : Stride v t t') (hm : ∀ m, ¬ v.Brings m)
    (he : t.node.registry.Excludes t.node.record.id) (h : t.node.Filed) : t'.node.Filed := by
  have told {r : Record} (hr : v.Tells r) : False := by
    cases hr with
    | clusterInfo h | initiateCluster h | formCluster h => exact hm _ h
  cases s with
  | beside hb => exact hb.filed h
  | beginClustering => exact h.of_core t.core_beginClustering
  | endClustering => exact Turn.filed_endClustering h
  | formCluster => exact h.of_core t.core_formCluster
  | transmit => exact Turn.filed_transmit (t := t.setSlot .send none) he h
  | checkElection => exact Turn.filed_checkElection (t := t.setSlot .election none) h
  | upkeep => exact Turn.filed_upkeep (t := t.setSlot .upkeep none) he h
  | hear hr => exact (told hr).elim
  | join => exact t.filed_join _
  | merge => exact Turn.filed_merge h
  | enrol hb | settle hb => exact absurd hb (hm _)
  | note p hr =>
    cases hr with
    | clusterInfo hb | neighborCluster hb | densityMap hb => exact absurd hb (hm _)

/-! ### Visits -/

namespace Node

/-- A message in the name of somebody else lets a node keep itself apart. -/
lemma Apart.onMessage (h : t.node.Apart) (sender : NodeId) {m : Message}
    (hm : m.isAlien t.node.record.id) : (t.onMessage sender m).node.Apart ∧
      (t.onMessage sender m).node.record.id = t.node.record.id := by
  have hb : (t.hearing sender m).Brings m := List.mem_singleton.2 rfl
  have hv : (t.hearing sender m).Alien t.node.record.id :=
    fun m' hm' => List.mem_singleton.1 hm' ▸ hm
  have hmoves := t.moves_onMessage sender m
  obtain ⟨r₀, hu⟩ := h.upright
  refine ⟨⟨⟨r₀, ?_⟩, (Strides.onMessage sender t hb).excludes hv h.excludes⟩, hmoves.alike.id⟩
  exact hmoves.induct (P := fun t => r₀.Upright t.node.record) hu fun _ _ h m => m.upright h

lemma Apart.visit (h : n.Apart) (hv : v.Alien n.record.id) : (n.visit v).node.Apart :=
  ⟨h.upright.imp fun _ hu => upright_visit hu v, (strides_visit n v).excludes hv h.excludes⟩

/-- As long as no message of a packet lists the own cluster, it is not listed. -/
lemma Filed.messages (h : t.node.Filed) (ha : t.node.Apart) (sender : NodeId) {ms : List Message}
    (hm : ∀ m ∈ ms, m.isAlien t.node.record.id)
    (hq : Turn.among Turn.misfiles sender t ms = false) :
    (ms.foldl (Turn.onMessage sender) t).node.Filed := by
  induction ms generalizing t with
  | nil => exact h
  | cons m ms ih =>
    obtain ⟨r₀, hu⟩ := ha.upright
    obtain ⟨hfirst, hrest⟩ := (Bool.or_eq_false_iff).1 hq
    have hown := hm m List.mem_cons_self
    obtain ⟨ha', hid⟩ := ha.onMessage sender hown
    have hfiled := (Turn.filed_onMessage_iff hu ha.excludes h sender hown).2
      (Bool.eq_false_iff.1 hfirst)
    refine ih hfiled ha' (fun m' hm' => ?_) hrest
    rw [hid]
    exact hm m' (List.mem_cons_of_mem m hm')

lemma Filed.visit (h : n.Filed) (ha : n.Apart) (hv : v.Alien n.record.id)
    (hq : n.misfiles v = false) : (n.visit v).node.Filed := by
  have silent (hc : ∀ m, ¬ v.Brings m) : (n.visit v).node.Filed :=
    ((strides_visit n v).induct (P := fun t => t.node.record.id = n.record.id ∧
      t.node.registry.Excludes t.node.record.id ∧ t.node.Filed) ⟨rfl, ha.excludes, h⟩
      fun _ _ h s => ⟨s.id.trans h.1, s.excludes (h.1.symm ▸ hv) h.2.1,
        s.filed hc h.2.1 h.2.2⟩).2.2
  cases hc : v.call with
  | packet sender packet =>
    simp only [misfiles, hc] at hq
    rw [n.visit_of_packet hc]
    refine Turn.Beside.filed (.noteRole _ _) (Filed.messages h ⟨?_, ha.excludes⟩ sender ?_ hq)
    · exact ha.upright.imp fun _ hu => hu.locate _ _
    · exact fun m hm => hv m (by rwa [Visit.messages, hc])
  | _ =>
    apply silent
    intro m hm
    rw [Visit.Brings, Visit.messages, hc] at hm
    cases hm

/-- A packet with a single message that would list the own cluster does so. -/
lemma filed_visit_iff (h : n.Filed) (ha : n.Apart) (hv : v.Alien n.record.id) {sender : NodeId}
    {m : Message} (hc : v.call = .packet sender (Packet.single m)) :
    (n.visit v).node.Filed ↔ ¬ n.misfiles v := by
  let t := (Turn.start n v.now v.position v.nextHandle).receive
  have hm : m.isAlien n.record.id := hv m (by rw [Visit.messages, hc]; exact List.mem_cons_self)
  obtain ⟨r₀, hu⟩ := ha.upright
  have hiff := Turn.filed_onMessage_iff (t := t) (hu.locate _ _) ha.excludes h sender hm
  have hmis : n.misfiles v = t.misfiles m := by
    simp only [misfiles, hc]
    exact Bool.or_false _
  have hrole : (n.visit v).node.Filed ↔ (t.onMessage sender m).node.Filed := by
    rw [n.visit_single hc, Turn.node_noteRole]
    rfl
  rw [hrole, hiff, hmis]

end Node

end ClusterWave
