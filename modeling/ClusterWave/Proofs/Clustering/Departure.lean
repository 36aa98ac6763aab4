import ClusterWave.Proofs.Clustering.Revision
import ClusterWave.Proofs.Peer.Upkeep
import Mathlib.Data.List.Induction

/-!
# Members that leave

A node takes a neighbor into its cluster when it hears the neighbor name it as its head. A neighbor
that then says otherwise has left, but it stays among the members until the next round of upkeep,
which compares members with neighbors. So whenever the two disagree about a member, what is known of
the member has arrived since the last round, and they agree when a round is over.
-/

namespace ClusterWave

/-- Whether a round of upkeep takes place in a visit. -/
def Node.maintains (n : Node) (v : Visit) : Bool :=
  decide (v.call = .timer .upkeep) && n.clustering

/-- The records that a node has heard in some visits since the last round of upkeep. -/
inductive Node.News (n : Node) (r : Record) : List Visit → Prop where
  | arrived {vs : List Visit} {v : Visit} {r' : Record} (h : v.Tells r')
      (hr : r = r'.stamp v.now) : News n r (vs ++ [v])
  | later {vs : List Visit} {v : Visit} (h : News n r vs) (hm : ¬ (n.after vs).maintains v) :
      News n r (vs ++ [v])

/-! ### Registries -/

/-- Every member is a neighbor, which names the node as its head or is excused. -/
def Registry.Attached (g : Registry) (own : NodeId) (excused : Record → Prop) : Prop :=
  ∀ id, g.members.contains id →
    ∃ r, g.neighbors.get? id = some r ∧ (r.belongsTo own ∨ excused r)

namespace Registry.Attached

variable {g : Registry} {own : NodeId} {excused excused' : Record → Prop} {r : Record}

lemma empty : Registry.empty.Attached own excused := by
  intro id h
  cases h

lemma mono (h : g.Attached own excused) (he : ∀ r, excused r → excused' r) :
    g.Attached own excused' := by
  intro id hid
  obtain ⟨r, hr, hb⟩ := h id hid
  exact ⟨r, hr, hb.imp_right (he r)⟩

/-- Foreign clusters do not matter. -/
lemma congr {g' : Registry} (h : g.Attached own excused) (hn : g'.neighbors = g.neighbors)
    (hm : g'.members = g.members) : g'.Attached own excused := by
  rw [Attached, hn, hm]
  exact h

/-- A neighbor that is heard is excused. -/
lemma hear (h : g.Attached own excused) (hr : excused r) : (g.hear r).Attached own excused := by
  intro id hm
  by_cases hid : id = r.id
  · rw [hid]
    exact ⟨r, Table.get?_insert_self _ _ _, .inr hr⟩
  · obtain ⟨r', hr', hb⟩ := h id hm
    exact ⟨r', (Table.get?_insert_of_ne _ _ hid).trans hr', hb⟩

lemma enrol (h : g.Attached own excused) (hn : g.neighbors.get? r.id = some r)
    (hb : r.belongsTo own) : (g.enrol r).Attached own excused := by
  intro id hm
  by_cases hid : id = r.id
  · rw [hid]
    exact ⟨r, hn, .inl hb⟩
  · apply h id
    obtain ⟨m, hm⟩ := Table.contains_iff.1 hm
    exact Table.contains_of_get? ((Table.get?_insert_of_ne _ _ hid).symm.trans hm)

/-- After a round of upkeep nobody needs an excuse. -/
lemma maintain {self : Record} (h : g.Attached self.id excused) (now : Timestamp)
    (timeout : Duration) :
    (g.maintain self now timeout).1.Attached self.id fun _ => False := by
  intro id hm
  have hmembers : (g.maintain self now timeout).1.members =
      (g.dropStrayMembers self.id).members.filter
        fun id _ => !(g.expired now timeout).contains id := rfl
  obtain ⟨m, hm⟩ := Table.contains_iff.1 hm
  rw [hmembers, Table.get?_filter_eq_some_iff, dropStrayMembers,
    Table.get?_filter_eq_some_iff] at hm
  obtain ⟨⟨hm, hstays⟩, hkept⟩ := hm
  obtain ⟨r, hr, -⟩ := h id (Table.contains_of_get? hm)
  rw [hr] at hstays
  refine ⟨r, ?_, .inl hstays⟩
  rw [neighbors_maintain, Table.get?_filter_eq_some_iff]
  exact ⟨hr, hkept⟩

end Registry.Attached

/-! ### Visits -/

variable {n : Node} {v : Visit} {t t' : Turn} {excused : Record → Prop}

/-- Members and neighbors agree after a stride, apart from the neighbors that are heard in it. -/
lemma Stride.attached (s : Stride v t t') (ht : ∀ r, v.Tells r → excused (r.stamp t.now))
    (h : t.node.registry.Attached t.node.record.id excused) :
    t'.node.registry.Attached t'.node.record.id excused := by
  have hg := s.revises
  rw [s.id]
  generalize t'.node.registry = g at hg ⊢
  cases hg with
  | kept => exact h
  | heard hr => exact h.hear (ht _ hr)
  | enrolled hn hb => exact h.enrol hn hb
  | noted =>
    exact h.congr (Registry.neighbors_noteCluster _ _ _ _) (Registry.members_noteCluster _ _ _ _)
  | forgot => exact h.congr rfl rfl
  | maintained => exact (h.maintain _ _).mono fun _ => False.elim

namespace Node

lemma attached_visit (h : n.registry.Attached n.record.id excused)
    (ht : ∀ r, v.Tells r → excused (r.stamp v.now)) :
    (n.visit v).node.registry.Attached n.record.id excused := by
  have hvisit : (n.visit v).now = v.now ∧ (n.visit v).node.record.id = n.record.id ∧
      (n.visit v).node.registry.Attached (n.visit v).node.record.id excused := by
    refine (strides_visit n v).induct (P := fun t => t.now = v.now ∧
      t.node.record.id = n.record.id ∧ t.node.registry.Attached t.node.record.id excused)
      ⟨rfl, rfl, h⟩ ?_
    rintro t t' ⟨hnow, hid, h⟩ s
    exact ⟨s.now.trans hnow, s.id.trans hid, s.attached (hnow.symm ▸ ht) h⟩
  exact hvisit.2.1 ▸ hvisit.2.2

/-- The visit in which a round of upkeep takes place. -/
lemma registry_visit_of_maintains (h : n.maintains v) :
    ∃ self : Record, self.id = n.record.id ∧ (n.visit v).node.registry =
      (n.registry.maintain self v.now n.settings.timeout).1 := by
  simp only [maintains, Bool.and_eq_true, decide_eq_true_eq] at h
  let t := (Turn.start n v.now v.position v.nextHandle).locate.setSlot .upkeep none
  refine ⟨t.node.record, rfl, ?_⟩
  rw [n.visit_timer h.1, Turn.node_noteRole]
  exact t.registry_upkeep.trans (if_pos h.2)

lemma attached_visit_of_maintains (h : n.registry.Attached n.record.id excused)
    (hm : n.maintains v) : (n.visit v).node.registry.Attached n.record.id fun _ => False := by
  obtain ⟨self, hid, hg⟩ := registry_visit_of_maintains hm
  rw [hg, ← hid]
  exact Registry.Attached.maintain (hid ▸ h) _ _

/-- Members and neighbors agree after some visits, apart from what is news. -/
lemma IsNew.attached (hn : n.IsNew) (vs : List Visit) :
    (n.after vs).record.id = n.record.id ∧
      (n.after vs).registry.Attached n.record.id fun r => n.News r vs := by
  induction vs using List.reverseRecOn with
  | nil =>
    refine ⟨rfl, ?_⟩
    rw [after_nil, hn.registry]
    exact .empty
  | append_singleton vs v ih =>
    obtain ⟨hid, h⟩ := ih
    rw [after_append]
    refine ⟨(moves_visit _ v).alike.id.trans hid, ?_⟩
    rw [← hid] at h ⊢
    by_cases hm : (n.after vs).maintains v
    · exact (attached_visit_of_maintains h hm).mono fun _ => False.elim
    · exact attached_visit (h.mono fun r hr => .later hr hm) fun r hr => .arrived hr rfl

/-- Whatever a new node has been visited for, every member is a neighbor, and what is known of it
names the node as its head unless it has arrived since the last round of upkeep. When a round of
upkeep is over, all members name the node as their head. -/
theorem strays_stay_until_upkeep (hn : n.IsNew) (vs : List Visit) :
    (∀ id, (n.after vs).registry.members.contains id →
      ∃ r, (n.after vs).registry.neighbors.get? id = some r ∧
        (r.cluster = some n.id ∨ n.News r vs)) ∧
      ∀ v id, (n.after vs).maintains v →
        ((n.after vs).visit v).node.registry.members.contains id →
          ∃ r, ((n.after vs).visit v).node.registry.neighbors.get? id = some r ∧
            r.cluster = some n.id := by
  obtain ⟨hid, h⟩ := hn.attached vs
  constructor
  · intro id hm
    obtain ⟨r, hr, hb⟩ := h id hm
    exact ⟨r, hr, hb.imp_left beq_iff_eq.1⟩
  · intro v id hv hm
    rw [← hid] at h
    obtain ⟨r, hr, hb⟩ := attached_visit_of_maintains h hv id hm
    refine ⟨r, hr, ?_⟩
    rw [Node.id, ← hid]
    exact beq_iff_eq.1 (hb.resolve_right not_false)

end Node

namespace Bench

open Visit (hears)

/-- The visits of a head the only member of which says that it stands alone. -/
def leavingVisits : List Visit :=
  enrollingVisits ++ [hears 1260 11 ⟨2⟩ (.clusterInfo 2 (Record.lone ⟨2⟩ Vec3.zero .start))]

/-- The next round of upkeep of the head. -/
def upkeepDue : Visit := .rings 1300 12 .upkeep

/-- What is known of the member does not name the head when the member has left, but it is news. -/
theorem stray_is_news : ∃ n : Node, n.IsNew ∧
    (n.after leavingVisits).registry.members.contains ⟨2⟩ ∧
      (∃ r, (n.after leavingVisits).registry.neighbors.get? ⟨2⟩ = some r ∧
        r.cluster ≠ some n.id ∧ n.News r leavingVisits) ∧
      (n.after leavingVisits).maintains upkeepDue ∧
      ¬ ((n.after leavingVisits).visit upkeepDue).node.registry.members.contains ⟨2⟩ ∧
      (∀ id, (n.after leavingVisits).registry.members.contains id →
        ∃ r, (n.after leavingVisits).registry.neighbors.get? id = some r ∧
          (r.cluster = some n.id ∨ n.News r leavingVisits)) ∧
        ∀ v id, (n.after leavingVisits).maintains v →
          ((n.after leavingVisits).visit v).node.registry.members.contains id →
            ∃ r, ((n.after leavingVisits).visit v).node.registry.neighbors.get? id = some r ∧
              r.cluster = some n.id := by
  have hrun : ((Node.create ⟨5⟩ Settings.standard false none).toOption.any fun n =>
      (n.after leavingVisits).registry.members.contains ⟨2⟩ &&
        ((n.after leavingVisits).registry.neighbors.get? ⟨2⟩).any (fun r =>
          decide (r.cluster ≠ some n.id)) &&
        (n.after leavingVisits).maintains upkeepDue &&
        !((n.after leavingVisits).visit upkeepDue).node.registry.members.contains ⟨2⟩) = true := by
    decide +kernel
  simp only [Option.any_eq_true, Bool.and_eq_true, Bool.not_eq_true', decide_eq_true_eq] at hrun
  obtain ⟨n, hn, ⟨⟨hm, r, hr, hne⟩, hv⟩, hgone⟩ := hrun
  have hall := Node.strays_stay_until_upkeep (.of_toOption hn) leavingVisits
  obtain ⟨r', hr', hb⟩ := hall.1 ⟨2⟩ hm
  have he : r' = r := Option.some.inj (hr'.symm.trans hr)
  refine ⟨n, .of_toOption hn, hm, ⟨r, hr, hne, ?_⟩, hv, ?_, hall⟩
  · exact (he ▸ hb).resolve_left hne
  · rw [hgone]
    exact Bool.false_ne_true

/-- At a bench that behaves well a head keeps a member that has said that it stands alone. -/
theorem stray_is_still_member : ∃ b₀ b : Bench, b₀.node.IsNew ∧ b₀.alarms = [] ∧
    b₀.run? leavingVisits = some b ∧ b.node.registry.members.contains ⟨2⟩ ∧
      ∃ r, b.node.registry.neighbors.get? ⟨2⟩ = some r ∧ r.cluster ≠ some b.node.id := by
  have hrun : ((Node.create ⟨5⟩ Settings.standard false none).toOption.any fun n =>
      ((Bench.setUp n Vec3.zero).run? leavingVisits).any fun b =>
        b.node.registry.members.contains ⟨2⟩ &&
          (b.node.registry.neighbors.get? ⟨2⟩).any fun r =>
            decide (r.cluster ≠ some b.node.id)) = true := by decide +kernel
  simp only [Option.any_eq_true, Bool.and_eq_true, decide_eq_true_eq] at hrun
  obtain ⟨n, hn, b, hb, hm, r, hr, hne⟩ := hrun
  exact ⟨.setUp n Vec3.zero, b, .of_toOption hn, rfl, hb, hm, r, hr, hne⟩

end Bench

end ClusterWave
