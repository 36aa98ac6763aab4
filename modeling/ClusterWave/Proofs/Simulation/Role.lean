import ClusterWave.Proofs.Node.Role
import ClusterWave.Proofs.Simulation.Basic
import ClusterWave.Proofs.Simulation.Summary

/-!
# Roles in a simulation

The records of the nodes of a simulation are consistent, so no snapshot ever shows a node that leads
without belonging to its own cluster, or the other way round.
-/

namespace ClusterWave

namespace Simulation

variable {s : Simulation}

/-- The nodes of a simulation have consistent records under their own numbers. -/
lemma Reached.consistent (h : s.Reached) :
    s.Each fun id n => n.record.isConsistent ∧ n.record.id = id := by
  have hup : s.Each fun id n => ∃ r₀ : Record, r₀.Upright n.record ∧ r₀.id = id := by
    refine h.each ?_ ?_
    · rintro id n v ⟨r₀, hr, hid⟩
      exact ⟨r₀, Node.upright_visit hr v, hid⟩
    · intro id settings isStarter velocity n hn
      refine ⟨n.record, Node.upright_of_create hn [], ?_⟩
      rw [Node.record_create hn]
      rfl
  intro id n hn
  obtain ⟨r₀, hr, hid⟩ := hup id n hn
  exact ⟨hr.consistent, hr.id.trans hid⟩

lemma Reached.inconsistent_snapshot (h : s.Reached) :
    s.snapshot.clusters.inconsistent = [] := by
  show (ClusterSummary.ofNodes _).inconsistent = []
  rw [ClusterSummary.inconsistent_ofNodes, List.map_eq_nil_iff, List.filter_eq_nil_iff]
  intro summary hmem
  obtain ⟨⟨id, n⟩, hentry, hsome⟩ := List.mem_filterMap.1 hmem
  obtain ⟨position, -, rfl⟩ := Option.map_eq_some_iff.1 hsome
  obtain ⟨hcons, rfl⟩ := h.consistent id n (Table.get?_eq_some_iff.2 hentry)
  obtain ⟨hhead, -⟩ := Record.isConsistent_iff.1 hcons
  rw [NodeSummary.isConsistent_iff.2 hhead]
  decide

/-- Whatever a node is called for, in any order and at any times, with whatever packets: it is a
head exactly when it belongs to the cluster named after it, a member belongs to another cluster, a
node that stands alone belongs to none, the head is addressed by the name of the cluster, and what
the node was created with is unchanged. So no snapshot of a simulation shows an inconsistent
node. -/
theorem roles_stay_consistent {id : NodeId} {settings : Settings} {isStarter : Bool}
    {velocity : Option Vec2} {n : Node} {vs : List Visit}
    (hn : Node.create id settings isStarter velocity = .ok n) (hs : s.Reached) :
    ((n.after vs).record.degree = .head ↔ (n.after vs).record.cluster = some id) ∧
      ((n.after vs).record.degree = .member → ∃ c, (n.after vs).record.cluster = some c ∧ c ≠ id) ∧
      ((n.after vs).record.degree = .standalone → (n.after vs).record.cluster = none) ∧
      (n.after vs).record.headAddress = (n.after vs).record.cluster ∧
      (n.after vs).record.id = id ∧ (n.after vs).record.isStarter = isStarter ∧
      (n.after vs).record.velocity = velocity ∧
      s.snapshot.clusters.inconsistent = [] := by
  have hup := Node.upright_of_create hn vs
  have hrec := Node.record_create hn
  have hid : (n.after vs).record.id = id := by
    rw [hup.id, hrec]
    rfl
  obtain ⟨hhead, hmember, hlone⟩ := Record.isConsistent_iff.1 hup.consistent
  rw [hid] at hhead hmember
  refine ⟨hhead, hmember, hlone, hup.headAddress, hid, ?_, ?_, hs.inconsistent_snapshot⟩
  · rw [hup.isStarter, hrec]
  · rw [hup.velocity, hrec]

/-- Two nodes at the same place, run for three seconds. -/
def pair? : Option Simulation := do
  let s ← (create ChannelSettings.standard).toOption
  let s ← (s.addNode ⟨1⟩ Settings.standard false none (.parked Vec2.zero)).toOption
  let s ← (s.addNode ⟨2⟩ Settings.standard false none (.parked Vec2.zero)).toOption
  s.runUntil? (.ofSecs 3) 100

lemma reached_pair (h : pair? = some s) : s.Reached := by
  simp only [pair?, Option.bind_eq_bind, Option.bind_eq_some_iff] at h
  obtain ⟨s₀, h₀, s₁, h₁, s₂, h₂, hs⟩ := h
  have r₀ : s₀.Reached := .create (eq_ok_of_toOption h₀)
  have r₁ : s₁.Reached := r₀.addNode (eq_ok_of_toOption h₁)
  have r₂ : s₂.Reached := r₁.addNode (eq_ok_of_toOption h₂)
  exact r₂.runUntil hs

/-- A node hears a record under its own number that claims to lead another cluster. It takes the
offer by leading a cluster of its own. A pair of nodes forms a single cluster. -/
theorem misnamed_head_leads_consistently : ∃ (n : Node) (vs : List Visit) (s : Simulation),
    Node.create ⟨1⟩ Settings.standard false none = .ok n ∧ s.Reached ∧
      (n.after vs).record.degree = .head ∧ s.snapshot.clusters.headCount = 1 ∧
      ((n.after vs).record.degree = .head ↔ (n.after vs).record.cluster = some ⟨1⟩) ∧
      ((n.after vs).record.degree = .member →
        ∃ c, (n.after vs).record.cluster = some c ∧ c ≠ ⟨1⟩) ∧
      ((n.after vs).record.degree = .standalone → (n.after vs).record.cluster = none) ∧
      (n.after vs).record.headAddress = (n.after vs).record.cluster ∧
      (n.after vs).record.id = ⟨1⟩ ∧ (n.after vs).record.isStarter = false ∧
      (n.after vs).record.velocity = none ∧ s.snapshot.clusters.inconsistent = [] := by
  let r : Record := { Record.lone ⟨1⟩ Vec3.zero .start with degree := .head, cluster := some ⟨7⟩ }
  let vs : List Visit :=
    [ ⟨.start, Vec3.zero, 1, .start⟩,
      ⟨.start, Vec3.zero, 2, .timer .start⟩,
      ⟨.start, Vec3.zero, 4, .packet ⟨9⟩ ⟨[.clusterInfo 1 r]⟩⟩ ]
  have hnode : ((Node.create ⟨1⟩ Settings.standard false none).toOption.any fun n =>
      (n.after vs).record.degree = .head) = true := by decide +kernel
  have hpair : (pair?.any fun s => s.snapshot.clusters.headCount = 1) = true := by decide +kernel
  simp only [Option.any_eq_true, decide_eq_true_eq] at hnode hpair
  obtain ⟨n, hn, hhead⟩ := hnode
  obtain ⟨s, hs, hcount⟩ := hpair
  have hcreated := eq_ok_of_toOption hn
  have hreached := reached_pair hs
  exact ⟨n, vs, s, hcreated, hreached, hhead, hcount, roles_stay_consistent hcreated hreached⟩

end Simulation

end ClusterWave
