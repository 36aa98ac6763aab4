import ClusterWave.Proofs.Peer.Registry
import ClusterWave.Proofs.Simulation.Cast
import ClusterWave.Simulation.Scenario

/-!
# Nodes that are gathered

The nodes of a scenario are started one after the other before anything takes place. Each of them
has a timer then for the begin of clustering, and nothing else is in the agenda.
-/

namespace ClusterWave

/-- A scenario of nodes with standard settings that stay where they are, over a standard channel on
which nothing is dropped. -/
structure Scenario.IsStatic (sc : Scenario) : Prop where
  settings : sc.settings = .standard
  channel : sc.channel = .standard
  rules : sc.dropRules = []
  distinct : (sc.nodes.map NodeSpec.id).Nodup
  parked : ∀ n ∈ sc.nodes, n.velocity = none ∧ n.departure = none

/-- A node that has been started, and for which clustering is about to begin. -/
structure Bench.Starts (id : NodeId) (b : Bench) : Prop where
  settings : b.node.settings = .standard
  id : b.node.record.id = id
  status : b.node.status = .init
  role : b.node.record.role = (.standalone, none)
  clustering : b.node.clustering = false
  slots : b.node.slots = .empty
  registry : b.node.registry = .empty
  alarms : ∃ handle, b.alarms = [⟨.start, handle, .start⟩]

namespace Simulation

/-- A simulation to which some nodes have been added. -/
structure Gathered (specs : List NodeSpec) (s : Simulation) : Prop where
  now : s.now = .start
  channel : s.channel.IsClear
  orderly : s.agenda.Orderly
  starts : ∀ p ∈ s.agenda.appointments, ∃ n ∈ specs, ∃ handle, p.event = .timer n.id handle .start
  residents : ∀ id r, s.directory.residents.get? id = some r ↔
    ∃ n ∈ specs, n.id = id ∧ r = ⟨.parked n.position, false⟩
  nodes : ∀ id, (∃ n, s.nodes.get? id = some n) ↔ ∃ n ∈ specs, n.id = id
  seats : ∀ id n, s.nodes.get? id = some n → ∃ b, s.Seat id b ∧ b.Matches ∧ b.Starts id

end Simulation

/-! ### Single nodes -/

lemma Settings.check_standard : standard.check = .ok () := by decide +kernel

/-- Every node can be created with standard settings. -/
lemma Node.exists_create_standard (id : NodeId) (isStarter : Bool) (velocity : Option Vec2) :
    ∃ n, create id .standard isStarter velocity = .ok n ∧ n.IsNew ∧ n.settings = .standard ∧
      n.record.id = id ∧ n.record.role = (.standalone, none) := by
  have hcreate : ∃ n, create id .standard isStarter velocity = .ok n ∧ n.settings = .standard ∧
      n.record.id = id ∧ n.record.role = (.standalone, none) := by
    rw [create, Settings.check_standard]
    exact ⟨_, rfl, rfl, rfl, rfl⟩
  obtain ⟨n, hn, hrest⟩ := hcreate
  exact ⟨n, hn, ⟨id, .standard, isStarter, velocity, hn⟩, hrest⟩

/-- A node with standard settings arms the begin of clustering when it is started. -/
lemma Node.visit_start {n : Node} {v : Visit} (hs : n.settings = .standard)
    (hv : v.call = .start) :
    n.visit v = (Turn.start n v.now v.position v.nextHandle).locate.schedule
      ((Timestamp.ofDuration Settings.standard.clusteringStart).since v.now) .start := by
  obtain ⟨settings, _⟩ := n
  obtain rfl : settings = .standard := hs
  rw [Node.visit, hv]
  rfl

lemma Bench.starts_of_serves {b b' : Bench} {v : Visit} {id : NodeId} (hn : b.node.IsNew)
    (hs : b.node.settings = .standard) (hi : b.node.record.id = id)
    (hr : b.node.record.role = (.standalone, none)) (ha : b.alarms = [])
    (hserves : b.Serves v b') (hv : v.call = .start) (hnow : v.now = .start) :
    b'.Starts id := by
  obtain ⟨hstatus, hclustering, -⟩ := hn.waiting
  obtain ⟨-, -, -, hslots⟩ := hn.blank
  have hvisit := Node.visit_start hs hv
  have hnode := hserves.node
  rw [hvisit] at hnode
  refine ⟨?_, ?_, ?_, ?_, ?_, ?_, ?_, ⟨v.nextHandle⟩, ?_⟩
  · rw [hnode]
    exact hs
  · rw [hnode]
    exact hi
  · rw [hnode]
    exact hstatus
  · rw [hnode]
    exact hr
  · rw [hnode]
    exact hclustering
  · rw [hnode]
    exact hslots
  · rw [hnode]
    exact hn.registry
  · obtain ⟨as, hleft, halarms⟩ := hserves.alarms
    obtain rfl : as = [] := by
      rw [ha] at hleft
      cases hleft with
      | all => rfl
      | others hm => cases hm
    rw [halarms, hvisit, hnow]
    rfl

/-! ### Adding nodes -/

lemma exists_mem_snoc {α : Type} {as : List α} {a : α} {P : α → Prop} :
    (∃ x ∈ as ++ [a], P x) ↔ (∃ x ∈ as, P x) ∨ P a := by
  simp only [List.mem_append, List.mem_singleton, or_and_right, exists_or, exists_eq_left]

namespace Simulation

variable {s s' : Simulation} {specs : List NodeSpec} {spec : NodeSpec} {id : NodeId} {node : Node}
  {position : Vec3} {b : Bench}

/-- A node is put in its place, but not started yet. -/
def board (s : Simulation) (spec : NodeSpec) (node : Node) : Simulation :=
  { s with
    directory := ⟨s.directory.residents.insert spec.id ⟨.parked spec.position, false⟩⟩
    nodes := s.nodes.insert spec.id node }

lemma resolve?_board (s : Simulation) (spec : NodeSpec) (node : Node) :
    (s.board spec node).directory.resolve? spec.id s.now = some spec.position.lift := by
  have hget : (s.board spec node).directory.residents.get? spec.id =
      some ⟨.parked spec.position, false⟩ := Table.get?_insert_self _ _ _
  rw [Directory.resolve?, hget]
  rfl

/-- A node that stays comes on board and is started, unless its number is taken. -/
lemma enlist_eq (hp : spec.velocity = none ∧ spec.departure = none)
    (hfree : s.directory.residents.contains spec.id = false)
    (hcreate : Node.create spec.id .standard spec.isStarter spec.waveVelocity = .ok node) :
    Scenario.enlist .standard s spec = .ok ((s.board spec node).call spec.id .start) := by
  have hmotion : spec.motion = .parked spec.position := by
    simp only [NodeSpec.motion, hp.1]
  simp only [Scenario.enlist, Scenario.enter, Simulation.addNode, hcreate, Directory.register?,
    hfree, hmotion, hp.2, Bool.false_eq_true, if_false]
  rfl

/-- A node without timers takes its seat. -/
lemma seat_of_get? (hn : s.nodes.get? id = some node)
    (ht : ∀ p ∈ s.agenda.appointments, ∀ handle timer, p.event ≠ .timer id handle timer) :
    s.Seat id ⟨node, s.now, position, s.agenda.nextHandle, [], []⟩ := by
  refine ⟨hn, Timestamp.le_refl _, Nat.le_refl _, ?_⟩
  intro a
  constructor
  · intro hm
    cases hm
  · rintro ⟨-, p, hm, -, he⟩
    exact absurd he (ht p hm _ _)

lemma Seat.board (h : s.Seat id b) (hne : id ≠ spec.id) : (s.board spec node).Seat id b := by
  refine ⟨?_, h.clock, h.handles, h.alarms⟩
  exact (Table.get?_insert_of_ne _ _ hne).trans h.node

/-- A call neither brings a node nor takes one away. -/
lemma Called.exists_get? {v : Visit} (h : s.Called id node v s') (id' : NodeId) :
    (∃ n, s'.nodes.get? id' = some n) ↔ ∃ n, s.nodes.get? id' = some n := by
  rw [h.nodes]
  by_cases he : id' = id
  · rw [he, Table.get?_insert_self, h.node]
    exact ⟨fun _ => ⟨_, rfl⟩, fun _ => ⟨_, rfl⟩⟩
  · rw [Table.get?_insert_of_ne _ _ he]

namespace Gathered

/-- The number of a node that is still to come is free. -/
lemma contains_eq_false (h : s.Gathered specs) (hnew : ∀ n ∈ specs, n.id ≠ spec.id) :
    s.directory.residents.contains spec.id = false := by
  rw [Bool.eq_false_iff]
  intro hc
  obtain ⟨r, hr⟩ := Table.contains_iff.1 hc
  obtain ⟨n, hn, he, -⟩ := (h.residents _ r).1 hr
  exact hnew n hn he

lemma ne_timer (h : s.Gathered specs) (hnew : ∀ n ∈ specs, n.id ≠ id) :
    ∀ p ∈ s.agenda.appointments, ∀ handle timer, p.event ≠ .timer id handle timer := by
  intro p hp handle timer he
  obtain ⟨n, hn, handle', he'⟩ := h.starts p hp
  exact hnew n hn (Event.timer.inj (he'.symm.trans he)).1

lemma residents_board (h : s.Gathered specs) (hnew : ∀ n ∈ specs, n.id ≠ spec.id) (id : NodeId)
    (r : Resident) : (s.board spec node).directory.residents.get? id = some r ↔
      ∃ n ∈ specs ++ [spec], n.id = id ∧ r = ⟨.parked n.position, false⟩ := by
  rw [exists_mem_snoc, Simulation.board]
  by_cases he : id = spec.id
  · subst he
    rw [Table.get?_insert_self, Option.some_inj]
    constructor
    · rintro rfl
      exact .inr ⟨rfl, rfl⟩
    · rintro (⟨n, hn, he, -⟩ | ⟨-, hr⟩)
      · exact absurd he (hnew n hn)
      · exact hr.symm
  · rw [Table.get?_insert_of_ne _ _ he, h.residents]
    refine (or_iff_left ?_).symm
    rintro ⟨hid, -⟩
    exact he hid.symm

lemma nodes_board (h : s.Gathered specs) (id : NodeId) :
    (∃ n, (s.board spec node).nodes.get? id = some n) ↔ ∃ n ∈ specs ++ [spec], n.id = id := by
  rw [exists_mem_snoc, Simulation.board]
  by_cases he : id = spec.id
  · subst he
    rw [Table.get?_insert_self]
    exact ⟨fun _ => .inr rfl, fun _ => ⟨_, rfl⟩⟩
  · rw [Table.get?_insert_of_ne _ _ he, h.nodes]
    exact (or_iff_left fun hid => he hid.symm).symm

/-- One more node is started. -/
lemma enlist (h : s.Gathered specs) (hp : spec.velocity = none ∧ spec.departure = none)
    (hnew : ∀ n ∈ specs, n.id ≠ spec.id) :
    ∃ s', Scenario.enlist .standard s spec = .ok s' ∧ s'.Gathered (specs ++ [spec]) := by
  obtain ⟨node, hcreate, hisNew, hsettings, hid, hrole⟩ :=
    Node.exists_create_standard spec.id spec.isStarter spec.waveVelocity
  let s₁ : Simulation := s.board spec node
  have hget : s₁.nodes.get? spec.id = some node := Table.get?_insert_self _ _ _
  have hcalled := called_of_resolve .start (s.resolve?_board spec node) hget
  let v : Visit := ⟨s₁.now, spec.position.lift, s₁.agenda.nextHandle, .start⟩
  have hvisit : node.visit v = _ := Node.visit_start hsettings rfl
  -- the bench at which the node is started
  let b : Bench := ⟨node, s₁.now, spec.position.lift, s₁.agenda.nextHandle, [], []⟩
  have hmatches : b.Matches := .of_isNew hisNew rfl
  have hseat : s₁.Seat spec.id b := seat_of_get? hget (h.ne_timer hnew)
  obtain ⟨horderly, ⟨b', hserves, hseat'⟩, hothers⟩ :=
    hcalled.call h.orderly hseat hmatches fun _ => Call.noConfusion
  obtain ⟨hchannel, -⟩ := Called.posts (v := v) hcalled h.channel fun peer packet hm => by
    rw [hvisit] at hm
    cases List.mem_singleton.1 hm
  refine ⟨_, enlist_eq hp (h.contains_eq_false hnew) hcreate, ?_⟩
  constructor
  · rw [hcalled.now]
    exact h.now
  · rw [hchannel]
    exact h.channel
  · exact horderly
  · intro p hm
    rw [exists_mem_snoc]
    rcases hcalled.grows.mem hm with hm | ⟨e, he, hb⟩
    · exact .inl (h.starts p hm)
    · rw [hvisit] at he
      cases List.mem_singleton.1 he
      cases hb
      exact .inr ⟨_, rfl⟩
  · rw [hcalled.directory]
    exact h.residents_board hnew
  · intro id
    exact (hcalled.exists_get? id).trans (h.nodes_board id)
  · intro id n hn
    by_cases he : id = spec.id
    · subst he
      exact ⟨b', hseat', hmatches.serves hserves,
        Bench.starts_of_serves hisNew hsettings hid hrole rfl hserves rfl h.now⟩
    · rw [hcalled.nodes, Table.get?_insert_of_ne _ _ he] at hn
      obtain ⟨b₀, hs, hrest⟩ := h.seats id n ((Table.get?_insert_of_ne _ _ he).symm.trans hn)
      exact ⟨b₀, hothers id b₀ he (hs.board he), hrest⟩

lemma foldlM {rest : List NodeSpec} (h : s.Gathered specs)
    (hp : ∀ n ∈ rest, n.velocity = none ∧ n.departure = none)
    (hd : ((specs ++ rest).map NodeSpec.id).Nodup) :
    ∃ s', rest.foldlM (Scenario.enlist .standard) s = .ok s' ∧ s'.Gathered (specs ++ rest) := by
  induction rest generalizing s specs with
  | nil =>
    rw [List.append_nil]
    exact ⟨s, rfl, h⟩
  | cons spec rest ih =>
    have hnew : ∀ n ∈ specs, n.id ≠ spec.id := by
      rw [List.map_append, List.nodup_append] at hd
      intro n hn he
      exact hd.2.2 _ (List.mem_map_of_mem hn) _ (List.mem_map_of_mem List.mem_cons_self) he
    obtain ⟨s', henlist, hs'⟩ := h.enlist (hp spec List.mem_cons_self) hnew
    have happend : specs ++ spec :: rest = (specs ++ [spec]) ++ rest := by
      rw [List.append_assoc]
      rfl
    rw [happend] at hd ⊢
    obtain ⟨s'', hrest, hs''⟩ := ih hs' (fun n hn => hp n (List.mem_cons_of_mem spec hn)) hd
    refine ⟨s'', ?_, hs''⟩
    rw [List.foldlM_cons, henlist]
    exact hrest

end Gathered

/-- The nodes of a static scenario can be gathered. -/
lemma exists_gathered {sc : Scenario} (h : sc.IsStatic) :
    ∃ s, sc.build = .ok s ∧ s.Gathered sc.nodes := by
  have hchannel : ChannelSettings.standard.check = .ok () := by decide +kernel
  let s₀ : Simulation :=
    { now := Timestamp.start
      nodes := Table.empty
      directory := Directory.empty
      agenda := Agenda.empty
      channel := ⟨.standard, [], Randomness.ofSeed ChannelSettings.standard.seed⟩
      timeline := Timeline.empty
      tally := Tally.zero }
  have hcreate : create .standard = .ok s₀ := by
    simp only [create, Channel.create, hchannel]
    rfl
  have hempty : s₀.Gathered [] := by
    refine ⟨rfl, ⟨rfl, rfl⟩, Agenda.orderly_empty, ?_, ?_, ?_, ?_⟩
    · intro p hp
      cases hp
    · intro id r
      constructor
      · intro hr
        cases hr
      · rintro ⟨n, hn, -⟩
        cases hn
    · intro id
      constructor
      · rintro ⟨n, hn⟩
        cases hn
      · rintro ⟨n, hn, -⟩
        cases hn
    · intro id n hn
      cases hn
  obtain ⟨s, hfold, hs⟩ := hempty.foldlM h.parked h.distinct
  refine ⟨s, ?_, hs⟩
  simp only [Scenario.build, h.channel, hcreate, h.rules, h.settings, List.foldl_nil, hfold]

end Simulation

end ClusterWave
