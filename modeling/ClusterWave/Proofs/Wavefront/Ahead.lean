import ClusterWave.Proofs.Bench.Attend
import ClusterWave.Proofs.Wavefront.Ratchet

/-!
# Starts that lie ahead

Whenever a node changes its own start, the new start lies ahead. There is one exception. When
clustering ends for a starter that stands alone, the node starts with its cluster, and it does so
even if the start of the cluster is over by then. The node may have led a cluster before, learnt of
a wavefront that was to start at one of its members, and lost the cluster again.
`Node.Revives` says exactly when this comes about.
-/

namespace ClusterWave

/-- Whether a visit lets a node take over a start of its cluster that is over. -/
def Node.Revives (n : Node) (v : Visit) : Prop :=
  v.call = .timer .stop ∧ n.record.isStandalone ∧ n.record.isStarter ∧
    n.schedule.firstStart ≤ v.now ∧ n.schedule.firstStart < n.schedule.start

/-- How the own start of a node may change at a given time. -/
def Schedule.KeepsAhead (now : Timestamp) (s s' : Schedule) : Prop :=
  s'.start ≠ s.start → now < s'.start

namespace Schedule.KeepsAhead

variable {now : Timestamp} {s s' s'' : Schedule}

lemma of_eq (h : s'.start = s.start) : KeepsAhead now s s' := fun hne => absurd h hne

lemma trans (h : KeepsAhead now s s') (h' : KeepsAhead now s' s'') : KeepsAhead now s s'' := by
  intro hne
  by_cases he : s''.start = s'.start
  · rw [he] at hne ⊢
    exact h hne
  · exact h' he

lemma adoptStart (s : Schedule) (candidate : Timestamp) (node : NodeId) (now : Timestamp) :
    KeepsAhead now s (s.adoptStart candidate node now).1 := by
  simp only [Schedule.adoptStart]
  split
  · rename_i h
    split <;> exact fun _ => h.1
  · exact of_eq rfl

/-- A node may start with its cluster if that start lies ahead. -/
lemma startWithCluster (h : now < s.firstStart) : KeepsAhead now s s.startWithCluster.1 := by
  simp only [Schedule.startWithCluster]
  split
  · exact fun _ => h
  · exact of_eq rfl

end Schedule.KeepsAhead

open Schedule (KeepsAhead)

variable {n : Node} {v : Visit} {t t' : Turn}

/-! ### Visits before clustering ends -/

lemma Move.keepsAhead (m : Move n v t t') (hv : v.call ≠ .timer .stop) :
    KeepsAhead t.now t.node.schedule t'.node.schedule := by
  cases m with
  | startFirst h =>
    rw [Turn.node_startFirst]
    exact .startWithCluster h
  | startAlone hs => exact absurd hs hv
  | adopt =>
    rw [Turn.node_scheduleActivation]
    exact .adoptStart _ _ _ _
  | relax hm travel d hnow hlt =>
    rw [Turn.node_scheduleActivation]
    exact fun _ => hnow
  | disarm =>
    rw [Turn.node_disarm]
    exact .of_eq rfl
  | retransmit =>
    rw [Turn.node_retransmit]
    exact .of_eq rfl
  | activate =>
    rw [Turn.node_activate]
    exact .of_eq rfl
  | _ => exact .of_eq rfl

lemma Moves.keepsAhead (h : Moves n v t t') (hv : v.call ≠ .timer .stop) :
    KeepsAhead t.now t.node.schedule t'.node.schedule := by
  refine (h.induct (P := fun u =>
    u.now = t.now ∧ KeepsAhead t.now t.node.schedule u.node.schedule) ⟨rfl, .of_eq rfl⟩ ?_).2
  rintro u u' ⟨hn, hu⟩ m
  exact ⟨m.alike.now.trans hn, hu.trans (hn ▸ m.keepsAhead hv)⟩

/-! ### The end of clustering -/

namespace Turn

lemma schedule_unclustered (t : Turn) : t.unclustered.node.schedule = t.node.schedule := by
  rw [node_unclustered]

lemma now_unclustered (t : Turn) : t.unclustered.now = t.now := by
  simp only [unclustered, now_disarm]
  rfl

lemma schedule_sendMaps (map : DensityMap) (peers : List NodeId) (acc : Turn × Duration) :
    (peers.foldl (sendMap map) acc).1.node.schedule = acc.1.node.schedule := by
  induction peers generalizing acc with
  | nil => rfl
  | cons peer peers ih => exact ih _

/-- A head does not touch its schedule when it sends its maps. -/
lemma schedule_exchangeMaps (t : Turn) : t.exchangeMaps.node.schedule = t.node.schedule := by
  simp only [exchangeMaps]
  exact schedule_sendMaps _ _ _

/-- At the end of clustering a starter that stands alone starts by itself. -/
lemma endClustering_of_alone (ha : t.node.record.isStandalone ∧ t.node.record.isStarter) :
    t.endClustering = t.unclustered.startAlone := by
  have hrec : t.unclustered.node.record = t.node.record := by rw [node_unclustered]
  have hd : t.unclustered.node.record.degree = .standalone := by
    rw [hrec]
    exact beq_iff_eq.1 ha.1
  have hst : t.unclustered.node.record.isStarter := hrec ▸ ha.2
  simp only [endClustering]
  split
  · rename_i hh
    exact Degree.noConfusion (hd.symm.trans hh)
  · rename_i hm
    exact Degree.noConfusion (hd.symm.trans hm)
  · exact if_pos hst

/-- Nobody else touches its schedule at the end of clustering. -/
lemma schedule_endClustering_of_not_alone
    (ha : ¬ (t.node.record.isStandalone ∧ t.node.record.isStarter)) :
    t.endClustering.node.schedule = t.node.schedule := by
  have hrec : t.unclustered.node.record = t.node.record := by rw [node_unclustered]
  simp only [endClustering]
  split
  · exact (schedule_exchangeMaps _).trans t.schedule_unclustered
  · exact t.schedule_unclustered
  · rename_i hd
    split
    · rename_i hst
      have hd : t.unclustered.node.record.degree = .standalone := hd
      have hst : t.unclustered.node.record.isStarter := hst
      rw [hrec] at hd hst
      exact absurd ⟨beq_iff_eq.2 hd, hst⟩ ha
    · exact t.schedule_unclustered

/-- A starter on its own starts with its cluster, and offers it the start after the lead time. -/
lemma start_startAlone (t : Turn) : t.startAlone.node.schedule.start =
    (t.node.schedule.relaxFirstStart (t.now + t.node.settings.startLead) t.node.id
      t.now).1.startWithCluster.1.start := by
  simp only [startAlone]
  rw [schedule_scheduleActivation]
  rfl

end Turn

/-- What the end of clustering makes of the start of a starter that stands alone: it stays ahead
unless the start of the cluster is over. -/
lemma Schedule.keepsAhead_startAlone_iff (s : Schedule) (candidate now : Timestamp)
    (node : NodeId) :
    KeepsAhead now s (s.relaxFirstStart candidate node now).1.startWithCluster.1 ↔
      ¬ (s.firstStart ≤ now ∧ s.firstStart < s.start) := by
  by_cases hover : s.firstStart ≤ now
  · have hc : ¬ (now < candidate ∧ candidate < s.firstStart) := by
      rintro ⟨hnow, hlt⟩
      exact Timestamp.not_lt.2 hover (Timestamp.lt_of_lt_of_le hnow (Timestamp.le_of_lt hlt))
    simp only [relaxFirstStart, if_neg hc, startWithCluster]
    by_cases hlt : s.firstStart < s.start
    · rw [if_pos hlt]
      refine iff_of_false ?_ (not_not_intro ⟨hover, hlt⟩)
      intro hk
      have hne : s.firstStart ≠ s.start := by
        intro he
        exact Timestamp.not_lt.2 (Timestamp.le_refl _) (he ▸ hlt)
      exact Timestamp.not_lt.2 hover (hk hne)
    · rw [if_neg hlt]
      exact iff_of_true (.of_eq rfl) fun h => hlt h.2
  · have hahead : now < s.firstStart := Timestamp.not_le.1 hover
    refine iff_of_true ?_ fun h => hover h.1
    have hr : now < (s.relaxFirstStart candidate node now).1.firstStart ∧
        (s.relaxFirstStart candidate node now).1.start = s.start := by
      simp only [relaxFirstStart]
      split
      · rename_i h
        exact ⟨h.1, rfl⟩
      · exact ⟨hahead, rfl⟩
    exact (KeepsAhead.of_eq hr.2).trans (.startWithCluster hr.1)

namespace Node

lemma schedule_visit_stop (n : Node) (hv : v.call = .timer .stop) :
    (n.visit v).node.schedule =
      (Turn.start n v.now v.position v.nextHandle).locate.endClustering.node.schedule := by
  simp only [Node.visit]
  rw [hv]
  simp only [Turn.handle, Turn.onTimer, Turn.fire]
  rw [Turn.node_noteRole]

/-- When clustering ends for a starter that stands alone, it keeps its start ahead unless the start
of its cluster is over. -/
lemma keepsAhead_visit_stop_iff (n : Node) (hv : v.call = .timer .stop)
    (ha : n.record.isStandalone ∧ n.record.isStarter) :
    KeepsAhead v.now n.schedule (n.visit v).node.schedule ↔
      ¬ (n.schedule.firstStart ≤ v.now ∧ n.schedule.firstStart < n.schedule.start) := by
  let t : Turn := (Turn.start n v.now v.position v.nextHandle).locate
  have hstart : (n.visit v).node.schedule.start =
      (n.schedule.relaxFirstStart (v.now + n.settings.startLead) n.id
        v.now).1.startWithCluster.1.start := by
    rw [n.schedule_visit_stop hv, Turn.endClustering_of_alone (t := t) ha, Turn.start_startAlone,
      t.node_unclustered, t.now_unclustered]
    rfl
  simp only [KeepsAhead, hstart]
  exact Schedule.keepsAhead_startAlone_iff _ _ _ _

/-- A visit leaves the start of a node ahead, or as it is, unless it revives the start of the
cluster. -/
lemma keepsAhead_visit_iff (n : Node) (v : Visit) :
    KeepsAhead v.now n.schedule (n.visit v).node.schedule ↔ ¬ n.Revives v := by
  by_cases hv : v.call = .timer .stop
  · by_cases ha : n.record.isStandalone ∧ n.record.isStarter
    · apply (n.keepsAhead_visit_stop_iff hv ha).trans
      apply not_congr
      exact ⟨fun h => ⟨hv, ha.1, ha.2, h⟩, fun h => h.2.2.2⟩
    · refine iff_of_true ?_ fun h => ha ⟨h.2.1, h.2.2.1⟩
      apply KeepsAhead.of_eq
      rw [n.schedule_visit_stop hv]
      exact congrArg Schedule.start (Turn.schedule_endClustering_of_not_alone ha)
  · exact iff_of_true ((moves_visit n v).keepsAhead hv) fun h => hv h.1

/-- In every run, a visit that changes the own start of a node moves it to a time ahead, unless it
lets a starter that stands alone take over a start of its cluster that is over, when clustering
ends. Then, and only then, the node starts at a time that is not ahead. -/
theorem start_moves_ahead_iff (n : Node) (vs : List Visit) (v : Visit) :
    ((n.after (vs ++ [v])).schedule.start ≠ (n.after vs).schedule.start →
        v.now < (n.after (vs ++ [v])).schedule.start) ↔
      ¬ (n.after vs).Revives v := by
  rw [after_append]
  exact (n.after vs).keepsAhead_visit_iff v

end Node

/-! ### A start that is over -/

namespace Bench

open Visit (rings hears)

/-- Settings under which clustering ends soon. -/
def briefSettings : Settings :=
  { Settings.standard with clusteringStop := some (.ofMillis 1700) }

/-- A node at a distance of ten meters. -/
def nearby (id : NodeId) : Record := Record.lone id ⟨⟨0x4024000000000000⟩, .zero, .zero⟩ .start

/-- The visits of a starter that leads a cluster, learns of a wavefront that is to start soon at its
only member, loses the member, joins another cluster and loses that as well, all before clustering
ends. -/
def revivingVisits : List Visit :=
  [⟨.start, Vec3.zero, 1, .start⟩, rings 0 3 .start, rings 100 5 .upkeep, rings 400 6 .upkeep,
    rings 700 7 .upkeep, rings 1000 8 .send, rings 1000 9 .upkeep, rings 1100 10 .electionCheck,
    rings 1200 11 .send,
    hears 1250 12 ⟨2⟩ (.clusterInfo 1 ((nearby ⟨2⟩).join ⟨5⟩)),
    hears 1250 12 ⟨40⟩ (.interCluster 1 ⟨40⟩ .zero ⟨⟨0x4024000000000000⟩, .zero⟩
      ⟨⟨0x4059000000000000⟩, .zero⟩ (.ofMillis 1250)),
    hears 1250 13 ⟨2⟩ (.clusterInfo 2 (nearby ⟨2⟩)),
    rings 1300 13 .upkeep, rings 1300 14 .send, rings 1350 15 .intraBroadcast,
    hears 1350 16 ⟨9⟩ (.clusterInfo 1 (nearby ⟨9⟩).becomeHead),
    hears 1350 16 ⟨9⟩ (.clusterInfo 2 (nearby ⟨9⟩)),
    rings 1600 16 .upkeep, rings 1600 17 .send, rings 1650 18 .intraBroadcast]

/-- The end of clustering. -/
def clusteringEnds : Visit := rings 1700 18 .stop

/-- At a bench that behaves well, the end of clustering lets a starter take over a start that is
over. -/
theorem past_start_is_revived : ∃ b₀ b b' : Bench,
    b₀.node.IsNew ∧ b₀.alarms = [] ∧ b₀.run? revivingVisits = some b ∧
      b.attend? clusteringEnds = some b' ∧ b'.node.schedule.start ≠ b.node.schedule.start ∧
        b'.node.schedule.start < b'.now := by
  have hrun : ((Node.create ⟨5⟩ briefSettings true (some ⟨⟨0x4024000000000000⟩, .zero⟩)
      ).toOption.any fun n =>
      ((Bench.setUp n Vec3.zero).run? revivingVisits).any fun b =>
        (b.attend? clusteringEnds).any fun b' =>
          b'.node.schedule.start ≠ b.node.schedule.start ∧
            b'.node.schedule.start < b'.now) = true := by decide +kernel
  simp only [Option.any_eq_true, decide_eq_true_eq] at hrun
  obtain ⟨n, hn, b, hb, b', hb', hne, hlt⟩ := hrun
  exact ⟨.setUp n Vec3.zero, b, b', .of_toOption hn, rfl, hb, hb', hne, hlt⟩

end Bench

end ClusterWave
