import ClusterWave.Proofs.Node.Turn

/-!
# Launching a wavefront

What a node makes of itself when it sends a wavefront off. It plans the wave and makes its offers in
place of those that it has made before, sets the direction and gets ready to announce the schedule;
and it starts with its cluster if the wave leaves from the node itself.
-/

namespace ClusterWave

namespace Turn

variable {t : Turn} {origin : NodeId} {source : Vec2}

/-! ### Offers and announcements -/

/-- Offers take up messages, under new numbers, and leave the rest of the node as it is. -/
lemma node_offers (source : Vec2) (fs : List Forward) (acc : Turn × Duration) :
    (fs.foldl (offer source) acc).1.node =
      { acc.1.node with
        reliable := (fs.foldl (offer source) acc).1.node.reliable
        seq := (fs.foldl (offer source) acc).1.node.seq } := by
  induction fs generalizing acc with
  | nil => rfl
  | cons f fs ih =>
    rw [List.foldl_cons, ih]
    rfl

lemma node_announceLater (t : Turn) :
    t.announceLater.node = { t.node with slots := t.announceLater.node.slots } := by
  simp only [announceLater]
  split
  · rfl
  · rw [node_arm, node_disarm]

/-! ### Plans -/

/-- The plan for a wave that starts at a place. -/
def plan? (t : Turn) (source incoming : Vec2) : Option Plan :=
  Plan.make? source incoming t.targets t.node.settings.candidateRadius t.node.settings.sectorAngle

/-- The turn in which the offers of a plan have been made. -/
def planned (t : Turn) (source : Vec2) (plan : Plan) : Turn :=
  ((plan.forwards.foldl (offer source) (t.cancelKind .interCluster, t.node.settings.backoff)
    ).1.setDirection (some plan.direction)).announceLater

lemma node_planned (t : Turn) (source : Vec2) (plan : Plan) :
    (t.planned source plan).node =
      { t.node with
        schedule := { t.node.schedule with direction := some plan.direction }
        reliable := (t.planned source plan).node.reliable
        slots := (t.planned source plan).node.slots
        seq := (t.planned source plan).node.seq } := by
  have ho := node_offers source plan.forwards (t.cancelKind .interCluster, t.node.settings.backoff)
  rw [planned, node_announceLater, setDirection, setSchedule, edit, ho]
  rfl

lemma launch_of_none (h : t.origin? origin = none) (incoming : Vec2) :
    t.launch origin incoming = t := by
  simp only [launch, h]

lemma launch_of_origin (h : t.origin? origin = some source) (incoming : Vec2) :
    t.launch origin incoming =
      match t.plan? source incoming with
      | none => t.cancelKind .interCluster
      | some plan =>
        if origin = (t.planned source plan).node.id ∧ (t.planned source plan).node.mayStart then
          (t.planned source plan).startFirst
        else t.planned source plan := by
  simp only [launch, h]
  rfl

/-- What holds before a wave is launched holds afterwards, if it does not depend on what is done. -/
lemma launch_induct {P : Turn → Prop} (t : Turn) (origin : NodeId) (incoming : Vec2) (h : P t)
    (hcancel : P (t.cancelKind .interCluster)) (hplan : ∀ source plan, P (t.planned source plan))
    (hstart : ∀ source plan, P (t.planned source plan) → P (t.planned source plan).startFirst) :
    P (t.launch origin incoming) := by
  cases ho : t.origin? origin with
  | none =>
    rw [launch_of_none ho]
    exact h
  | some source =>
    rw [launch_of_origin ho]
    cases t.plan? source incoming with
    | none => exact hcancel
    | some plan =>
      dsimp only
      split
      · exact hstart source plan (hplan source plan)
      · exact hplan source plan

end Turn

end ClusterWave
