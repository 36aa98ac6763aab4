import ClusterWave.Proofs.Simulation.Basic

/-!
# What goes into a timeline

A call adds the changes of the node to the timeline, and after them the packets that are dropped
when its messages are routed. All of this bears the time of the call.
-/

namespace ClusterWave

/-- Whether a packet was dropped. -/
def Occurrence.isDrop : Occurrence → Bool
  | .dropped _ _ _ _ _ => true
  | _ => false

/-- What is taken down when a node has changed. -/
def changes (id : NodeId) (position : Vec3) (now : Timestamp) (before after : Node) :
    List Occurrence :=
  (if before.status = after.status then []
    else [.statusChanged id before.status after.status now]) ++
  (if before.record.role = after.record.role then []
    else [.roleChanged id after.record.degree after.record.cluster now]) ++
  (if before.counters.activations < after.counters.activations then [.activated id position now]
    else [])

lemma time_of_mem_changes {id : NodeId} {position : Vec3} {now : Timestamp} {before after : Node}
    {o : Occurrence} (h : o ∈ changes id position now before after) : o.time = now := by
  simp only [changes, List.mem_append] at h
  rcases h with (h | h) | h
  · split at h
    · cases h
    · rw [List.mem_singleton.1 h]
      rfl
  · split at h
    · cases h
    · rw [List.mem_singleton.1 h]
      rfl
  · split at h
    · rw [List.mem_singleton.1 h]
      rfl
    · cases h

namespace Simulation

variable {s s' s'' : Simulation}

lemma toList_recordChanges (s : Simulation) (id : NodeId) (position : Vec3) (before after : Node) :
    (s.recordChanges id position before after).timeline.toList =
      s.timeline.toList ++ changes id position s.now before after := by
  simp only [recordChanges, changes]
  split <;> split <;> split <;> simp [record]

/-- Time stands still, and nothing but drops is added to the timeline. -/
structure Drops (s s' : Simulation) : Prop where
  now : s'.now = s.now
  timeline : ∃ os, s'.timeline.toList = s.timeline.toList ++ os ∧
    ∀ o ∈ os, o.isDrop ∧ o.time = s.now

namespace Drops

lemma of_eq (hn : s'.now = s.now) (ht : s'.timeline = s.timeline) : s.Drops s' :=
  ⟨hn, [], by rw [ht, List.append_nil], List.forall_mem_nil _⟩

lemma trans (h : s.Drops s') (h' : s'.Drops s'') : s.Drops s'' := by
  obtain ⟨os, ht, hos⟩ := h.timeline
  obtain ⟨os', ht', hos'⟩ := h'.timeline
  refine ⟨h'.now.trans h.now, os ++ os', ?_, ?_⟩
  · rw [ht', ht, List.append_assoc]
  · intro o ho
    rcases List.mem_append.1 ho with ho | ho
    · exact hos o ho
    · rw [← h.now]
      exact hos' o ho

lemma foldl {α : Type} {f : Simulation → α → Simulation}
    (h : ∀ (s : Simulation) a, s.Drops (f s a)) (as : List α) (s : Simulation) :
    s.Drops (as.foldl f s) :=
  List.foldlRecOn (motive := fun s' => s.Drops s') _ _ (of_eq rfl rfl)
    fun _ hs a _ => hs.trans (h _ a)

lemma drop (s : Simulation) (sender receiver : NodeId) (kinds : List MessageKind)
    (reason : DropReason) : s.Drops (s.drop sender receiver kinds reason) := by
  refine ⟨rfl, [.dropped sender receiver kinds reason s.now], Timeline.toList_push _ _, ?_⟩
  intro o ho
  rw [List.mem_singleton.1 ho]
  exact ⟨rfl, rfl⟩

lemma sendTo (sender : NodeId) (kinds : List MessageKind) (data : List UInt8) (s : Simulation)
    (receiver : NodeId × Option Binary64) :
    s.Drops (s.sendTo sender kinds data receiver) := by
  simp only [Simulation.sendTo]
  split
  · exact of_eq rfl rfl
  · refine Drops.trans ?_ (drop _ _ _ _ _)
    exact of_eq rfl rfl
  · exact of_eq rfl rfl

lemma route (id : NodeId) (origin : Vec3) (s : Simulation) (e : Effect) :
    s.Drops (s.route id origin e) := by
  cases e with
  | broadcast packet => exact foldl (sendTo id packet.kinds (encode packet)) _ s
  | send peer packet =>
    simp only [Simulation.route]
    split
    · exact sendTo _ _ _ _ _
    · exact drop _ _ _ _ _
  | schedule => exact of_eq rfl rfl
  | cancel => exact of_eq rfl rfl

end Drops

/-- The changes of the node come first, and then the drops. -/
lemma timeline_call {id : NodeId} {n : Node} {position : Vec3} (c : Call)
    (hp : s.directory.resolve? id s.now = some position) (hn : s.nodes.get? id = some n) :
    ∃ drops, (s.call id c).timeline.toList = s.timeline.toList ++
        changes id position s.now n
          (n.visit ⟨s.now, position, s.agenda.nextHandle, c⟩).node ++ drops ∧
      ∀ o ∈ drops, o.isDrop ∧ o.time = s.now := by
  have hroute (es : List Effect) (s : Simulation) : s.Drops (es.foldl (route id position) s) :=
    Drops.foldl (Drops.route id position) es s
  simp only [call, hp, hn]
  obtain ⟨os, ht, hos⟩ := (hroute _ _).timeline
  refine ⟨os, ?_, ?_⟩
  · rw [ht, toList_recordChanges]
    rfl
  · intro o ho
    obtain ⟨hd, htime⟩ := hos o ho
    rw [recordChanges_eq] at htime
    exact ⟨hd, htime⟩

end Simulation

end ClusterWave
