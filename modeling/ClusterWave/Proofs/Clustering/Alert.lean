import ClusterWave.Proofs.Bench.Keep
import ClusterWave.Proofs.Node.Stride

/-!
# Clustering never stalls

As long as clustering goes on, the timer for the next round of upkeep is armed; and in a status in
which clusters are formed, so is that for the next transmission, or else that for the check of the
election, after which there is one. Whoever enters such a status queues a transmission, and a
transmission either queues the next one or leaves it to the election.
-/

namespace ClusterWave

namespace Node

/-- While clustering goes on, there will be another round of upkeep. -/
def Tended (n : Node) : Prop := n.clustering → n.slots.upkeep.isSome

/-- While a cluster is being formed, there will be another transmission or an election. -/
def Poised (n : Node) : Prop :=
  n.clustering → n.status.isClustering →
    n.slots.send.isSome ∨ n.status = .init ∧ n.slots.election.isSome

/-- What keeps the forming of clusters going. -/
structure Alert (n : Node) : Prop where
  tended : n.Tended
  poised : n.Poised

lemma Alert.of_idle {n : Node} (h : n.clustering = false) : n.Alert := by
  constructor <;> intro hc
  · exact absurd (h ▸ hc) Bool.false_ne_true
  · exact absurd (h ▸ hc) Bool.false_ne_true

lemma Poised.of_later {n : Node} (h : n.status.isClustering = false) : n.Poised := by
  intro _ hs
  exact absurd (h ▸ hs) Bool.false_ne_true

end Node

namespace Turn

variable {t t' : Turn}

/-! ### Steps -/

lemma Beside.tended (hb : t.Beside t') (h : t.node.Tended) : t'.node.Tended := by
  have hu : t'.node.slots.upkeep = t.node.slots.upkeep := congrArg Stance.upkeep hb.stance
  rw [Node.Tended, hb.clustering, hu]
  exact h

lemma Beside.poised (hb : t.Beside t') (h : t.node.Poised) : t'.node.Poised := by
  have hs : t'.node.slots.send = t.node.slots.send := congrArg Stance.send hb.stance
  have he : t'.node.slots.election = t.node.slots.election := congrArg Stance.election hb.stance
  rcases hb.status with hst | hst
  · rw [Node.Poised, hb.clustering, hs, he, hst]
    exact h
  · exact .of_later hst

lemma tended_disarm_election (h : t.node.Tended) : (t.disarm .election).node.Tended := by
  rw [node_disarm]
  exact h

lemma isSome_send_queueSend (t : Turn) (d : Duration) :
    (t.queueSend d).node.slots.send.isSome := by
  simp only [queueSend]
  split
  · rfl
  · rename_i h
    exact Option.isSome_iff_exists.2 ⟨_, h⟩

lemma poised_queueSend (t : Turn) (d : Duration) : (t.queueSend d).node.Poised := by
  intro _ _
  exact .inl (isSome_send_queueSend t d)

/-- A node that queues a transmission is alert, if only upkeep goes on. -/
lemma alert_queueSend (h : t.node.Tended) (d : Duration) : (t.queueSend d).node.Alert := by
  constructor
  · rw [node_queueSend]
    exact h
  · exact poised_queueSend t d

/-! ### Strides -/

lemma alert_beginClustering (t : Turn) : t.beginClustering.node.Alert := by
  simp only [beginClustering]
  rw [node_arm, node_disarm]
  constructor
  · intro _
    rfl
  · intro _ _
    exact .inl (isSome_send_queueSend _ _)

lemma alert_formCluster (h : t.node.Tended) : t.formCluster.node.Alert :=
  alert_queueSend (t := (t.disarm .election).setStatus .formation) (tended_disarm_election h) _

lemma alert_join (h : t.node.Tended) (head : NodeId) : (t.join head).node.Alert := by
  have hd := tended_disarm_election h
  simp only [join]
  apply alert_queueSend
  exact hd

/-- A greeting leaves the next transmission to the election. -/
lemma alert_sendGreeting (h : t.node.Tended) (hs : t.node.status = .init) :
    t.sendGreeting.node.Alert := by
  simp only [sendGreeting]
  rw [node_arm, node_disarm]
  constructor
  · exact h
  · intro _ _
    exact .inr ⟨hs, rfl⟩

lemma alert_clusterFormed (h : t.node.Tended) (d : Duration) : (t.clusterFormed d).node.Alert := by
  simp only [clusterFormed]
  apply alert_queueSend
  exact h

lemma alert_sendCandidacy (h : t.node.Tended) : t.sendCandidacy.node.Alert := by
  simp only [sendCandidacy]
  apply alert_clusterFormed
  exact h

lemma alert_sendFormation (h : t.node.Tended) : t.sendFormation.node.Alert := by
  simp only [sendFormation]
  apply alert_clusterFormed
  exact h

lemma alert_sendUpdate (h : t.node.Tended) : t.sendUpdate.node.Alert := by
  simp only [sendUpdate]
  apply alert_queueSend
  exact ((Beside.updateMessages t).trans (.packets _ _)).tended h

lemma alert_transmit (h : t.node.Tended) : t.transmit.node.Alert := by
  simp only [transmit]
  split
  · rename_i hs
    exact alert_sendGreeting h hs
  · exact alert_sendCandidacy h
  · exact alert_sendFormation h
  · split
    · exact alert_sendUpdate h
    · rename_i hc
      exact .of_idle (Bool.not_eq_true _ ▸ hc)
  · rename_i hi he hf hu
    refine ⟨h, .of_later ?_⟩
    cases hs : t.node.status with
    | init => exact absurd hs hi
    | headElection => exact absurd hs he
    | formation => exact absurd hs hf
    | update => exact absurd hs hu
    | _ => rfl

/-- When the election is checked, only a node that has greeted may wait for it. -/
lemma alert_checkElection (h : t.node.Tended)
    (hp : t.node.clustering → t.node.status.isClustering → t.node.status ≠ .init →
      t.node.slots.send.isSome) : t.checkElection.node.Alert := by
  simp only [checkElection]
  split
  · rename_i hs
    refine ⟨h, ?_⟩
    intro hc hst
    exact .inl (hp hc hst hs)
  · split
    · exact alert_queueSend (t := t.setStatus .update) h _
    · split
      · exact alert_queueSend (t := t.setStatus .headElection) h _
      · exact alert_queueSend h _

lemma poised_afterUpkeep (h : t.node.Poised) (u : Upkeep) : (t.afterUpkeep u).node.Poised := by
  simp only [afterUpkeep]
  split
  · exact poised_queueSend _ _
  · split
    · exact poised_queueSend _ _
    · exact h

lemma alert_arm_upkeep (h : t.node.Poised) (d : Duration) :
    (t.arm .upkeep d .upkeep).node.Alert := by
  constructor
  · intro _
    rfl
  · exact h

lemma alert_upkeep (h : t.node.Poised) : t.upkeep.node.Alert := by
  simp only [upkeep]
  split
  · apply alert_arm_upkeep
    apply poised_afterUpkeep
    exact h
  · rename_i hc
    exact .of_idle (Bool.not_eq_true _ ▸ hc)

lemma alert_settle (h : t.node.Alert) : t.settle.node.Alert := by
  simp only [settle]
  split
  · exact ⟨h.tended, h.poised⟩
  · apply alert_queueSend
    exact h.tended

lemma alert_merge (h : t.node.Alert) : t.merge.node.Alert := by
  simp only [merge]
  split
  · exact h
  · split
    · exact ⟨h.tended, h.poised⟩
    · exact h

end Turn

lemma Stride.alert {v : Visit} {t t' : Turn} (s : Stride v t t') (h : t.node.Alert) :
    t'.node.Alert := by
  cases s with
  | beside hb => exact ⟨hb.tended h.tended, hb.poised h.poised⟩
  | beginClustering => exact Turn.alert_beginClustering t
  | endClustering =>
    obtain ⟨u, hu, hb⟩ := t.exists_beside_endClustering
    have hc : u.node.clustering = false := by rw [hu]
    exact .of_idle (hb.clustering.trans hc)
  | formCluster => exact Turn.alert_formCluster h.tended
  | transmit => exact Turn.alert_transmit (t := t.setSlot .send none) h.tended
  | checkElection =>
    apply Turn.alert_checkElection (t := t.setSlot .election none) h.tended
    intro hc hst hi
    rcases h.poised hc hst with hsend | ⟨hinit, -⟩
    · exact hsend
    · exact absurd hinit hi
  | upkeep => exact Turn.alert_upkeep (t := t.setSlot .upkeep none) h.poised
  | hear | enrol | note => exact ⟨h.tended, h.poised⟩
  | join => exact Turn.alert_join h.tended _
  | settle => exact Turn.alert_settle h
  | merge => exact Turn.alert_merge h

lemma Node.Alert.visit {n : Node} (h : n.Alert) (v : Visit) : (n.visit v).node.Alert :=
  (strides_visit n v).induct (P := fun t => t.node.Alert) h fun _ _ h s => s.alert h

namespace Bench

variable {b₀ b : Bench}

lemma Reaches.alert (hn : b₀.node.IsNew) (h : b₀.Reaches b) : b.node.Alert := by
  induction h with
  | refl => exact .of_idle hn.waiting.2.1
  | step _ hs ih =>
    rw [hs.node]
    exact ih.visit _

/-- At a bench that serves a new node, a round of upkeep is pending as long as clustering goes on;
and while a cluster is being formed, a transmission is pending, or the node has just greeted and the
check of its election is. -/
theorem clustering_never_stalls (hn : b₀.node.IsNew) (ha : b₀.alarms = []) (h : b₀.Reaches b)
    (hc : b.node.clustering) :
    (∃ a ∈ b.alarms, a.timer = .upkeep) ∧
      (b.node.status.isClustering →
        (∃ a ∈ b.alarms, a.timer = .send) ∨
          b.node.status = .init ∧ ∃ a ∈ b.alarms, a.timer = .electionCheck) := by
  have hk := h.keeps hn ha
  have halert := h.alert hn
  constructor
  · exact hk.exists_alarm .upkeep (halert.tended hc) rfl nofun
  · intro hst
    rcases halert.poised hc hst with hs | ⟨hi, he⟩
    · exact .inl (hk.exists_alarm .send hs rfl nofun)
    · exact .inr ⟨hi, hk.exists_alarm .election he rfl nofun⟩

/-- A node on its own has greeted after a second and waits for the check of its election. -/
theorem lone_greeter_awaits_election : ∃ b₀ b : Bench,
    b₀.node.IsNew ∧ b₀.alarms = [] ∧ b₀.Reaches b ∧ b.node.clustering ∧
      b.node.status.isClustering ∧ (¬ ∃ a ∈ b.alarms, a.timer = .send) ∧
      (∃ a ∈ b.alarms, a.timer = .upkeep) ∧
      (b.node.status.isClustering →
        (∃ a ∈ b.alarms, a.timer = .send) ∨
          b.node.status = .init ∧ ∃ a ∈ b.alarms, a.timer = .electionCheck) := by
  let vs : List Visit :=
    [⟨.start, Vec3.zero, 1, .start⟩, ⟨.start, Vec3.zero, 2, .timer .start⟩,
      ⟨.ofMillis 100, Vec3.zero, 4, .timer .upkeep⟩, ⟨.ofMillis 400, Vec3.zero, 5, .timer .upkeep⟩,
      ⟨.ofMillis 700, Vec3.zero, 6, .timer .upkeep⟩, ⟨.ofSecs 1, Vec3.zero, 7, .timer .send⟩]
  have hrun : ((Node.create ⟨1⟩ Settings.standard false none).toOption.any fun n =>
      ((Bench.setUp n Vec3.zero).run? vs).any fun b =>
        b.node.clustering && b.node.status.isClustering &&
          !b.alarms.any fun a => a.timer = .send) = true := by decide +kernel
  simp only [Option.any_eq_true, Bool.and_eq_true, Bool.not_eq_true', List.any_eq_false,
    decide_eq_true_eq] at hrun
  obtain ⟨n, hn, b, hb, ⟨hc, hst⟩, hsend⟩ := hrun
  have hnew : n.IsNew := .of_toOption hn
  have hreach : (Bench.setUp n Vec3.zero).Reaches b := .of_run? hb
  refine ⟨.setUp n Vec3.zero, b, hnew, rfl, hreach, hc, hst, ?_,
    clustering_never_stalls hnew rfl hreach hc⟩
  rintro ⟨a, ha, hat⟩
  exact hsend a ha hat

end Bench

end ClusterWave
