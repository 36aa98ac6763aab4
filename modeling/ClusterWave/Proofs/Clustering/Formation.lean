import ClusterWave.Proofs.Bench.Serve
import ClusterWave.Proofs.Node.Post
import ClusterWave.Proofs.Node.Stride
import ClusterWave.Proofs.Wavefront.Launch
import ClusterWave.Proofs.Wavefront.SingleShot

/-!
# Requests for a cluster

A node that is asked to form a cluster is to lead one with its next transmission. But the request is
kept nowhere but in the status, and the transmission may have been queued for later. Whatever
changes the status in between overrides the request, which is lost then: the transmission declares
no cluster. `Node.overrides` says when a visit does so. Among them are the rounds of upkeep in which
a member loses its head or a node on its own becomes one, and the packets that let the node start
earlier.
-/

namespace ClusterWave

/-! ### Overridden requests -/

namespace Node

/-- What a round of upkeep finds in a visit. -/
def inspect (n : Node) (v : Visit) : Upkeep :=
  (n.registry.maintain { n.record with position := v.position, timestamp := v.now } v.now
    n.settings.timeout).2.2

/-- Whether a visit takes a node away from the formation of a cluster before its transmission. -/
def overrides (n : Node) (v : Visit) : Bool :=
  match v.call with
  | .packet _ _ => (n.visit v).node.schedule.start != n.schedule.start
  | .timer .upkeep => n.clustering && ((n.inspect v).becameHead || (n.inspect v).lostHead)
  | .timer .start | .timer .decide | .timer .activate => true
  | .timer .complete | .timer .dutyActive | .timer .dutyInactive => true
  | _ => false

/-- Whether one of some visits does so. -/
def overridden (n : Node) : List Visit → Bool
  | [] => false
  | v :: vs => n.overrides v || overridden (n.visit v).node vs

end Node

/-- Whether a visit may come between a request and the next transmission, and clustering goes on. -/
def Visit.IsBetween (v : Visit) : Prop :=
  v.call ≠ .formCluster ∧ v.call ≠ .timer .send ∧ v.call ≠ .timer .stop

/-- Whether a turn leaves a head that has declared its cluster. -/
structure Turn.FormsCluster (t : Turn) : Prop where
  head : t.node.record.isHead
  declared : ∃ seq r, Effect.broadcast (Packet.single (.formCluster seq r)) ∈ t.outbox.effects

/-- Whether an effect declares a cluster formed. -/
def Effect.Declares (e : Effect) : Prop :=
  ∃ p seq r, e = .broadcast p ∧ Message.formCluster seq r ∈ p.messages

variable {n : Node} {v : Visit} {t t' : Turn} {sender : NodeId}

/-! ### Nodes that do not form a cluster -/

/-- Whether a node is not about to form a cluster. -/
def Node.Unasked (n : Node) : Prop := n.status ≠ .formation

namespace Turn

lemma status_queueSend (t : Turn) (d : Duration) : (t.queueSend d).node.status = t.node.status := by
  rw [node_queueSend]

/-- Another status, and a transmission for it. -/
lemma unasked_setStatus_queueSend (t : Turn) {s : Status} (hs : s ≠ .formation) (d : Duration) :
    ((t.setStatus s).queueSend d).node.Unasked := by
  rw [Node.Unasked, status_queueSend]
  exact hs

lemma unasked_queueSend (h : t.node.Unasked) (d : Duration) : (t.queueSend d).node.Unasked := by
  rw [Node.Unasked, status_queueSend]
  exact h

lemma unasked_settle (h : t.node.Unasked) : t.settle.node.Unasked := by
  simp only [settle]
  split
  · exact h
  · exact unasked_setStatus_queueSend _ (by decide) _

lemma unasked_merge (h : t.node.Unasked) : t.merge.node.Unasked := by
  simp only [merge]
  split
  · exact h
  · split
    · exact h
    · exact h

lemma Beside.unasked (hb : t.Beside t') (h : t.node.Unasked) : t'.node.Unasked := by
  intro hs
  rcases hb.status with he | hn
  · exact h (he.symm.trans hs)
  · rw [hs] at hn
    cases hn

lemma unasked_beginClustering (t : Turn) : t.beginClustering.node.Unasked := by
  simp only [beginClustering]
  rw [node_arm, node_disarm]
  exact unasked_queueSend (t := t.edit fun n => { n with clustering := true, status := .init })
    (fun hs => Status.noConfusion hs) _

lemma unasked_endClustering (h : t.node.Unasked) : t.endClustering.node.Unasked := by
  obtain ⟨u, hu, hb⟩ := t.exists_beside_endClustering
  apply hb.unasked
  rw [hu]
  exact h

lemma unasked_transmit (h : t.node.Unasked) : t.transmit.node.Unasked := by
  simp only [transmit]
  split
  · simp only [sendGreeting]
    rw [node_arm, node_disarm]
    exact h
  · exact unasked_setStatus_queueSend _ (by decide) _
  · exact unasked_setStatus_queueSend _ (by decide) _
  · split
    · exact unasked_queueSend (((Beside.updateMessages t).trans (.packets _ _)).unasked h) _
    · exact h
  · exact h

lemma unasked_checkElection (h : t.node.Unasked) : t.checkElection.node.Unasked := by
  simp only [checkElection]
  split
  · exact h
  · split
    · exact unasked_setStatus_queueSend _ (by decide) _
    · split
      · exact unasked_setStatus_queueSend _ (by decide) _
      · exact unasked_queueSend h _

lemma unasked_upkeep (h : t.node.Unasked) : t.upkeep.node.Unasked := by
  simp only [upkeep, afterUpkeep]
  split
  · split
    · exact unasked_setStatus_queueSend _ (by decide) _
    · split
      · exact unasked_setStatus_queueSend _ (by decide) _
      · exact h
  · exact h

end Turn

/-- Only a request lets a node form a cluster. -/
lemma Stride.unasked (s : Stride v t t') (hv : v.call ≠ .formCluster) (h : t.node.Unasked) :
    t'.node.Unasked := by
  cases s with
  | beside hb => exact hb.unasked h
  | beginClustering => exact Turn.unasked_beginClustering t
  | endClustering => exact Turn.unasked_endClustering h
  | formCluster hc => exact absurd hc hv
  | transmit => exact Turn.unasked_transmit (t := t.setSlot .send none) h
  | checkElection => exact Turn.unasked_checkElection (t := t.setSlot .election none) h
  | upkeep => exact Turn.unasked_upkeep (t := t.setSlot .upkeep none) h
  | hear | enrol | note => exact h
  | join => exact Turn.unasked_setStatus_queueSend _ (by decide) _
  | settle => exact Turn.unasked_settle h
  | merge => exact Turn.unasked_merge h

lemma Node.Unasked.visit (h : n.Unasked) (hv : v.call ≠ .formCluster) :
    (n.visit v).node.Unasked :=
  (strides_visit n v).induct (P := fun t => t.node.Unasked) h fun _ _ h s => s.unasked hv h

lemma Node.Unasked.after {vs : List Visit} (h : n.Unasked) (hv : ∀ v ∈ vs, v.call ≠ .formCluster) :
    (n.after vs).Unasked := by
  induction vs generalizing n with
  | nil => exact h
  | cons v vs ih =>
    obtain ⟨hv, hvs⟩ := List.forall_mem_cons.1 hv
    exact ih (h.visit hv) hvs

/-! ### Messages to a node that is to form a cluster -/

/-- What a node is about to do. -/
structure Intent where
  status : Status
  start : Timestamp

def Node.intent (n : Node) : Intent := ⟨n.status, n.schedule.start⟩

/-- Nothing changes, or a node gets ready for an earlier start. -/
def Intent.Advances (i i' : Intent) : Prop := i' = i ∨ i'.status = .ready ∧ i'.start < i.start

lemma Intent.Advances.refl (i : Intent) : i.Advances i := .inl rfl

lemma Intent.advances_ready {i : Intent} (h : i.status = .ready) {start : Timestamp}
    (hle : start ≤ i.start) : i.Advances ⟨.ready, start⟩ := by
  by_cases hlt : start < i.start
  · exact .inr ⟨rfl, hlt⟩
  · rw [← h, Timestamp.le_antisymm hle (Timestamp.not_lt.1 hlt)]
    exact .refl i

namespace Turn

lemma intent_scheduleActivation (t : Turn) :
    t.scheduleActivation.node.intent = ⟨.ready, t.node.schedule.start⟩ := by
  rw [node_scheduleActivation]
  rfl

lemma intent_noteRole (t : Turn) (before : Degree × Option NodeId) :
    (t.noteRole before).node.intent = t.node.intent := by
  rw [node_noteRole]
  rfl

lemma advances_startFirst (t : Turn) : t.node.intent.Advances t.startFirst.node.intent := by
  by_cases h : t.node.schedule.firstStart < t.node.schedule.start
  · rw [startFirst_of_lt h, intent_scheduleActivation]
    exact .inr ⟨rfl, h⟩
  · rw [startFirst_of_not_lt h]
    exact .refl _

lemma advances_launch (t : Turn) (origin : NodeId) (incoming : Vec2) :
    t.node.intent.Advances (t.launch origin incoming).node.intent := by
  have hplanned (source : Vec2) (plan : Plan) :
      (t.planned source plan).node.intent = t.node.intent := by
    rw [node_planned]
    rfl
  refine launch_induct (P := fun u => t.node.intent.Advances u.node.intent) t origin incoming
    (.refl _) (.refl _) (fun source plan => .inl (hplanned source plan)) fun source plan _ => ?_
  rw [← hplanned source plan]
  exact advances_startFirst _

lemma advances_considerOffer (t : Turn) (source destination direction : Vec2)
    (startTime : Timestamp) :
    t.node.intent.Advances (t.considerOffer source destination direction startTime).node.intent := by
  simp only [considerOffer]
  split
  · exact .refl _
  · split
    · exact .refl _
    · rename_i candidate _ _ time _
      split
      · have hstart : (t.node.schedule.relaxFirstStart time candidate.id t.now).1.start =
            t.node.schedule.start := by
          rw [Schedule.relaxFirstStart]
          split <;> rfl
        have hintent : (t.setSchedule (t.node.schedule.relaxFirstStart time candidate.id
            t.now).1).node.intent = t.node.intent := congrArg (Intent.mk _) hstart
        rw [← hintent]
        exact advances_launch _ _ _
      · exact .refl _

lemma advances_onInterNode (t : Turn) (sender incoming : Vec2) (startTime : Timestamp) :
    t.node.intent.Advances (t.onInterNode sender incoming startTime).node.intent := by
  simp only [onInterNode]
  split
  · split
    · exact .refl _
    · split
      · exact .refl _
      · rename_i travel _ _
        by_cases hearlier : t.now < startTime + travel ∧
            startTime + travel < t.node.schedule.start
        · rw [Schedule.relaxStart, if_pos hearlier, if_pos rfl, intent_scheduleActivation]
          exact .inr ⟨rfl, hearlier.2⟩
        · rw [Schedule.relaxStart, if_neg hearlier, if_neg Bool.false_ne_true]
          exact .refl _
  · exact .refl _

/-- A node that is ready stays so, whether it adopts a start or not. -/
lemma advances_adopt (t : Turn) (h : t.node.status = .ready) (startTime : Timestamp)
    (node : NodeId) :
    t.node.intent.Advances
      (if (t.node.schedule.adoptStart startTime node t.now).2 then
        (t.setSchedule (t.node.schedule.adoptStart startTime node t.now).1).scheduleActivation
      else t).node.intent := by
  by_cases hc : t.now < startTime ∧ startTime ≤ t.node.schedule.start
  · obtain ⟨hadopted, hstart⟩ := Schedule.adoptStart_of_ahead hc node
    rw [if_pos hadopted, intent_scheduleActivation]
    refine Intent.advances_ready h ?_
    rw [← hstart] at hc
    exact hc.2
  · rw [Schedule.adoptStart_of_not hc, if_neg Bool.false_ne_true]
    exact .refl _

section

variable (hs : t.node.status = .formation ∨ t.node.status = .ready)
include hs

lemma intent_onClusterInfo (r : Record) : (t.onClusterInfo r).node.intent = t.node.intent := by
  simp only [onClusterInfo]
  split
  · have hw : (t.setRegistry (t.node.registry.hear r)).weighNeighbor r =
        t.setRegistry (t.node.registry.hear r) := by
      have hs : (t.setRegistry (t.node.registry.hear r)).node.status = .formation ∨
        (t.setRegistry (t.node.registry.hear r)).node.status = .ready := hs
      rcases hs with hs | hs <;> simp only [weighNeighbor, hs]
    rw [hw]
    simp only [noteForeign]
    split
    · rfl
    · split <;> rfl
  · rfl

lemma onInitiateCluster_eq (cluster : NodeId) (r : Record) :
    t.onInitiateCluster cluster r = t := by
  refine if_neg fun h => ?_
  rw [h.1] at hs
  rcases hs with hs | hs <;> cases hs

lemma intent_onFormCluster (r : Record) : (t.onFormCluster r).node.intent = t.node.intent := by
  simp only [onFormCluster]
  split
  · split
    · rename_i h
      have h : t.node.status = .init ∨ t.node.status = .headElection := h
      rcases hs with hs | hs <;> simp [hs] at h
    · rfl
  · rfl

lemma advances_onIntraCluster (cluster starter : NodeId) (startTime : Timestamp)
    (direction : Vec2) :
    t.node.intent.Advances (t.onIntraCluster cluster starter startTime direction).node.intent := by
  simp only [onIntraCluster]
  split
  · split
    · rename_i h
      have hready : t.node.status = .ready := by
        rcases hs with hs | hs
        · simp [hs] at h
        · exact hs
      exact advances_adopt (t.setDirection (some direction)) hready _ _
    · exact .refl _
  · exact .refl _

/-- A node that is to form a cluster, or is ready for a wavefront, takes no notice of other
heads. -/
lemma advances_onMessage (sender : NodeId) (m : Message) :
    t.node.intent.Advances (t.onMessage sender m).node.intent := by
  cases m with
  | clusterInfo => exact .inl (intent_onClusterInfo hs _)
  | initiateCluster seq cluster r =>
    rw [onMessage, onInitiateCluster_eq hs]
    exact .refl _
  | formCluster => exact .inl (intent_onFormCluster hs _)
  | neighborCluster =>
    left
    simp only [onMessage, onNeighborCluster]
    split
    · split
      · rfl
      · split <;> rfl
    · rfl
  | densityMap =>
    left
    simp only [onMessage, onDensityMap]
    split <;> rfl
  | interCluster =>
    simp only [onMessage, onInterCluster]
    split
    · exact advances_considerOffer (t.send _ _) _ _ _ _
    · exact .refl _
  | intraCluster => exact advances_onIntraCluster hs _ _ _ _
  | interNode => exact advances_onInterNode t _ _ _
  | ack => exact .refl _
  | incident =>
    left
    simp only [onMessage, onIncident, onOwnIncident]
    split
    · split <;> rfl
    · split <;> rfl

end

/-- A message lets no node form a cluster, and none start later. -/
lemma unasked_onMessage (h : t.node.Unasked) (sender : NodeId) (m : Message) :
    (t.onMessage sender m).node.Unasked ∧
      (t.onMessage sender m).node.schedule.start ≤ t.node.schedule.start := by
  refine ⟨?_, (t.moves_onMessage sender m).ratchet.start⟩
  have hc : (t.hearing sender m).call ≠ .formCluster := by
    intro hc
    cases hc
  have hm : (t.hearing sender m).Brings m := List.mem_singleton.2 rfl
  exact (Strides.onMessage sender t hm).induct (P := fun u => u.node.Unasked) h
    fun _ _ h s => s.unasked hc h

/-- Of some messages, those that let the node start earlier keep it from forming a cluster. -/
lemma intent_onMessages (hs : t.node.status = .formation) (sender : NodeId) (ms : List Message) :
    (ms.foldl (onMessage sender) t).node.intent = t.node.intent ∨
      (ms.foldl (onMessage sender) t).node.Unasked ∧
        (ms.foldl (onMessage sender) t).node.schedule.start < t.node.schedule.start := by
  refine List.foldlRecOn (motive := fun u : Turn => u.node.intent = t.node.intent ∨
    u.node.Unasked ∧ u.node.schedule.start < t.node.schedule.start) ms _ (.inl rfl) ?_
  rintro u (he | ⟨hu, hlt⟩) m -
  · have hsu : u.node.status = .formation := (congrArg Intent.status he).trans hs
    have hadv := advances_onMessage (.inl hsu) sender m
    rw [he] at hadv
    refine hadv.imp_right fun ⟨hready, hlt⟩ => ⟨?_, hlt⟩
    intro hf
    exact Status.noConfusion (hready.symm.trans hf)
  · obtain ⟨hu, hle⟩ := unasked_onMessage hu sender m
    exact .inr ⟨hu, Timestamp.lt_of_le_of_lt hle hlt⟩

end Turn

/-! ### Timers of a node that is to form a cluster -/

namespace Turn

lemma status_announce (t : Turn) : t.announce.node.status = t.node.status := by
  simp only [announce]
  split
  · rfl
  · split <;> rfl

lemma status_originate (t : Turn) : t.originate.node.status = t.node.status := by
  simp only [originate]
  split
  · rfl
  · split <;> rfl

lemma unasked_decideLaunch (t : Turn) : t.decideLaunch.node.Unasked := by
  have hx : t.exchanged.node.Unasked := fun hs => Status.noConfusion hs
  have hb : t.exchanged.Beside t.decideLaunch := by
    simp only [decideLaunch]
    split
    · exact .refl _
    · split
      · exact .refl _
      · split
        · exact (Beside.setSchedule _ _).trans (.launch _ _ _)
        · exact .refl _
  exact hb.unasked hx

lemma unasked_activate (t : Turn) : t.activate.node.Unasked := by
  rw [Node.Unasked, node_activate]
  exact fun hs => Status.noConfusion hs

/-- A round of upkeep overrides a request if the node becomes a head or loses its own one. -/
lemma status_afterUpkeep (hs : t.node.status = .formation) (u : Upkeep) :
    (t.afterUpkeep u).node.status = .formation ↔ (u.becameHead || u.lostHead) = false := by
  simp only [afterUpkeep]
  split
  · rename_i hb
    exact iff_of_false (unasked_setStatus_queueSend _ (by decide) _) (by simp [hb])
  · rename_i hb
    split
    · rename_i hl
      exact iff_of_false (unasked_setStatus_queueSend _ (by decide) _) (by simp [hl])
    · rename_i hl
      exact iff_of_true hs (by simp [hb, hl])

lemma status_upkeep (hs : t.node.status = .formation) :
    t.upkeep.node.status = .formation ↔ (t.node.clustering &&
      ((t.node.registry.maintain t.node.record t.now t.node.settings.timeout).2.2.becameHead ||
        (t.node.registry.maintain t.node.record t.now t.node.settings.timeout).2.2.lostHead)) =
          false := by
  simp only [upkeep]
  split
  · rename_i hc
    rw [hc, Bool.true_and]
    let m := t.node.registry.maintain t.node.record t.now t.node.settings.timeout
    exact status_afterUpkeep (t := (t.setRegistry m.1).setRecord m.2.1) hs m.2.2
  · rename_i hc
    exact iff_of_true hs (by simp [hc])

end Turn

/-! ### Visits -/

namespace Node

lemma status_visit_formCluster (n : Node) (hv : v.call = .formCluster) :
    (n.visit v).node.status = .formation := by
  rw [Node.visit, hv]
  simp only [Turn.handle, Turn.formCluster]
  rw [Turn.status_queueSend]
  rfl

/-- A packet overrides a request exactly if it lets the node start earlier. -/
lemma status_visit_packet (hs : n.status = .formation) {packet : Packet}
    (hv : v.call = .packet sender packet) : (n.visit v).node.status = .formation ↔
      (n.visit v).node.schedule.start = n.schedule.start := by
  let t := (Turn.start n v.now v.position v.nextHandle).receive
  have hvisit : (n.visit v).node.intent =
      (packet.messages.foldl (Turn.onMessage sender) t).node.intent := by
    rw [n.visit_of_packet hv, Turn.intent_noteRole]
  have hst : (n.visit v).node.status = _ := congrArg Intent.status hvisit
  have hstart : (n.visit v).node.schedule.start = _ := congrArg Intent.start hvisit
  rw [hst, hstart]
  rcases Turn.intent_onMessages (t := t) hs sender packet.messages with he | ⟨hu, hlt⟩
  · exact iff_of_true ((congrArg Intent.status he).trans hs) (congrArg Intent.start he)
  · refine iff_of_false hu fun he => Timestamp.not_lt.2 (Timestamp.le_refl n.schedule.start) ?_
    exact Eq.subst (motive := fun start => start < n.schedule.start) he hlt

lemma status_visit_timer (n : Node) {timer : Timer} (hv : v.call = .timer timer) :
    (n.visit v).node.status =
      ((Turn.start n v.now v.position v.nextHandle).locate.fire timer).node.status := by
  rw [n.visit_timer hv, Turn.node_noteRole]

/-- A node that is to form a cluster still is after a visit, unless the visit overrides that. -/
lemma status_visit_iff (hs : n.status = .formation) (hv : v.IsBetween) :
    (n.visit v).node.status = .formation ↔ n.overrides v = false := by
  let t := (Turn.start n v.now v.position v.nextHandle).locate
  unfold overrides
  -- It depends on more than the kind of the call for packets and rounds of upkeep only.
  cases hc : v.call with
  | start =>
    rw [n.visit_of_start hc, Turn.node_onStart]
    exact iff_of_true hs rfl
  | formCluster => exact absurd hc hv.1
  | packet sender packet =>
    rw [status_visit_packet hs hc]
    simp
  | timer timer =>
    rw [n.status_visit_timer hc]
    cases timer with
    | start => exact iff_of_false (Turn.unasked_beginClustering t) Bool.noConfusion
    | stop => exact absurd hc hv.2.2
    | send => exact absurd hc hv.2.1
    | electionCheck =>
      refine iff_of_true ?_ rfl
      have hn : (t.setSlot .election none).node.status ≠ .init := by
        rw [show (t.setSlot .election none).node.status = .formation from hs]
        decide
      simp only [Turn.fire, Turn.checkElection]
      rw [if_pos hn]
      exact hs
    | upkeep => exact Turn.status_upkeep (t := t.setSlot .upkeep none) hs
    | decide => exact iff_of_false t.unasked_decideLaunch Bool.noConfusion
    | retransmit peer kind =>
      refine iff_of_true ?_ rfl
      simp only [Turn.fire]
      rw [Turn.node_retransmit]
      exact hs
    | intraBroadcast => exact iff_of_true ((Turn.status_announce _).trans hs) rfl
    | activate => exact iff_of_false (Turn.unasked_activate _) Bool.noConfusion
    | complete | dutyActive | dutyInactive =>
      exact iff_of_false (fun h => Status.noConfusion h) Bool.noConfusion
    | incident => exact iff_of_true ((Turn.status_originate _).trans hs) rfl

/-- A node that is to form a cluster still is after some visits, unless one of them overrides
that. -/
lemma status_after_iff {vs : List Visit} (hs : n.status = .formation)
    (hv : ∀ v ∈ vs, v.IsBetween) :
    (n.after vs).status = .formation ↔ n.overridden vs = false := by
  induction vs generalizing n with
  | nil => exact iff_of_true hs rfl
  | cons v vs ih =>
    obtain ⟨hv, hvs⟩ := List.forall_mem_cons.1 hv
    have hone := status_visit_iff hs hv
    rw [after_cons, overridden, Bool.or_eq_false_iff]
    by_cases ho : n.overrides v = false
    · rw [ih (hone.2 ho) hvs, and_iff_right ho]
    · have hu : (n.visit v).node.Unasked := fun h => ho (hone.1 h)
      exact iff_of_false (hu.after fun v hm => (hvs v hm).1) fun h => ho h.1

end Node

/-! ### Transmissions -/

namespace Turn

open Outbox (Step Steps)

/-- Whether no cluster is declared from one turn to the other. -/
def Quiet (t t' : Turn) : Prop := Steps (fun e => ¬ e.Declares) t.outbox t'.outbox

lemma quiet_schedule (t : Turn) (d : Duration) (timer : Timer) : t.Quiet (t.schedule d timer) := by
  refine (Step.schedule t.outbox ?_).steps
  rintro ⟨p, seq, r, he, -⟩
  cases he

lemma quiet_queueSend (t : Turn) (d : Duration) : t.Quiet (t.queueSend d) := by
  simp only [queueSend]
  split
  · exact quiet_schedule (t.setSlot .send _) d .send
  · exact .refl _

lemma quiet_broadcastPacket (t : Turn) {p : Packet}
    (h : ∀ seq r, Message.formCluster seq r ∉ p.messages) : t.Quiet (t.broadcastPacket p) := by
  refine (Step.broadcast t.outbox ?_).steps
  rintro ⟨_, seq, r, ⟨⟩, hm⟩
  exact h seq r hm

lemma quiet_broadcast (t : Turn) {m : Message} (h : ∀ seq r, m ≠ .formCluster seq r) :
    t.Quiet (t.broadcast m) :=
  t.quiet_broadcastPacket fun seq r hm => h seq r (List.mem_singleton.1 hm).symm

/-- The messages of an update are collected before any of them is sent. -/
lemma outbox_updateMessages (t : Turn) : t.updateMessages.1.outbox = t.outbox := by
  simp only [updateMessages]
  split
  · rfl
  · refine List.foldlRecOn (motive := fun acc : Turn × List Message =>
      acc.1.outbox = t.outbox) _ _ rfl ?_
    intro acc h _ _
    exact h

lemma quiet_sendUpdate (t : Turn) : t.Quiet t.sendUpdate := by
  have hpackets : t.Quiet ((Packet.batch t.updateMessages.1.node.settings.packetLimit.toNat
      t.updateMessages.2).foldl broadcastPacket t.updateMessages.1) := by
    refine List.foldlRecOn (motive := fun u => t.Quiet u) _ _ ?_ ?_
    · rw [Quiet, outbox_updateMessages]
      exact .refl _
    · intro u hu p hp
      refine hu.trans (u.quiet_broadcastPacket fun seq r hm => ?_)
      cases (Posts.updateMessages t).2 _ (Packet.mem_of_mem_batch hp hm)
  exact hpackets.trans (quiet_queueSend _ _)

/-- A node that is not to form a cluster declares none. -/
lemma quiet_transmit (h : t.node.Unasked) : t.Quiet t.transmit := by
  simp only [transmit]
  split
  · have hb := t.advanceSeq.quiet_broadcast
      (m := .clusterInfo t.advanceSeq.node.seq t.advanceSeq.node.record) (by simp)
    exact (Steps.trans hb (Steps.disarm _ .election)).trans (quiet_schedule _ _ _)
  · let u := (t.setRecord t.node.record.becomeHead).advanceSeq
    have hb := u.quiet_broadcast (m := .initiateCluster u.node.seq u.node.id u.node.record)
      (by simp)
    have hq (w : Turn) (d : Duration) : w.Quiet (w.clusterFormed d) :=
      quiet_queueSend ((w.count _).setStatus .update) d
    exact Steps.trans hb (hq _ _)
  · rename_i hs
    exact absurd hs h
  · split
    · exact t.quiet_sendUpdate
    · exact .refl _
  · exact .refl _

/-- A node that is to form a cluster leads it and declares it. -/
lemma formsCluster_transmit (hs : t.node.status = .formation) : t.transmit.FormsCluster := by
  let u := (t.setRecord t.node.record.becomeHead).advanceSeq
  have ht : t.transmit = (u.broadcast (.formCluster u.node.seq u.node.record)).clusterFormed
      u.node.settings.interval := by
    simp only [transmit, hs]
    rfl
  rw [ht, clusterFormed]
  refine ⟨?_, u.node.seq, u.node.record, ?_⟩
  · rw [node_queueSend]
    rfl
  · simp only [queueSend]
    split
    · exact List.mem_append_left _ (List.mem_append_right _ List.mem_cons_self)
    · exact List.mem_append_right _ List.mem_cons_self

end Turn

namespace Node

/-- A transmission declares a cluster exactly if the node is to form one. -/
lemma visit_send (n : Node) (hv : v.call = .timer .send) :
    (n.status = .formation → (n.visit v).FormsCluster) ∧
      (n.Unasked → ∀ e ∈ (n.visit v).outbox.effects, ¬ e.Declares) := by
  let t := (Turn.start n v.now v.position v.nextHandle).locate.setSlot .send none
  have hvisit : n.visit v = t.transmit.noteRole n.record.role := n.visit_timer hv
  rw [hvisit, Turn.outbox_noteRole]
  constructor
  · intro hs
    obtain ⟨hh, hd⟩ := Turn.formsCluster_transmit (t := t) hs
    refine ⟨?_, ?_⟩
    · rw [Turn.node_noteRole]
      exact hh
    · rw [Turn.outbox_noteRole]
      exact hd
  · intro hu e he hd
    rcases (Turn.quiet_transmit (t := t) hu).mem_effects he with hmem | ⟨handle, rfl⟩ | hn
    · cases hmem
    · obtain ⟨p, seq, r, he, -⟩ := hd
      cases he
    · exact hn hd

/-- Of the visits between a request for a cluster and the next transmission, with no end of
clustering among them, it depends on whether one overrides the request. If none does, the node
leads with the transmission and declares its cluster formed. If one does, no cluster is declared. -/
theorem request_is_honoured_iff (n : Node) {v s : Visit} {vs : List Visit}
    (hv : v.call = .formCluster) (hvs : ∀ u ∈ vs, u.IsBetween) (hs : s.call = .timer .send) :
    ((((n.visit v).node.after vs).visit s).FormsCluster ↔
      (n.visit v).node.overridden vs = false) ∧
    ((n.visit v).node.overridden vs → ∀ e ∈ (((n.visit v).node.after vs).visit s).outbox.effects,
      ¬ e.Declares) := by
  have hafter := status_after_iff (n.status_visit_formCluster hv) hvs
  obtain ⟨hforms, hquiet⟩ := ((n.visit v).node.after vs).visit_send hs
  have hlost (ho : (n.visit v).node.overridden vs) :
      ((n.visit v).node.after vs).Unasked := fun h => by
    rw [hafter.1 h] at ho
    cases ho
  refine ⟨⟨fun hf => ?_, fun ho => hforms (hafter.2 ho)⟩, fun ho => hquiet (hlost ho)⟩
  by_contra ho
  obtain ⟨seq, r, he⟩ := hf.declared
  exact hquiet (hlost (Bool.not_eq_false _ ▸ ho)) _ he ⟨_, seq, r, rfl, List.mem_singleton.2 rfl⟩

open Visit (rings hears)

/-- A node is asked to form a cluster. -/
def request (millis : UInt64) (nextHandle : Nat) : Visit :=
  ⟨.ofMillis millis, Vec3.zero, nextHandle, .formCluster⟩

/-- The visits of a node on its own, until its first round of upkeep. -/
def loneVisits : List Visit :=
  [⟨.start, Vec3.zero, 1, .start⟩, rings 0 2 .start, rings 100 4 .upkeep]

/-- Two rounds of upkeep. -/
def upkeepRounds : List Visit := [rings 400 5 .upkeep, rings 700 6 .upkeep]

/-- Upkeep does not override the request to a node on its own, which forms a cluster. -/
theorem lone_node_honours_request : ∃ n₀ n : Node, n₀.IsNew ∧ n = n₀.after loneVisits ∧
    n.clustering ∧ (request 200 5).call = .formCluster ∧ (∀ u ∈ upkeepRounds, u.IsBetween) ∧
      (rings 1000 7 .send).call = .timer .send ∧
      ((n.visit (request 200 5)).node.overridden upkeepRounds = false) ∧
      ((((n.visit (request 200 5)).node.after upkeepRounds).visit
        (rings 1000 7 .send)).FormsCluster ↔
          (n.visit (request 200 5)).node.overridden upkeepRounds = false) ∧
      ((n.visit (request 200 5)).node.overridden upkeepRounds →
        ∀ e ∈ (((n.visit (request 200 5)).node.after upkeepRounds).visit
          (rings 1000 7 .send)).outbox.effects, ¬ e.Declares) := by
  have hrun : ((Node.create ⟨1⟩ Settings.standard false none).toOption.any fun n =>
      (n.after loneVisits).clustering &&
        !((n.after loneVisits).visit (request 200 5)).node.overridden upkeepRounds) = true := by
    decide +kernel
  simp only [Option.any_eq_true, Bool.and_eq_true, Bool.not_eq_true'] at hrun
  obtain ⟨n, hn, hc, ho⟩ := hrun
  have hbetween : ∀ u ∈ upkeepRounds, u.IsBetween := by
    simp [upkeepRounds, Visit.IsBetween, rings]
  exact ⟨n, n.after loneVisits, .of_toOption hn, rfl, hc, rfl, hbetween, rfl, ho,
    request_is_honoured_iff _ rfl hbetween rfl⟩

end Node

namespace Bench

open Visit (rings hears)

/-- The visits of a node that joins the cluster of a head. -/
def memberVisits : List Visit :=
  [⟨.start, Vec3.zero, 1, .start⟩, rings 0 2 .start,
    hears 50 4 ⟨9⟩ (.clusterInfo 1 (Record.lone ⟨9⟩ Vec3.zero .start).becomeHead)]

/-- The head is not heard any more, and drops out of the neighbors. -/
def headlessVisits : List Visit :=
  [rings 100 4 .upkeep, rings 400 5 .upkeep,
    hears 500 6 ⟨2⟩ (.clusterInfo 1 (Record.lone ⟨2⟩ Vec3.zero .start)), rings 700 6 .upkeep]

/-- At a bench that behaves well, a member is asked to form a cluster and loses its head before its
transmission. It starts over and does not lead. -/
theorem member_forgets_request : ∃ b₀ b c c' d : Bench, b₀.node.IsNew ∧ b₀.alarms = [] ∧
    b₀.run? memberVisits = some b ∧ b.node.clustering ∧
      b.attend? (Node.request 60 4) = some c ∧ c.node.status = .formation ∧
      (∀ u ∈ headlessVisits, u.IsBetween) ∧ c.run? headlessVisits = some c' ∧
      c'.attend? (rings 1000 7 .send) = some d ∧ ¬ d.node.record.isHead ∧
      d.node.status = .init := by
  have hrun : ((Node.create ⟨1⟩ Settings.standard false none).toOption.any fun n =>
      ((Bench.setUp n Vec3.zero).run? memberVisits).any fun b => b.node.clustering &&
        (b.attend? (Node.request 60 4)).any fun c => c.node.status = .formation &&
          (c.run? headlessVisits).any fun c' => (c'.attend? (rings 1000 7 .send)).any fun d =>
            !d.node.record.isHead && d.node.status = .init) = true := by decide +kernel
  simp only [Option.any_eq_true, Bool.and_eq_true, Bool.not_eq_true', decide_eq_true_eq] at hrun
  obtain ⟨n, hn, b, hb, hcl, c, hc, hs, c', hc', d, hd, hh, hi⟩ := hrun
  refine ⟨.setUp n Vec3.zero, b, c, c', d, .of_toOption hn, rfl, hb, hcl, hc, hs, ?_, hc', hd,
    Bool.eq_false_iff.1 hh, hi⟩
  simp [headlessVisits, Visit.IsBetween, rings, hears]

end Bench

end ClusterWave
