import ClusterWave.Proofs.Clustering.Freshness
import ClusterWave.Proofs.Network.Acknowledgment
import Mathlib.Data.List.Induction

/-!
# Stopping is final

In some statuses a node transmits whether or not clusters are being formed, and a message may let it
transmit at any time. So what keeps a node quiet when clustering is over are its timers: clustering
does not begin again, nothing is armed that leads to an election, and a transmission is armed only
in a status in which there is nothing to say any more. Maps are sent only as long as they are
pending. They are taken up when clustering ends and given up when the exchange is over.
-/

namespace ClusterWave

/-- Whether clusters are formed by messages of a kind. -/
def MessageKind.isFormation : MessageKind → Bool
  | .clusterInfo | .initiateCluster | .formCluster | .neighborCluster => true
  | _ => false

lemma Message.replyTo?_of_isFormation {m : Message} (h : m.kind.isFormation) :
    m.replyTo? = none := by
  cases m <;> first | rfl | cases h

/-- Whether a node in a status has something to transmit even when clustering is over. -/
def Status.isOutspoken : Status → Bool
  | .init | .headElection | .formation => true
  | _ => false

lemma Status.not_isOutspoken {s : Status} (h : s.isClustering = false) : ¬ s.isOutspoken := by
  cases s <;> first | exact Bool.false_ne_true | cases h

/-- A node for which clustering is over, with nothing armed that could make it say something. -/
structure Node.Retired (n : Node) : Prop where
  clustering : n.clustering = false
  election : n.slots.election = none
  upkeep : n.slots.upkeep = none
  quiet : n.status.isOutspoken → n.slots.send = none

/-- No map is pending. -/
def Node.MapFree (n : Node) : Prop := ∀ peer, n.reliable.pending.get? (peer, .densityMap) = none

variable {n : Node} {v : Visit} {t t' : Turn}

/-! ### What is sent, and when -/

namespace Asked

variable {e : Effect} {m : Message}

/-- Clusters are formed by transmissions only. -/
lemma send_of_isFormation (h : Asked n v t e) (hn : n.Signs) (hm : m ∈ e.messages)
    (hk : m.kind.isFormation) : v.call = .timer .send := by
  cases h with
  | plainBroadcast h =>
    cases h m hm with
    | clusterInfo _ hv | initiateCluster _ hv | formCluster _ hv | neighborCluster _ _ _ hv =>
      exact hv
    | incident => cases hk
  | again hv hp =>
    have hr := hn.replyTo? _ _ hp
    rw [← List.mem_singleton.1 hm, Message.replyTo?_of_isFormation hk] at hr
    cases hr
  | incident | answer | announce | passOn =>
    obtain rfl := List.mem_singleton.1 hm
    cases hk
  | _ => cases hm

/-- A map is sent only if it is pending. -/
lemma pending_of_densityMap (h : Asked n v t e) (hn : n.Signs) (hm : m ∈ e.messages)
    (hk : m.kind = .densityMap) : ∃ peer p, v.call = .timer (.retransmit peer .densityMap) ∧
      n.reliable.pending.get? (peer, .densityMap) = some p := by
  cases h with
  | plainBroadcast h => cases h m hm <;> cases hk
  | @again peer kind p hv hp =>
    obtain rfl := List.mem_singleton.1 hm
    obtain rfl : kind = .densityMap := (hn.kind _ _ hp).trans hk
    exact ⟨peer, p, hv, hp⟩
  | incident | answer | announce | passOn =>
    obtain rfl := List.mem_singleton.1 hm
    cases hk
  | _ => cases hm

end Asked

/-! ### Strides when clustering is over -/

namespace Turn

lemma retired_unclustered (t : Turn) : t.unclustered.node.Retired := by
  rw [node_unclustered]
  exact ⟨rfl, rfl, rfl, fun _ => rfl⟩

lemma Beside.retired (hb : t.Beside t') (h : t.node.Retired) : t'.node.Retired := by
  have hsend : t'.node.slots.send = t.node.slots.send := congrArg Stance.send hb.stance
  refine ⟨hb.clustering.trans h.clustering, (congrArg Stance.election hb.stance).trans h.election,
    (congrArg Stance.upkeep hb.stance).trans h.upkeep, ?_⟩
  intro ho
  rcases hb.status with hs | hs
  · exact hsend.trans (h.quiet (hs ▸ ho))
  · exact absurd ho (Status.not_isOutspoken hs)

/-- When clustering is over there is nothing to transmit. -/
lemma transmit_of_retired (h : t.node.Retired) (hs : ¬ t.node.status.isOutspoken) :
    (t.setSlot .send none).transmit = t.setSlot .send none := by
  have status {s : Status} (hst : (t.setSlot .send none).node.status = s) (ho : s.isOutspoken) :
      False := hs (show t.node.status.isOutspoken from (show t.node.status = s from hst) ▸ ho)
  simp only [transmit]
  split
  · rename_i he
    exact (status he rfl).elim
  · rename_i he
    exact (status he rfl).elim
  · rename_i he
    exact (status he rfl).elim
  · rw [show (t.setSlot .send none).node.clustering = false from h.clustering]
    rfl
  · rfl

end Turn

/-- Whoever joins a cluster has an update to transmit, which comes to nothing. -/
lemma Node.Retired.join (h : t.node.Retired) (head : NodeId) : (t.join head).node.Retired := by
  have hwatch := t.watch_join head
  have hs : (t.join head).node.status = .update := congrArg (·.2.2) (t.core_join head)
  refine ⟨(congrArg Prod.fst hwatch).trans h.clustering, ?_,
    (congrArg Prod.snd hwatch).trans h.upkeep, ?_⟩
  · simp only [Turn.join]
    rw [Turn.node_queueSend]
    show (t.disarm .election).node.slots.election = none
    rw [Turn.node_disarm]
    rfl
  · rw [hs]
    intro ho
    cases ho

lemma Node.Retired.settle (h : t.node.Retired) : t.settle.node.Retired := by
  simp only [Turn.settle]
  split
  · exact ⟨h.clustering, h.election, h.upkeep, h.quiet⟩
  · rw [Turn.node_queueSend]
    refine ⟨h.clustering, h.election, h.upkeep, ?_⟩
    intro ho
    cases ho

lemma Node.Retired.merge (h : t.node.Retired) : t.merge.node.Retired := by
  simp only [Turn.merge]
  split
  · exact h
  · split
    · exact ⟨h.clustering, h.election, h.upkeep, h.quiet⟩
    · exact h

lemma Stride.retired (s : Stride v t t') (hs : v.call ≠ .timer .start)
    (hf : v.call ≠ .formCluster) (he : v.call ≠ .timer .electionCheck)
    (hq : v.call = .timer .send → ¬ t.node.status.isOutspoken) (h : t.node.Retired) :
    t'.node.Retired ∧ (v.call = .timer .send → ¬ t'.node.status.isOutspoken) := by
  -- Messages do not come with timers.
  have told {m : Message} (hm : v.Brings m) (hc : v.call = .timer .send) :
      ¬ t'.node.status.isOutspoken := absurd hc (hm.ne_timer _)
  cases s with
  | beside hb =>
    refine ⟨hb.retired h, ?_⟩
    intro hc ho
    rcases hb.status with hst | hst
    · exact hq hc (hst ▸ ho)
    · exact Status.not_isOutspoken hst ho
  | beginClustering hc => exact absurd hc hs
  | endClustering hc =>
    refine ⟨t.beside_endClustering.retired t.retired_unclustered, ?_⟩
    intro hc'
    rw [hc] at hc'
    cases hc'
  | formCluster hc => exact absurd hc hf
  | transmit hc =>
    rw [Turn.transmit_of_retired h (hq hc)]
    exact ⟨⟨h.clustering, h.election, h.upkeep, fun _ => rfl⟩, hq⟩
  | checkElection hc => exact absurd hc he
  | upkeep hc =>
    rw [Turn.upkeep_of_idle (t := t.setSlot .upkeep none) h.clustering]
    exact ⟨⟨h.clustering, h.election, rfl, h.quiet⟩, hq⟩
  | hear | enrol | note => exact ⟨⟨h.clustering, h.election, h.upkeep, h.quiet⟩, hq⟩
  | join hi =>
    obtain ⟨m, hm⟩ := hi.brings
    exact ⟨h.join _, told hm⟩
  | settle hm => exact ⟨h.settle, told hm⟩
  | merge hm => exact ⟨h.merge, told hm⟩

/-! ### Visits -/

namespace Node

lemma retired_visit_stop (n : Node) (hv : v.call = .timer .stop) : (n.visit v).node.Retired := by
  let t := (Turn.start n v.now v.position v.nextHandle).locate
  rw [n.visit_timer hv]
  exact (t.beside_endClustering.trans (.noteRole _ _)).retired t.retired_unclustered

lemma Retired.visit (h : n.Retired) (hs : v.call ≠ .timer .start) (hf : v.call ≠ .formCluster)
    (he : v.call ≠ .timer .electionCheck)
    (hq : v.call = .timer .send → ¬ n.status.isOutspoken) : (n.visit v).node.Retired :=
  ((strides_visit n v).induct (P := fun t => t.node.Retired ∧
    (v.call = .timer .send → ¬ t.node.status.isOutspoken)) ⟨h, hq⟩
    fun _ _ h s => s.retired hs hf he h.2 h.1).1

lemma Retired.outbox_visit (h : n.Retired) (hv : v.call = .timer .send)
    (hq : ¬ n.status.isOutspoken) : (n.visit v).outbox = Outbox.fresh v.nextHandle := by
  have ht : (Turn.start n v.now v.position v.nextHandle).locate.node.Retired :=
    ⟨h.clustering, h.election, h.upkeep, h.quiet⟩
  rw [n.visit_timer hv, Turn.outbox_noteRole, Turn.fire, Turn.transmit_of_retired ht hq]
  rfl

end Node

lemma Awaited.pending_of_densityMap {key : NodeId × MessageKind} {m : Message}
    (h : Awaited v t key m) (hv : v.call ≠ .timer .stop) (hk : key.2 = .densityMap) :
    ∃ p, t.node.reliable.pending.get? key = some p := by
  cases h with
  | kept h => exact ⟨_, h⟩
  | offer => cases hk
  | map _ _ _ hs => exact absurd hs hv

lemma Move.mapFree (m : Move n v t t') (hv : v.call ≠ .timer .stop) (h : t.node.MapFree) :
    t'.node.MapFree := by
  intro peer
  rw [Option.eq_none_iff_forall_not_mem]
  intro p hp
  obtain ⟨q, hq⟩ := (m.awaited hp).pending_of_densityMap hv rfl
  cases (h peer).symm.trans hq

namespace Node

lemma MapFree.visit (h : n.MapFree) (hv : v.call ≠ .timer .stop) : (n.visit v).node.MapFree :=
  (moves_visit n v).induct (P := fun t => t.node.MapFree) h fun _ _ h m => m.mapFree hv h

/-- When the exchange is over every map is given up. -/
lemma mapFree_visit_decide (n : Node) (hv : v.call = .timer .decide) :
    (n.visit v).node.MapFree := by
  let t := (Turn.start n v.now v.position v.nextHandle).locate
  have hfree : t.exchanged.node.MapFree := by
    intro peer
    show (Table.filter _ _).get? _ = none
    rw [Table.get?_filter]
    exact Option.filter_eq_none_iff.2 fun _ _ => Bool.false_ne_true
  have hstop : v.call ≠ .timer .stop := by
    rw [hv]
    decide
  have hmoves : Moves n v t.exchanged t.decideLaunch := by
    apply Moves.decideLaunch _ hv
    rw [Moves.starter?_velocity n _ (by rfl) (by rfl) (by rfl), Node.origination?, hv]
    rfl
  rw [n.visit_timer hv, Turn.node_noteRole]
  exact hmoves.induct (P := fun t => t.node.MapFree) hfree fun _ _ h m => m.mapFree hstop h

end Node

/-! ### Benches -/

namespace Bench

variable {b b' b₀ : Bench} {vs : List Visit} {w : Visit}

/-- The begin of clustering is before its end. -/
lemma before_of_bounds {a a' : Alarm} (hb : ∀ stop, n.settings.clusteringStop = some stop →
    n.settings.clusteringStart ≤ stop) (ha : a = n.opening v) (ha' : n.closing? v = some a') :
    a.before a' := by
  obtain ⟨stop, hs, rfl⟩ := Option.map_eq_some_iff.1 ha'
  have hle := Timestamp.add_since_le_add_since v.now
    (a := .ofDuration n.settings.clusteringStart) (b := .ofDuration stop)
    (Duration.toNat_micros_mono (hb stop hs))
  rw [ha, Alarm.before_iff]
  by_cases hlt : (n.opening v).due < v.now + (Timestamp.ofDuration stop).since v.now
  · exact .inl hlt
  · exact .inr ⟨Timestamp.le_antisymm hle (Timestamp.not_lt.1 hlt), Nat.lt_succ_self _⟩

/-- What is known of the course of clustering after some visits to a bench that behaves well. The
begin is due before the end, so once it has ended there is no begin left. -/
structure Bounded (vs : List Visit) (b : Bench) : Prop where
  matched : b.Matches
  opening : Once .start vs b.alarms
  closing : Once .stop vs b.alarms
  bounds : ∀ stop, b.node.settings.clusteringStop = some stop →
    b.node.settings.clusteringStart ≤ stop
  order : ∀ a ∈ b.alarms, ∀ a' ∈ b.alarms, a.timer = .start → a'.timer = .stop → a.before a'
  closed : (∃ u ∈ vs, u.call = .timer .stop) → ∀ a ∈ b.alarms, a.timer ≠ .start
  retired : calledSince (.timer .stop) .formCluster vs → b.node.Retired

/-- What bounds clustering was pending before, unless the node is started. -/
lemma Serves.mem_of_isBound (h : b.Serves w b') (hs : w.call ≠ .start) {a : Alarm}
    (ha : a ∈ b'.alarms) (ht : a.timer.isBound) : a ∈ b.alarms := by
  obtain ⟨as, hl, has⟩ := h.alarms
  rw [has] at ha
  rcases b.node.mem_alarms_visit w ha with ha | ⟨t, _, _, hask⟩
  · exact hl.mem ha
  · exact absurd (hask.of_isBound ht) hs

lemma stopped_of_calledSince {c : Call} (h : calledSince (.timer .stop) c vs) :
    ∃ u ∈ vs, u.call = .timer .stop := by
  obtain ⟨before, u, after, rfl, hu, -⟩ := h
  exact ⟨u, List.mem_append_right _ List.mem_cons_self, hu⟩

namespace Bounded

lemma of_isNew (hn : b.node.IsNew) (ha : b.alarms = [])
    (hb : ∀ stop, b.node.settings.clusteringStop = some stop →
      b.node.settings.clusteringStart ≤ stop) : b.Bounded [] := by
  refine ⟨.of_isNew hn ha, .nil _ ha, .nil _ ha, hb, ?_, ?_, ?_⟩
  · rw [ha]
    exact List.forall_mem_nil _
  · rintro ⟨u, hu, -⟩
    cases hu
  · intro h
    obtain ⟨u, hu, -⟩ := stopped_of_calledSince h
    cases hu

/-- The two alarms are armed together. -/
lemma order_attend (h : b.Bounded vs) (hw : b.attend? w = some b')
    (hs : startsOnce (vs ++ [w])) : ∀ a ∈ b'.alarms, ∀ a' ∈ b'.alarms,
      a.timer = .start → a'.timer = .stop → a.before a' := by
  have hserves := Serves.of_attend? hw
  intro a ha a' ha' ht ht'
  by_cases hstart : w.call = .start
  · have hfirst := (startsOnce_snoc hs).2 hstart
    obtain ⟨as, hl, has⟩ := hserves.alarms
    rw [has] at ha ha'
    have hnone {c : Alarm} {timer : Timer} (ho : Once timer vs b.alarms) (hc : c.timer = timer) :
        c ∉ as := by
      intro hm
      obtain ⟨u, hu, hus⟩ := (ho.pending c (hl.mem hm) hc).1
      exact hfirst u hu hus
    rcases b.node.mem_alarms_of_start hstart ha with hm | hi | ho | hc
    · exact absurd hm (hnone h.opening ht)
    · rw [ht] at hi
      cases hi
    · rcases b.node.mem_alarms_of_start hstart ha' with hm | hi | ho' | hc
      · exact absurd hm (hnone h.closing ht')
      · rw [ht'] at hi
        cases hi
      · rw [ho'] at ht'
        cases ht'
      · exact before_of_bounds h.bounds ho hc
    · obtain ⟨stop, -, rfl⟩ := Option.map_eq_some_iff.1 hc
      cases ht
  · exact h.order a (hserves.mem_of_isBound hstart ha (ht ▸ rfl)) a'
      (hserves.mem_of_isBound hstart ha' (ht' ▸ rfl)) ht ht'

/-- When clustering ends its begin has gone off. -/
lemma closed_attend (h : b.Bounded vs) (hw : b.attend? w = some b')
    (hs : startsOnce (vs ++ [w])) (hu : ∃ u ∈ vs ++ [w], u.call = .timer .stop) :
    ∀ a ∈ b'.alarms, a.timer ≠ .start := by
  have hserves := Serves.of_attend? hw
  intro a ha ht
  by_cases hstop : w.call = .timer .stop
  · have hstart : w.call ≠ .start := by
      rw [hstop]
      exact Call.noConfusion
    obtain ⟨as, hr, -⟩ := (attended hw).alarms
    obtain ⟨d, hd, hdt, hfirst⟩ := hr.exists_first h.matched.keeps.orderly hstop
    have hold := hserves.mem_of_isBound hstart ha (ht ▸ rfl)
    exact hfirst a hold (h.order a hold d hd ht hdt)
  · have hu : ∃ u ∈ vs, u.call = .timer .stop := by
      obtain ⟨u, hm, hu⟩ := hu
      rcases List.mem_append.1 hm with hm | hm
      · exact ⟨u, hm, hu⟩
      · exact absurd (List.mem_singleton.1 hm ▸ hu) hstop
    have hstart : w.call ≠ .start := by
      intro hc
      obtain ⟨u, hm, hu⟩ := hu
      obtain ⟨x, hx, hxs⟩ := h.closing.started u hm hu
      exact (startsOnce_snoc hs).2 hc x hx hxs
    exact h.closed hu a (hserves.mem_of_isBound hstart ha (ht ▸ rfl)) ht

/-- A node that has retired finds nothing to say when a transmission is due. -/
lemma not_isOutspoken (h : b.Bounded vs) (hr : b.node.Retired) (hw : b.Serves w b')
    (hv : w.call = .timer .send) : ¬ b.node.status.isOutspoken := fun ho =>
  h.matched.slot_ne_none .send hw hv rfl (hr.quiet ho)

lemma retired_attend (h : b.Bounded vs) (hw : b.attend? w = some b')
    (hu : calledSince (.timer .stop) .formCluster (vs ++ [w])) : b'.node.Retired := by
  have hserves := Serves.of_attend? hw
  rw [hserves.node]
  rcases calledSince_snoc hu with hstop | ⟨hform, hold⟩
  · exact b.node.retired_visit_stop hstop
  · have hr := h.retired hold
    apply hr.visit
    · intro hc
      obtain ⟨a, ha, hat⟩ := hserves.exists_alarm hc
      exact h.closed (stopped_of_calledSince hold) a ha hat
    · exact hform
    · intro hc
      exact h.matched.slot_ne_none .election hserves hc rfl hr.election
    · exact h.not_isOutspoken hr hserves

lemma attend (h : b.Bounded vs) (hw : b.attend? w = some b') (hs : startsOnce (vs ++ [w])) :
    b'.Bounded (vs ++ [w]) := by
  have hserves := Serves.of_attend? hw
  have hk := h.matched.keeps
  refine ⟨h.matched.serves hserves, h.opening.serves rfl hk hs hserves,
    h.closing.serves rfl hk hs hserves, ?_, h.order_attend hw hs, h.closed_attend hw hs,
    h.retired_attend hw⟩
  rw [hserves.node, (moves_visit b.node w).alike.settings]
  exact h.bounds

lemma run (hn : b₀.node.IsNew) (ha : b₀.alarms = [])
    (hb : ∀ stop, b₀.node.settings.clusteringStop = some stop →
      b₀.node.settings.clusteringStart ≤ stop)
    (h : b₀.run? vs = some b) (hs : startsOnce vs) : b.Bounded vs := by
  induction vs using List.reverseRecOn generalizing b with
  | nil => exact Option.some.inj h ▸ .of_isNew hn ha hb
  | append_singleton vs w ih =>
    obtain ⟨c, hc, hw⟩ := run?_snoc.1 h
    exact (ih hc (startsOnce_snoc hs).1).attend hw hs

end Bounded

/-- What is known of maps after some visits: a decision follows an end of clustering, and it leaves
no map behind. -/
structure Decided (vs : List Visit) (b : Bench) : Prop where
  signs : b.node.Signs
  keeps : b.Keeps
  closing : Once .stop vs b.alarms
  armed : ∀ a ∈ b.alarms, a.timer = .decide → ∃ u ∈ vs, u.call = .timer .stop
  ended : ∀ w ∈ vs, w.call = .timer .decide → ∃ u ∈ vs, u.call = .timer .stop
  maps : (∃ w ∈ vs, w.call = .timer .decide) → b.node.MapFree

namespace Decided

lemma of_isNew (hn : b.node.IsNew) (ha : b.alarms = []) : b.Decided [] := by
  refine ⟨.of_isNew hn, .of_isNew hn ha, .nil _ ha, ?_, List.forall_mem_nil _, ?_⟩
  · rw [ha]
    exact List.forall_mem_nil _
  · rintro ⟨w, hw, -⟩
    cases hw

/-- The decision is armed when clustering ends. -/
lemma armed_serves (h : b.Decided vs) (hw : b.Serves w b') :
    ∀ a ∈ b'.alarms, a.timer = .decide → ∃ u ∈ vs ++ [w], u.call = .timer .stop := by
  intro a ha hat
  obtain ⟨as, hl, has⟩ := hw.alarms
  rw [has] at ha
  rcases b.node.mem_alarms_visit w ha with ha | ⟨t, _, _, hask⟩
  · obtain ⟨u, hu, hus⟩ := h.armed a (hl.mem ha) hat
    exact ⟨u, List.mem_append_left _ hu, hus⟩
  · rw [hat] at hask
    exact ⟨w, List.mem_append_right _ List.mem_cons_self, hask.of_decide⟩

lemma ended_serves (h : b.Decided vs) (hw : b.Serves w b') :
    ∀ x ∈ vs ++ [w], x.call = .timer .decide → ∃ u ∈ vs, u.call = .timer .stop := by
  intro x hx hc
  rcases List.mem_append.1 hx with hx | hx
  · exact h.ended x hx hc
  · obtain ⟨a, ha, hat⟩ := hw.exists_alarm (List.mem_singleton.1 hx ▸ hc)
    exact h.armed a ha hat

/-- After a decision clustering does not end again, so that there are no maps any more. -/
lemma maps_serves (h : b.Decided vs) (hw : b.Serves w b')
    (hd : ∃ x ∈ vs ++ [w], x.call = .timer .decide) : b'.node.MapFree := by
  rw [hw.node]
  by_cases hdecide : w.call = .timer .decide
  · exact b.node.mapFree_visit_decide hdecide
  · obtain ⟨x, hx, hc⟩ := hd
    have hx : x ∈ vs := by
      rcases List.mem_append.1 hx with hx | hx
      · exact hx
      · exact absurd (List.mem_singleton.1 hx ▸ hc) hdecide
    apply (h.maps ⟨x, hx, hc⟩).visit
    intro hstop
    obtain ⟨a, ha, hat⟩ := hw.exists_alarm hstop
    obtain ⟨u, hu, hus⟩ := h.ended x hx hc
    exact (h.closing.pending a ha hat).2.1 u hu hus

lemma serves (h : b.Decided vs) (hw : b.Serves w b') (hs : startsOnce (vs ++ [w])) :
    b'.Decided (vs ++ [w]) := by
  refine ⟨?_, h.keeps.serves hw, h.closing.serves rfl h.keeps hs hw, h.armed_serves hw, ?_,
    h.maps_serves hw⟩
  · rw [hw.node]
    exact h.signs.visit w
  · intro x hx hc
    obtain ⟨u, hu, hus⟩ := h.ended_serves hw x hx hc
    exact ⟨u, List.mem_append_left _ hu, hus⟩

end Decided

lemma Course.decided (hn : b₀.node.IsNew) (ha : b₀.alarms = []) (h : b₀.Course vs b)
    (hs : startsOnce vs) : b.Decided vs := by
  induction h with
  | nil => exact .of_isNew hn ha
  | snoc _ hw ih => exact (ih (startsOnce_snoc hs).1).serves hw hs

/-- At a bench that behaves well, at which the node is started once and clustering does not end
before it begins, stopping is final. From the end of clustering on, as long as the node is not asked
to form a cluster, clustering is over and the node does not say anything by which clusters are
formed. And from the decision on it does not send any map. -/
theorem stopping_is_final (hn : b₀.node.IsNew) (ha : b₀.alarms = [])
    (hb : ∀ stop, b₀.node.settings.clusteringStop = some stop →
      b₀.node.settings.clusteringStart ≤ stop)
    (h : b₀.run? vs = some b) (hw : b.attend? w = some b') (hs : startsOnce (vs ++ [w])) :
    (calledSince (.timer .stop) .formCluster (vs ++ [w]) →
      b'.node.clustering = false ∧
        ∀ e ∈ (b.node.visit w).outbox.effects, ∀ m ∈ e.messages, ¬ m.kind.isFormation) ∧
      ((∃ u ∈ vs ++ [w], u.call = .timer .decide) →
        ∀ e ∈ (b.node.visit w).outbox.effects, ∀ m ∈ e.messages, m.kind ≠ .densityMap) := by
  have hold := (startsOnce_snoc hs).1
  have hbounded := Bounded.run hn ha hb h hold
  have hdecided := (Course.of_run? h).decided hn ha hold
  have hserves := Serves.of_attend? hw
  constructor
  · intro hu
    refine ⟨(hbounded.retired_attend hw hu).clustering, ?_⟩
    intro e he m hm hk
    obtain ⟨t, -, hask⟩ := asked_of_mem he hm
    have hsend := hask.send_of_isFormation hdecided.signs hm hk
    rcases calledSince_snoc hu with hstop | ⟨-, hsince⟩
    · rw [hsend] at hstop
      cases hstop
    · have hr := hbounded.retired hsince
      rw [hr.outbox_visit hsend (hbounded.not_isOutspoken hr hserves hsend)] at he
      cases he
  · rintro ⟨x, hx, hc⟩ e he m hm hk
    obtain ⟨t, -, hask⟩ := asked_of_mem he hm
    obtain ⟨peer, p, hv, hp⟩ := hask.pending_of_densityMap hdecided.signs hm hk
    rcases List.mem_append.1 hx with hx | hx
    · cases (hdecided.maps ⟨x, hx, hc⟩ peer).symm.trans hp
    · rw [← List.mem_singleton.1 hx, hc] at hv
      cases hv

open Visit (rings hears)

/-- The visits of a head that hears of a foreign cluster just before clustering ends, sends it a map
time and again and gives that up with the decision. -/
def stoppingVisits : List Visit :=
  [⟨.start, Vec3.zero, 1, .start⟩, rings 0 3 .start, rings 100 5 .upkeep, rings 400 6 .upkeep,
    rings 700 7 .upkeep, rings 1000 8 .send, rings 1000 9 .upkeep, rings 1100 10 .electionCheck,
    rings 1200 11 .send,
    hears 1210 12 ⟨7⟩ (.clusterInfo 1 ((Record.lone ⟨7⟩ Vec3.zero .start).join ⟨9⟩)),
    rings 1250 13 .stop, rings 1264 15 (.retransmit ⟨9⟩ .densityMap),
    rings 1514 16 (.retransmit ⟨9⟩ .densityMap), rings 1764 17 (.retransmit ⟨9⟩ .densityMap),
    rings 2014 18 (.retransmit ⟨9⟩ .densityMap), rings 2250 19 .decide]

/-- The head of the foreign cluster makes itself known. -/
def lateGreeting : Visit :=
  hears 2300 20 ⟨9⟩ (.clusterInfo 1 (Record.lone ⟨9⟩ Vec3.zero .start).becomeHead)

/-- The head does not answer it any more. -/
theorem stopped_head_is_quiet : ∃ b₀ b b' : Bench, b₀.node.IsNew ∧ b₀.alarms = [] ∧
    (∀ stop, b₀.node.settings.clusteringStop = some stop →
      b₀.node.settings.clusteringStart ≤ stop) ∧
    b₀.run? stoppingVisits = some b ∧ b.attend? lateGreeting = some b' ∧
    startsOnce (stoppingVisits ++ [lateGreeting]) ∧ b.node.record.isHead ∧
    calledSince (.timer .stop) .formCluster (stoppingVisits ++ [lateGreeting]) ∧
    (∃ u ∈ stoppingVisits ++ [lateGreeting], u.call = .timer .decide) ∧
    (calledSince (.timer .stop) .formCluster (stoppingVisits ++ [lateGreeting]) →
      b'.node.clustering = false ∧ ∀ e ∈ (b.node.visit lateGreeting).outbox.effects,
        ∀ m ∈ e.messages, ¬ m.kind.isFormation) ∧
      ((∃ u ∈ stoppingVisits ++ [lateGreeting], u.call = .timer .decide) →
        ∀ e ∈ (b.node.visit lateGreeting).outbox.effects, ∀ m ∈ e.messages,
          m.kind ≠ .densityMap) := by
  have hrun : ((Node.create ⟨5⟩
      { Settings.standard with clusteringStop := some (Duration.ofMillis 1250) } false none
        ).toOption.any fun n =>
      n.settings.clusteringStop.all (fun stop => decide (n.settings.clusteringStart ≤ stop)) &&
        ((Bench.setUp n Vec3.zero).run? stoppingVisits).any fun b =>
          b.node.record.isHead && (b.attend? lateGreeting).isSome) = true := by decide +kernel
  simp only [Option.any_eq_true, Option.all_eq_true, Bool.and_eq_true, decide_eq_true_eq,
    Option.isSome_iff_exists] at hrun
  obtain ⟨n, hn, hbounds, b, hb, hh, b', hw⟩ := hrun
  have hs : startsOnce (stoppingVisits ++ [lateGreeting]) := by decide
  have hstop : calledSince (.timer .stop) .formCluster (stoppingVisits ++ [lateGreeting]) :=
    ⟨stoppingVisits.take 10, _, stoppingVisits.drop 11 ++ [lateGreeting], rfl, rfl, by decide⟩
  exact ⟨.setUp n Vec3.zero, b, b', .of_toOption hn, rfl, hbounds, hb, hw, hs, hh, hstop, by decide,
    stopping_is_final (.of_toOption hn) rfl hbounds hb hw hs⟩

end Bench

end ClusterWave
