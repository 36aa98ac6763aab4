import ClusterWave.Proofs.Bench.Serve
import ClusterWave.Proofs.Peer.Registry
import ClusterWave.Proofs.Node.Stride

/-!
# Candidates

A node that runs for head stands alone, and it gives its candidacy up when it joins a cluster. There
is one exception: the record of a neighbor that arrives in the middle of the election may let the
node settle with a head that it hears. It has joined the cluster then, but its candidacy stays, and
with the next transmission it leads a cluster of its own after all. `Turn.diverts` says exactly when
this comes about, and in runs in which it does not every candidate stands alone.
-/

namespace ClusterWave

/-- A node that runs for head does not belong to any cluster. -/
def Node.Candid (n : Node) : Prop := n.status = .headElection → n.record.isStandalone

/-! ### Diversions -/

namespace Turn

/-- Whether a message lets a candidate settle with a head, without an end of its candidacy. -/
def diverts (t : Turn) : Message → Bool
  | .clusterInfo _ r =>
    t.node.status = .headElection && t.node.record.isStandalone &&
      t.node.inRange (r.stamp t.now) &&
        (t.node.registry.hear (r.stamp t.now)).highestHead?.isSome
  | _ => false

/-- Whether one of some messages does so when they are handled in turn. -/
def divertsAmong (sender : NodeId) : Turn → List Message → Bool
  | _, [] => false
  | t, m :: ms => t.diverts m || divertsAmong sender (t.onMessage sender m) ms

end Turn

namespace Node

/-- Whether a message of a visit diverts the node. -/
def diverts (n : Node) (v : Visit) : Bool :=
  match v.call with
  | .packet sender packet =>
    Turn.divertsAmong sender (Turn.start n v.now v.position v.nextHandle).receive packet.messages
  | _ => false

/-- Whether none of some visits diverts the node. -/
def undiverted (n : Node) : List Visit → Bool
  | [] => true
  | v :: vs => !n.diverts v && undiverted (n.visit v).node vs

/-! ### Strides -/

lemma Candid.of_ne {n : Node} (h : n.status ≠ .headElection) : n.Candid := by
  intro hs
  exact absurd hs h

end Node

namespace Turn

variable {t t' : Turn}

lemma Beside.candid (hb : t.Beside t') (h : t.node.Candid) : t'.node.Candid := by
  intro hs
  rw [Record.isStandalone, hb.degree]
  rcases hb.status with hst | hst
  · exact h (hst ▸ hs)
  · rw [hs] at hst
    cases hst

lemma candid_queueSend (h : t.node.Candid) (d : Duration) : (t.queueSend d).node.Candid := by
  rw [node_queueSend]
  exact h

/-- Another status than that of a candidate, and a transmission for it. -/
lemma candid_setStatus_queueSend (t : Turn) {s : Status} (hs : s ≠ .headElection) (d : Duration) :
    ((t.setStatus s).queueSend d).node.Candid := by
  apply candid_queueSend
  exact .of_ne hs

lemma candid_beginClustering (t : Turn) : t.beginClustering.node.Candid := by
  simp only [beginClustering]
  rw [node_arm, node_disarm]
  exact candid_queueSend (t := t.edit fun n => { n with clustering := true, status := .init })
    (.of_ne (by intro hs; cases hs)) _

lemma candid_sendUpdate (h : t.node.Candid) : t.sendUpdate.node.Candid := by
  simp only [sendUpdate]
  apply candid_queueSend
  exact ((Beside.updateMessages t).trans (.packets _ _)).candid h

lemma candid_transmit (h : t.node.Candid) : t.transmit.node.Candid := by
  simp only [transmit]
  split
  · rename_i hs
    apply Node.Candid.of_ne
    simp only [sendGreeting]
    rw [node_arm, node_disarm]
    exact fun he => Status.noConfusion (hs.symm.trans he)
  · exact candid_setStatus_queueSend _ (by decide) _
  · exact candid_setStatus_queueSend _ (by decide) _
  · split
    · exact candid_sendUpdate h
    · exact h
  · exact h

/-- A node begins its candidacy only when it stands alone. -/
lemma candid_checkElection (h : t.node.Candid) : t.checkElection.node.Candid := by
  simp only [checkElection]
  split
  · exact h
  · split
    · exact candid_setStatus_queueSend _ (by decide) _
    · rename_i hr
      have hr : t.node.record.isStandalone := by simpa using hr
      split
      · apply candid_queueSend
        intro _
        exact hr
      · exact candid_queueSend h _

end Turn

lemma Record.isStandalone_leave_if {r : Record} (h : r.isStandalone) (b : Bool) :
    (if b then r.leave else r).isStandalone := by
  split
  · rfl
  · exact h

lemma Registry.isStandalone_prune {g : Registry} {r : Record} {now : Timestamp}
    {timeout : Duration} (h : r.isStandalone)
    (hb : (g.prune r now timeout).2.2.becameHead = false) :
    (g.prune r now timeout).2.1.isStandalone := by
  simp only [prune] at hb ⊢
  rw [if_neg (Bool.eq_false_iff.1 hb)]
  exact Record.isStandalone_leave_if h _

/-- Upkeep leaves a node that stands alone as it is, or lets it lead. -/
lemma Registry.isStandalone_maintain {g : Registry} {r : Record} {now : Timestamp}
    {timeout : Duration} (h : r.isStandalone)
    (hb : (g.maintain r now timeout).2.2.becameHead = false) :
    (g.maintain r now timeout).2.1.isStandalone :=
  Record.isStandalone_leave_if (isStandalone_prune h hb) _

namespace Turn

variable {t t' : Turn}

lemma candid_upkeep (h : t.node.Candid) : t.upkeep.node.Candid := by
  simp only [upkeep]
  split
  · simp only [afterUpkeep]
    split
    · exact candid_setStatus_queueSend _ (by decide) _
    · rename_i hb
      split
      · exact candid_setStatus_queueSend _ (by decide) _
      · intro hs
        exact Registry.isStandalone_maintain (h hs) (Bool.not_eq_true _ ▸ hb)
  · exact h

/-- A node that belongs to a cluster is no candidate, so its status is not that of one when it
changes to another cluster. -/
lemma candid_merge (h : t.node.Candid) (hr : ¬ t.node.record.isStandalone) :
    t.merge.node.Candid := by
  have hs : t.node.status ≠ .headElection := fun hs => hr (h hs)
  simp only [merge]
  split
  · exact h
  · split
    · exact .of_ne hs
    · exact h

lemma candid_endClustering (h : t.node.Candid) : t.endClustering.node.Candid := by
  obtain ⟨u, hu, hb⟩ := t.exists_beside_endClustering
  apply hb.candid
  rw [hu]
  exact h

end Turn

/-- Only what neighbors tell about themselves may divert a candidate. -/
lemma Stride.candid {v : Visit} {t t' : Turn} (s : Stride v t t')
    (hv : ∀ seq r, ¬ v.Brings (.clusterInfo seq r)) (h : t.node.Candid) : t'.node.Candid := by
  cases s with
  | beside hb => exact hb.candid h
  | beginClustering => exact Turn.candid_beginClustering t
  | endClustering => exact Turn.candid_endClustering h
  | formCluster => exact Turn.candid_setStatus_queueSend _ (by decide) _
  | transmit => exact Turn.candid_transmit (t := t.setSlot .send none) h
  | checkElection => exact Turn.candid_checkElection (t := t.setSlot .election none) h
  | upkeep => exact Turn.candid_upkeep (t := t.setSlot .upkeep none) h
  | hear | note => exact h
  | join => exact Turn.candid_setStatus_queueSend _ (by decide) _
  | enrol hm | settle hm | merge hm => exact absurd hm (hv _ _)

lemma Strides.candid {v : Visit} {t t' : Turn} (hs : Strides v t t')
    (hv : ∀ seq r, ¬ v.Brings (.clusterInfo seq r)) (h : t.node.Candid) : t'.node.Candid :=
  hs.induct (P := fun t => t.node.Candid) h fun _ _ h s => s.candid hv h

/-! ### The record of a neighbor -/

namespace Turn

variable {t : Turn}

lemma candid_noteForeign_iff (t : Turn) (r : Record) :
    (t.noteForeign r).node.Candid ↔ t.node.Candid := by
  simp only [noteForeign]
  split
  · rfl
  · split <;> rfl

/-- A candidate that settles remains one exactly if there is a head to settle with. -/
lemma candid_settle_iff (t : Turn) : t.settle.node.Candid ↔
    ¬ (t.node.status = .headElection ∧ t.node.registry.highestHead?.isSome) := by
  simp only [settle]
  cases hh : t.node.registry.highestHead? with
  | none => simpa using candid_setStatus_queueSend _ (by decide) _
  | some head =>
    constructor
    · rintro hc ⟨hs, -⟩
      exact Record.not_isStandalone_join _ _ (hc hs)
    · intro hn hs
      exact absurd ⟨hs, rfl⟩ hn

/-- What the record of a neighbor means for a candidate. -/
lemma candid_weighNeighbor_iff (h : t.node.Candid) (r : Record) :
    (t.weighNeighbor r).node.Candid ↔
      ¬ (t.node.status = .headElection ∧ t.node.registry.highestHead?.isSome) := by
  by_cases hs : t.node.status = .headElection
  · have hw : t.weighNeighbor r = t.settle := by
      simp only [weighNeighbor, hs]
      exact if_pos (h hs)
    rw [hw]
    exact candid_settle_iff t
  · have hn : ¬ (t.node.status = .headElection ∧ t.node.registry.highestHead?.isSome) :=
      fun hn => hs hn.1
    refine iff_of_true ?_ hn
    simp only [weighNeighbor]
    split
    · split
      · exact candid_setStatus_queueSend _ (by decide) _
      · exact h
    · split
      · exact (candid_settle_iff t).2 hn
      · rename_i hr
        split
        · exact h
        · split
          · exact candid_merge h hr
          · exact h
    · rename_i hs'
      exact absurd hs' hs
    · exact h

lemma candid_onClusterInfo_iff (h : t.node.Candid) (seq : UInt64) (r : Record) :
    (t.onClusterInfo (r.stamp t.now)).node.Candid ↔ t.diverts (.clusterInfo seq r) = false := by
  simp only [onClusterInfo, diverts]
  by_cases hr : t.node.inRange (r.stamp t.now)
  · rw [if_pos hr, candid_noteForeign_iff, candid_weighNeighbor_iff
      (t := t.setRegistry (t.node.registry.hear (r.stamp t.now))) h]
    by_cases hs : t.node.status = .headElection
    · have ha : t.node.record.isStandalone := h hs
      simp [setRegistry, edit, hs, ha, hr]
    · simp [setRegistry, edit, hs]
  · rw [if_neg hr]
    simpa [hr] using h

/-- A message leaves a candidate where it is or ends its candidacy, unless it diverts it. -/
lemma candid_onMessage_iff (h : t.node.Candid) (sender : NodeId) (m : Message) :
    (t.onMessage sender m).node.Candid ↔ t.diverts m = false := by
  have others (hm : ∀ seq r, m ≠ .clusterInfo seq r) : (t.onMessage sender m).node.Candid := by
    have hb : (t.hearing sender m).Brings m := List.mem_singleton.2 rfl
    apply (Strides.onMessage sender t hb).candid ?_ h
    intro seq r hb'
    exact hm seq r (List.mem_singleton.1 hb').symm
  cases m with
  | clusterInfo seq r => exact candid_onClusterInfo_iff h seq r
  | _ => exact iff_of_true (others (by intro _ _ hm; cases hm)) rfl

lemma candid_foldl (sender : NodeId) {ms : List Message} (h : t.node.Candid)
    (hd : divertsAmong sender t ms = false) : (ms.foldl (onMessage sender) t).node.Candid := by
  induction ms generalizing t with
  | nil => exact h
  | cons m ms ih =>
    simp only [divertsAmong, Bool.or_eq_false_iff] at hd
    exact ih ((candid_onMessage_iff h sender m).2 hd.1) hd.2

lemma candid_noteRole_iff (t : Turn) (before : Degree × Option NodeId) :
    (t.noteRole before).node.Candid ↔ t.node.Candid := by
  rw [node_noteRole]
  rfl

/-- A candidate leads with its next transmission, whatever its role is. -/
lemma isHead_transmit (hs : t.node.status = .headElection) : t.transmit.node.record.isHead := by
  simp only [transmit, hs, sendCandidacy, clusterFormed]
  rw [node_queueSend]
  rfl

end Turn

/-! ### Visits -/

namespace Node

variable {n : Node} {v : Visit}

lemma Candid.visit (h : n.Candid) (hd : n.diverts v = false) : (n.visit v).node.Candid := by
  have others (hv : ∀ sender packet, v.call ≠ .packet sender packet) : (n.visit v).node.Candid := by
    apply (strides_visit n v).candid ?_ h
    intro seq r hb
    obtain ⟨sender, packet, hp, -⟩ := Visit.brings_iff.1 hb
    exact hv sender packet hp
  cases hc : v.call with
  | packet sender packet =>
    simp only [diverts, hc] at hd
    simp only [Node.visit]
    rw [hc]
    apply (Turn.candid_noteRole_iff _ _).2
    exact Turn.candid_foldl sender (t := (Turn.start n v.now v.position v.nextHandle).receive) h hd
  | _ =>
    apply others
    intro sender packet hp
    rw [hp] at hc
    cases hc

lemma Candid.after {vs : List Visit} (h : n.Candid) (hd : n.undiverted vs) :
    (n.after vs).Candid := by
  induction vs generalizing n with
  | nil => exact h
  | cons v vs ih =>
    simp only [undiverted, Bool.and_eq_true, Bool.not_eq_true'] at hd
    exact ih (h.visit hd.1) hd.2

/-- A message that diverts a candidate lets it join a cluster and stay a candidate. -/
lemma Candid.visit_of_diverts (h : n.Candid) {sender : NodeId} {m : Message}
    (hv : v.call = .packet sender (Packet.single m)) (hd : n.diverts v) :
    (n.visit v).node.status = .headElection ∧ ¬ (n.visit v).node.record.isStandalone := by
  apply Classical.not_imp.1
  intro hc
  simp only [Node.visit] at hc
  rw [hv] at hc
  have hm := (Turn.candid_onMessage_iff
    (t := (Turn.start n v.now v.position v.nextHandle).receive) h sender m).1
    ((Turn.candid_noteRole_iff _ _).1 hc)
  simp only [diverts, hv] at hd
  simp [Packet.single, Turn.divertsAmong, hm] at hd

lemma isHead_visit_send (hs : n.status = .headElection) (hv : v.call = .timer .send) :
    (n.visit v).node.record.isHead := by
  simp only [Node.visit]
  rw [hv]
  simp only [Turn.handle, Turn.onTimer, Turn.fire]
  rw [Turn.node_noteRole]
  apply Turn.isHead_transmit
  exact hs

/-- Whatever a new node is called for, in any order and at any times, it stands alone whenever it
runs for head, as long as no record of a neighbor diverts it. As soon as one does, the node belongs
to a cluster and runs for head, and with its next transmission it leads all the same. -/
theorem candidate_stands_alone_unless_diverted (hn : n.IsNew) {vs : List Visit}
    (hd : n.undiverted vs) :
    ((n.after vs).status = .headElection → (n.after vs).record.isStandalone) ∧
      ∀ (v w : Visit) (sender : NodeId) (m : Message),
        v.call = .packet sender (Packet.single m) → w.call = .timer .send →
          (n.after vs).diverts v →
            ((n.after vs).visit v).node.status = .headElection ∧
              ¬ ((n.after vs).visit v).node.record.isStandalone ∧
              (((n.after vs).visit v).node.visit w).node.record.isHead := by
  have hnew : n.Candid := fun _ => hn.waiting.2.2
  have hc : (n.after vs).Candid := hnew.after hd
  refine ⟨hc, ?_⟩
  intro v w sender m hv hw hdv
  obtain ⟨hs, hr⟩ := hc.visit_of_diverts hv hdv
  exact ⟨hs, hr, isHead_visit_send hs hw⟩

/-- The visits of a node on its own, until it runs for head. -/
def loneCandidacy : List Visit :=
  [⟨.start, Vec3.zero, 1, .start⟩, ⟨.start, Vec3.zero, 2, .timer .start⟩,
    ⟨.ofMillis 100, Vec3.zero, 4, .timer .upkeep⟩, ⟨.ofMillis 400, Vec3.zero, 5, .timer .upkeep⟩,
    ⟨.ofMillis 700, Vec3.zero, 6, .timer .upkeep⟩, ⟨.ofSecs 1, Vec3.zero, 7, .timer .send⟩,
    ⟨.ofSecs 1, Vec3.zero, 8, .timer .upkeep⟩, ⟨.ofMillis 1100, Vec3.zero, 9, .timer .electionCheck⟩]

/-- A head that is near makes itself known in the middle of the election. -/
def headNearby : Visit :=
  ⟨.ofMillis 1150, Vec3.zero, 10,
    .packet ⟨9⟩ (Packet.single (.clusterInfo 1 (Record.lone ⟨9⟩ Vec3.zero .start).becomeHead))⟩

/-- The transmission of the candidacy is due. -/
def candidacyDue : Visit := ⟨.ofMillis 1200, Vec3.zero, 10, .timer .send⟩

/-- Nothing diverts a node on its own before it runs for head, but then a head nearby does. -/
theorem head_nearby_diverts_candidate : ∃ n : Node, n.IsNew ∧ n.undiverted loneCandidacy ∧
    (n.after loneCandidacy).status = .headElection ∧ (n.after loneCandidacy).diverts headNearby ∧
      ((n.after loneCandidacy).status = .headElection →
        (n.after loneCandidacy).record.isStandalone) ∧
        ∀ (v w : Visit) (sender : NodeId) (m : Message),
          v.call = .packet sender (Packet.single m) → w.call = .timer .send →
            (n.after loneCandidacy).diverts v →
              ((n.after loneCandidacy).visit v).node.status = .headElection ∧
                ¬ ((n.after loneCandidacy).visit v).node.record.isStandalone ∧
                (((n.after loneCandidacy).visit v).node.visit w).node.record.isHead := by
  have hrun : ((Node.create ⟨1⟩ Settings.standard false none).toOption.any fun n =>
      n.undiverted loneCandidacy && decide ((n.after loneCandidacy).status = .headElection) &&
        (n.after loneCandidacy).diverts headNearby) = true := by decide +kernel
  simp only [Option.any_eq_true, Bool.and_eq_true, decide_eq_true_eq] at hrun
  obtain ⟨n, hn, ⟨hd, hs⟩, hdv⟩ := hrun
  exact ⟨n, .of_toOption hn, hd, hs, hdv,
    candidate_stands_alone_unless_diverted (.of_toOption hn) hd⟩

end Node

/-- At a bench that behaves well, a candidate joins the cluster of a head nearby and becomes a head
itself with the transmission that it had queued before. -/
theorem Bench.member_runs_for_head : ∃ b₀ b b' : Bench,
    b₀.node.IsNew ∧ b₀.alarms = [] ∧ b₀.run? (Node.loneCandidacy ++ [Node.headNearby]) = some b ∧
      b.node.status = .headElection ∧ b.node.record.isMember ∧
      b.attend? Node.candidacyDue = some b' ∧ b'.node.record.isHead := by
  have hrun : ((Node.create ⟨1⟩ Settings.standard false none).toOption.any fun n =>
      ((Bench.setUp n Vec3.zero).run? (Node.loneCandidacy ++ [Node.headNearby])).any fun b =>
        decide (b.node.status = .headElection) && b.node.record.isMember &&
          (b.attend? Node.candidacyDue).any fun b' => b'.node.record.isHead) = true := by
    decide +kernel
  simp only [Option.any_eq_true, Bool.and_eq_true, decide_eq_true_eq] at hrun
  obtain ⟨n, hn, b, hb, ⟨hs, hm⟩, b', hb', hh⟩ := hrun
  exact ⟨.setUp n Vec3.zero, b, b', .of_toOption hn, rfl, hb, hs, hm, hb', hh⟩

end ClusterWave
