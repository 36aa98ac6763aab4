import ClusterWave.Proofs.Bench.Course
import ClusterWave.Proofs.Bench.Match
import ClusterWave.Proofs.Node.Stride
import ClusterWave.Proofs.Peer.Registry

/-!
# Nodes and their neighborhoods

The registry of a node fits its role. There are two ways to join a cluster that do not ask for the
role of the node, while it waits for clustering and while it runs for head; so that a head does not
give up its members, it must not be in either of these states. It is not, provided that it has not
become a head before clustering begins. Nothing lets it: no upkeep is armed by then and no election,
and a node that has joined a cluster early stays a member.
-/

namespace ClusterWave

/-- What neighbors may say to a node: nobody speaks for the node itself, and a candidate runs for a
cluster of its own. -/
def Message.isFair (id : NodeId) : Message → Bool
  | .clusterInfo _ r => r.id ≠ id
  | .initiateCluster _ cluster r => r.id ≠ id ∧ cluster = r.id
  | .formCluster _ r => r.id ≠ id
  | _ => true

/-- Whether only such messages arrive with a visit. -/
def Visit.Fair (v : Visit) (id : NodeId) : Prop := ∀ m ∈ v.messages, m.isFair id

instance (v : Visit) (id : NodeId) : Decidable (v.Fair id) :=
  inferInstanceAs (Decidable (∀ m ∈ v.messages, m.isFair id))

/-- What the registry of a node and its status tell about its role. -/
structure Node.Grounded (n : Node) : Prop where
  fits : n.registry.Fits n.record
  leads : n.record.isHead → n.status ≠ .init ∧ n.status ≠ .headElection

/-- A node for which clustering has not begun: it does not lead, though it may have joined a cluster
already, and nothing is armed that could make it a head. -/
structure Node.Early (n : Node) : Prop where
  clustering : n.clustering = false
  follows : ¬ n.record.isHead
  status : n.status ≠ .headElection ∧ n.status ≠ .formation
  joined : n.status = .update → ¬ n.record.isStandalone
  quiet : n.status = .init → n.slots.send = none
  election : n.slots.election = none
  upkeep : n.slots.upkeep = none

variable {n : Node} {v : Visit} {t t' : Turn} {head : NodeId}

namespace Visit.Fair

variable {id : NodeId} {r : Record}

lemma others (h : v.Fair id) (hr : v.Tells r) : r.id ≠ id := by
  cases hr with
  | clusterInfo hm => exact of_decide_eq_true (h _ hm)
  | initiateCluster hm => exact (of_decide_eq_true (h _ hm)).1
  | formCluster hm => exact of_decide_eq_true (h _ hm)

lemma candidate {seq : UInt64} {cluster : NodeId} (h : v.Fair id)
    (hm : v.Brings (.initiateCluster seq cluster r)) : cluster = r.id :=
  (of_decide_eq_true (h _ hm)).2

lemma contains_of_invites {g : Registry} (h : v.Fair id) (hi : v.Invites r head)
    (hn : g.neighbors.contains r.id) : g.neighbors.contains head := by
  cases hi with
  | initiateCluster hm => exact h.candidate hm ▸ hn
  | _ => exact hn

end Visit.Fair

/-! ### What steps make of role, registry and status -/

/-- The parts of a node that tell about its neighborhood. -/
def Node.core (n : Node) : Record × Registry × Status := (n.record, n.registry, n.status)

lemma Node.Grounded.of_core {n' : Node} (h : n.Grounded) (hc : n'.core = n.core) :
    n'.Grounded := by
  obtain ⟨hr, hg, hs⟩ : n'.record = n.record ∧ n'.registry = n.registry ∧ n'.status = n.status := by
    simpa [Node.core] using hc
  constructor
  · rw [hr, hg]
    exact h.fits
  · rw [hr, hs]
    exact h.leads

/-- A node may take on a status in which it does not wait for clustering. -/
lemma Node.Grounded.of_fits {n' : Node} {r : Record} {g : Registry} {s : Status} (h : g.Fits r)
    (hs : s ≠ .init ∧ s ≠ .headElection) (hc : n'.core = (r, g, s)) : n'.Grounded := by
  obtain ⟨rfl, rfl, rfl⟩ : n'.record = r ∧ n'.registry = g ∧ n'.status = s := by
    simpa [Node.core] using hc
  exact ⟨h, fun _ => hs⟩

/-- A node that does not lead may take on any status. -/
lemma Node.Grounded.of_follows {n' : Node} {r : Record} {g : Registry} {s : Status} (h : g.Fits r)
    (hr : ¬ r.isHead) (hc : n'.core = (r, g, s)) : n'.Grounded := by
  obtain ⟨rfl, rfl, rfl⟩ : n'.record = r ∧ n'.registry = g ∧ n'.status = s := by
    simpa [Node.core] using hc
  exact ⟨h, fun hh => absurd hh hr⟩

namespace Turn

lemma core_queueSend (t : Turn) (d : Duration) : (t.queueSend d).node.core = t.node.core := by
  rw [node_queueSend]
  rfl

lemma core_disarm (t : Turn) (slot : Slot) : (t.disarm slot).node.core = t.node.core := by
  rw [node_disarm]
  rfl

lemma core_beginClustering (t : Turn) :
    t.beginClustering.node.core = (t.node.record, t.node.registry, .init) := by
  simp only [beginClustering]
  rw [node_arm, node_disarm]
  exact core_queueSend _ _

lemma core_formCluster (t : Turn) :
    t.formCluster.node.core = (t.node.record, t.node.registry, .formation) := by
  simp only [formCluster]
  rw [core_queueSend]
  show ((t.disarm .election).node.core.1, (t.disarm .election).node.core.2.1, Status.formation) = _
  rw [core_disarm]
  rfl

lemma core_join (t : Turn) (head : NodeId) : (t.join head).node.core =
    (t.node.record.join head, t.node.registry.forgetCluster head, .update) := by
  simp only [join]
  rw [core_queueSend]
  show ((t.disarm .election).node.core.1.join head,
    (t.disarm .election).node.core.2.1.forgetCluster head, Status.update) = _
  rw [core_disarm]
  rfl

lemma core_sendGreeting (t : Turn) : t.sendGreeting.node.core = t.node.core := by
  simp only [sendGreeting]
  rw [node_arm]
  exact core_disarm _ _

lemma core_sendCandidacy (t : Turn) : t.sendCandidacy.node.core =
    (t.node.record.becomeHead, t.node.registry, .update) := core_queueSend _ _

lemma core_sendFormation (t : Turn) : t.sendFormation.node.core =
    (t.node.record.becomeHead, t.node.registry, .update) := core_queueSend _ _

end Turn

/-! ### Strides -/

namespace Turn

lemma Beside.isHead (hb : t.Beside t') : t'.node.record.isHead = t.node.record.isHead :=
  congrArg (· == Degree.head) hb.degree

lemma Beside.grounded (hb : t.Beside t') (h : t.node.Grounded) : t'.node.Grounded := by
  constructor
  · exact h.fits.congr (congrArg Stance.neighbors hb.stance) (congrArg Stance.members hb.stance)
      (congrArg Stance.id hb.stance) (congrArg Stance.role hb.stance)
  · intro hh
    rcases hb.status with hs | hs
    · rw [hs]
      exact h.leads (hb.isHead ▸ hh)
    · constructor <;> intro he <;> rw [he] at hs <;> cases hs

lemma grounded_endClustering (h : t.node.Grounded) : t.endClustering.node.Grounded := by
  obtain ⟨u, hu, hb⟩ := t.exists_beside_endClustering
  apply hb.grounded
  rw [hu]
  exact h.of_core rfl

lemma grounded_transmit (h : t.node.Grounded) : t.transmit.node.Grounded := by
  have hupdate : Status.update ≠ .init ∧ Status.update ≠ .headElection := by decide
  simp only [transmit]
  split
  · exact h.of_core t.core_sendGreeting
  · exact .of_fits h.fits.becomeHead hupdate t.core_sendCandidacy
  · exact .of_fits h.fits.becomeHead hupdate t.core_sendFormation
  · split
    · simp only [sendUpdate]
      exact (((Beside.updateMessages t).trans (.packets _ _)).grounded h).of_core
        (core_queueSend _ _)
    · exact h
  · exact h

lemma grounded_checkElection (h : t.node.Grounded) : t.checkElection.node.Grounded := by
  simp only [checkElection]
  split
  · exact h
  · rename_i hs
    have hs : t.node.status = .init := not_not.1 hs
    have hr : ¬ t.node.record.isHead := fun hh => (h.leads hh).1 hs
    split
    · exact .of_follows h.fits hr (core_queueSend (t.setStatus .update) _)
    · split
      · exact .of_follows h.fits hr (core_queueSend (t.setStatus .headElection) _)
      · exact h.of_core (core_queueSend _ _)

end Turn

/-! ### Upkeep -/

/-- Who leads after the changes of role that upkeep may make has led before, unless the change is to
lead. -/
lemma Record.isHead_of_changes {r : Record} {lost became orphaned : Bool}
    (h : (if orphaned then
        (if became then (if lost then r.leave else r).becomeHead
          else if lost then r.leave else r).leave
      else if became then (if lost then r.leave else r).becomeHead
        else if lost then r.leave else r).isHead) :
    became ∨ r.isHead ∧ lost = false := by
  cases orphaned with
  | true => cases h
  | false =>
    cases became with
    | true => exact .inl rfl
    | false =>
      cases lost with
      | true => cases h
      | false => exact .inr ⟨h, rfl⟩

lemma Registry.isHead_of_maintain {g : Registry} {r : Record} {now : Timestamp}
    {timeout : Duration} (h : (g.maintain r now timeout).2.1.isHead) :
    (g.maintain r now timeout).2.2.becameHead ∨
      r.isHead ∧ (g.maintain r now timeout).2.2.lostHead = false := Record.isHead_of_changes h

/-- A head stays one in upkeep. -/
lemma Registry.isHead_maintain {g : Registry} {r : Record} (h : r.isHead) (now : Timestamp)
    (timeout : Duration) : (g.maintain r now timeout).2.1.isHead := by
  have hm : r.isMember = false := by
    rw [Bool.eq_false_iff]
    intro hm
    exact Record.not_isHead_of_isMember hm h
  simp [maintain, prune, h, hm]

namespace Turn

lemma core_afterUpkeep (t : Turn) (u : Upkeep) : (t.afterUpkeep u).node.core =
    (t.node.record, t.node.registry,
      if u.becameHead then .update else if u.lostHead then .init else t.node.status) := by
  simp only [afterUpkeep]
  split
  · exact core_queueSend _ _
  · split
    · exact core_queueSend _ _
    · rfl

/-- What a round of upkeep makes of the registry and the record, as long as clusters are being
formed. -/
def maintained (t : Turn) : Registry × Record × Upkeep :=
  t.node.registry.maintain t.node.record t.now t.node.settings.timeout

lemma core_upkeep (hc : t.node.clustering) : t.upkeep.node.core =
    (t.maintained.2.1, t.maintained.1, if t.maintained.2.2.becameHead then .update
      else if t.maintained.2.2.lostHead then .init else t.node.status) := by
  simp only [upkeep, if_pos hc]
  exact core_afterUpkeep _ _

lemma grounded_upkeep (h : t.node.Grounded) : t.upkeep.node.Grounded := by
  cases hc : t.node.clustering with
  | false =>
    rw [upkeep_of_idle hc]
    exact h
  | true =>
    have hfits : t.maintained.1.Fits t.maintained.2.1 :=
      h.fits.maintain t.now t.node.settings.timeout
    have hcore := core_upkeep hc
    by_cases hb : t.maintained.2.2.becameHead
    · rw [if_pos hb] at hcore
      exact .of_fits hfits (by decide) hcore
    · rw [if_neg hb] at hcore
      by_cases hh : t.maintained.2.1.isHead
      · obtain ⟨hr, hl⟩ := (Registry.isHead_of_maintain hh).resolve_left hb
        have hlost : t.maintained.2.2.lostHead = false := hl
        rw [if_neg (by rw [hlost]; exact Bool.false_ne_true)] at hcore
        exact .of_fits hfits (h.leads hr) hcore
      · exact .of_follows hfits hh hcore

/-! ### Messages of neighbors -/

lemma grounded_join (h : t.node.Grounded) (hn : t.node.registry.neighbors.contains head)
    (hs : t.node.status = .init ∨ t.node.status = .headElection) : (t.join head).node.Grounded := by
  have hr : ¬ t.node.record.isHead := by
    intro hh
    rcases hs with hs | hs
    · exact (h.leads hh).1 hs
    · exact (h.leads hh).2 hs
  have hj := h.fits.join (h.fits.isEmpty_members hr) hn
  exact .of_fits (hj.forgetCluster head) (by decide) (t.core_join head)

lemma grounded_settle (h : t.node.Grounded) (hr : t.node.record.isStandalone) :
    t.settle.node.Grounded := by
  have hh : ¬ t.node.record.isHead := Record.not_isHead_of_isStandalone hr
  simp only [settle]
  split
  · rename_i head hhead
    have hn := h.fits.highestHead hhead
    exact .of_follows (h.fits.join (h.fits.isEmpty_members hh) hn)
      (Record.not_isHead_join (h.fits.ne_own hn)) rfl
  · exact .of_fits (s := .update) h.fits.becomeHead (by decide) (core_queueSend _ _)

lemma grounded_merge (h : t.node.Grounded) (he : t.node.registry.members.isEmpty) :
    t.merge.node.Grounded := by
  simp only [merge]
  split
  · exact h
  · rename_i head hhead
    split
    · have hn := h.fits.highestHead hhead
      have hj := h.fits.join he hn
      exact .of_follows (hj.forgetCluster head) (Record.not_isHead_join (h.fits.ne_own hn)) rfl
    · exact h

end Turn

/-- A stride keeps the neighborhood in order, provided that clustering does not begin at a head. -/
lemma Stride.grounded (s : Stride v t t') (hv : v.Fair t.node.record.id)
    (hb : v.call = .timer .start → ¬ t.node.record.isHead) (h : t.node.Grounded) :
    t'.node.Grounded := by
  cases s with
  | beside hb => exact hb.grounded h
  | beginClustering hc => exact .of_follows h.fits (hb hc) t.core_beginClustering
  | endClustering => exact Turn.grounded_endClustering h
  | formCluster => exact .of_fits h.fits (by decide) t.core_formCluster
  | transmit => exact Turn.grounded_transmit (t := t.setSlot .send none) (h.of_core rfl)
  | checkElection =>
    exact Turn.grounded_checkElection (t := t.setSlot .election none) (h.of_core rfl)
  | upkeep => exact Turn.grounded_upkeep (t := t.setSlot .upkeep none) (h.of_core rfl)
  | @hear r hr =>
    have hne : r.id ≠ t.node.record.id := hv.others hr
    exact ⟨h.fits.hear (r := r.stamp t.now) hne, h.leads⟩
  | enrol hm hn hh hc =>
    exact ⟨h.fits.enrol (Table.contains_of_get? hn) hh (beq_iff_eq.1 hc), h.leads⟩
  | note => exact ⟨h.fits.noteCluster _ _ _, h.leads⟩
  | join hi hn hs => exact Turn.grounded_join h (hv.contains_of_invites hi hn) hs
  | settle hm hs hr => exact Turn.grounded_settle h hr
  | merge hm hs hr he => exact Turn.grounded_merge h he

/-! ### Before clustering begins -/

namespace Node

lemma Early.of_beside (h : t.node.Early) (hb : t.Beside t') : t'.node.Early := by
  have hd : t'.node.record.degree = t.node.record.degree := hb.degree
  have hsend : t'.node.slots.send = t.node.slots.send := congrArg Stance.send hb.stance
  have helection : t'.node.slots.election = none :=
    (congrArg Stance.election hb.stance).trans h.election
  have hupkeep : t'.node.slots.upkeep = none := (congrArg Stance.upkeep hb.stance).trans h.upkeep
  have hclustering : t'.node.clustering = false := hb.clustering.trans h.clustering
  have hfollows : ¬ t'.node.record.isHead := by
    rw [Record.isHead, hd]
    exact h.follows
  rcases hb.status with hs | hs
  · refine ⟨hclustering, hfollows, ?_, ?_, ?_, helection, hupkeep⟩
    · rw [hs]
      exact h.status
    · rw [hs, Record.isStandalone, hd]
      exact h.joined
    · rw [hs, hsend]
      exact h.quiet
  · have hne (s : Status) (hc : s.isClustering) : t'.node.status ≠ s := by
      rintro rfl
      rw [hs] at hc
      cases hc
    exact ⟨hclustering, hfollows, ⟨hne _ rfl, hne _ rfl⟩, fun he => absurd he (hne _ rfl),
      fun he => absurd he (hne _ rfl), helection, hupkeep⟩

lemma Early.endClustering (h : t.node.Early) : t.endClustering.node.Early := by
  obtain ⟨u, hu, hb⟩ := t.exists_beside_endClustering
  refine of_beside ?_ hb
  rw [hu]
  exact ⟨rfl, h.follows, h.status, h.joined, fun _ => rfl, rfl, rfl⟩

/-- Before clustering begins there is nothing to transmit. -/
lemma Early.transmit (h : t.node.Early) (hs : t.node.status ≠ .init) :
    (t.setSlot .send none).transmit = t.setSlot .send none := by
  simp only [Turn.transmit]
  split
  · rename_i he
    exact absurd he hs
  · rename_i he
    exact absurd he h.status.1
  · rename_i he
    exact absurd he h.status.2
  · rw [show (t.setSlot .send none).node.clustering = false from h.clustering]
    rfl
  · rfl

lemma Early.join (h : t.node.Early) (hne : head ≠ t.node.record.id) : (t.join head).node.Early := by
  have hcore := t.core_join head
  have hr : (t.join head).node.record = t.node.record.join head := congrArg (·.1) hcore
  have hs : (t.join head).node.status = .update := congrArg (·.2.2) hcore
  have hnode : (t.join head).node.clustering = t.node.clustering ∧
      (t.join head).node.slots.election = none ∧
      (t.join head).node.slots.upkeep = t.node.slots.upkeep := by
    simp only [Turn.join]
    rw [Turn.node_queueSend]
    show (t.disarm .election).node.clustering = _ ∧ (t.disarm .election).node.slots.election = _ ∧
      (t.disarm .election).node.slots.upkeep = _
    rw [Turn.node_disarm]
    exact ⟨rfl, rfl, rfl⟩
  refine ⟨hnode.1.trans h.clustering, ?_, ?_, ?_, ?_, hnode.2.1, hnode.2.2.trans h.upkeep⟩
  · rw [hr]
    exact Record.not_isHead_join hne
  · rw [hs]
    decide
  · intro _
    rw [hr]
    exact Record.not_isStandalone_join _ _
  · intro hi
    rw [hs] at hi
    cases hi

lemma Early.merge (h : t.node.Early) (hg : t.node.Grounded) : t.merge.node.Early := by
  simp only [Turn.merge]
  split
  · exact h
  · rename_i head hhead
    split
    · exact ⟨h.clustering, Record.not_isHead_join (hg.fits.ne_own (hg.fits.highestHead hhead)),
        h.status, fun _ => Record.not_isStandalone_join _ _, h.quiet, h.election, h.upkeep⟩
    · exact h

end Node

/-- Whether a visit lets clustering begin or presupposes that it has begun. -/
def Visit.Forms (v : Visit) : Prop :=
  v.call = .timer .start ∨ v.call = .formCluster ∨ v.call = .timer .electionCheck ∨
    v.call = .timer .upkeep

lemma Stride.early (s : Stride v t t') (hv : v.Fair t.node.record.id) (hf : ¬ v.Forms)
    (hs : v.call = .timer .send → t.node.status ≠ .init) (hg : t.node.Grounded)
    (h : t.node.Early) :
    t'.node.Early ∧ (v.call = .timer .send → t'.node.status ≠ .init) := by
  cases s with
  | beside hb =>
    refine ⟨h.of_beside hb, ?_⟩
    intro hc he
    rcases hb.status with hst | hst
    · exact hs hc (hst.symm.trans he)
    · rw [he] at hst
      cases hst
  | beginClustering hc => exact absurd (.inl hc) hf
  | endClustering hc =>
    refine ⟨h.endClustering, ?_⟩
    intro hc'
    rw [hc] at hc'
    cases hc'
  | formCluster hc => exact absurd (.inr (.inl hc)) hf
  | transmit hc =>
    rw [h.transmit (hs hc)]
    exact ⟨⟨h.clustering, h.follows, h.status, h.joined, fun _ => rfl, h.election, h.upkeep⟩, hs⟩
  | checkElection hc => exact absurd (.inr (.inr (.inl hc))) hf
  | upkeep hc => exact absurd (.inr (.inr (.inr hc))) hf
  | hear | enrol | note =>
    exact ⟨⟨h.clustering, h.follows, h.status, h.joined, h.quiet, h.election, h.upkeep⟩, hs⟩
  | @join r head hi hn =>
    refine ⟨h.join (hg.fits.ne_own (hv.contains_of_invites hi hn)), ?_⟩
    intro _ he
    have hst : (t.join head).node.status = .update := congrArg (·.2.2) (t.core_join head)
    rw [hst] at he
    cases he
  | settle hm hst hr =>
    rcases hst with hst | hst
    · exact absurd hr (h.joined hst)
    · exact absurd hst h.status.1
  | merge =>
    refine ⟨h.merge hg, ?_⟩
    intro hc
    simp only [Turn.merge]
    split
    · exact hs hc
    · split
      · exact hs hc
      · exact hs hc

/-! ### Heads with members -/

/-- Messages arrive with packets only. -/
lemma Visit.Brings.ne_timer {m : Message} (h : v.Brings m) (timer : Timer) :
    v.call ≠ .timer timer := by
  obtain ⟨sender, packet, hv, -⟩ := Visit.brings_iff.1 h
  rw [hv]
  exact Call.noConfusion

lemma Visit.Brings.ne_formCluster {m : Message} (h : v.Brings m) : v.call ≠ .formCluster := by
  obtain ⟨sender, packet, hv, -⟩ := Visit.brings_iff.1 h
  rw [hv]
  exact Call.noConfusion

lemma Visit.Invites.brings {r : Record} (h : v.Invites r head) : ∃ m, v.Brings m := by
  cases h with
  | clusterInfo hm => exact ⟨_, hm⟩
  | initiateCluster hm => exact ⟨_, hm⟩
  | formCluster hm => exact ⟨_, hm⟩

/-- A node that leads, and that messages find with members and neither waiting nor running for
head. -/
structure Node.Rules (n : Node) (v : Visit) : Prop where
  leads : n.record.isHead
  secure : ∀ m, v.Brings m →
    (∃ id r, n.registry.members.get? id = some r) ∧ n.status ≠ .init ∧ n.status ≠ .headElection

namespace Turn

lemma isHead_transmit_of_isHead (h : t.node.record.isHead) : t.transmit.node.record.isHead := by
  simp only [transmit]
  split
  · have hr : t.sendGreeting.node.record = t.node.record := congrArg (·.1) t.core_sendGreeting
    rw [hr]
    exact h
  · have hr : t.sendCandidacy.node.record = t.node.record.becomeHead :=
      congrArg (·.1) t.core_sendCandidacy
    rw [hr]
    rfl
  · have hr : t.sendFormation.node.record = t.node.record.becomeHead :=
      congrArg (·.1) t.core_sendFormation
    rw [hr]
    rfl
  · split
    · simp only [sendUpdate]
      rw [node_queueSend]
      exact ((Beside.updateMessages t).trans (.packets _ _)).isHead.trans h
    · exact h
  · exact h

lemma isHead_checkElection (t : Turn) :
    t.checkElection.node.record.isHead = t.node.record.isHead := by
  have hq (u : Turn) (d : Duration) : (u.queueSend d).node.record = u.node.record :=
    congrArg (·.1) (core_queueSend u d)
  simp only [checkElection]
  split
  · rfl
  · split
    · rw [hq]
      rfl
    · split
      · rw [hq]
        rfl
      · rw [hq]

lemma isHead_upkeep (h : t.node.record.isHead) : t.upkeep.node.record.isHead := by
  cases hc : t.node.clustering with
  | false =>
    rw [upkeep_of_idle hc]
    exact h
  | true => exact (congrArg (·.1.isHead) (core_upkeep hc)).trans (Registry.isHead_maintain h _ _)

end Turn

/-- A head with members keeps leading. -/
lemma Stride.rules (s : Stride v t t') (h : t.node.Rules v) : t'.node.Rules v := by
  have quiet {n : Node} {c : Call} (hc : v.call = c) (hne : ∀ m, v.Brings m → v.call ≠ c)
      (hl : n.record.isHead) : n.Rules v := ⟨hl, fun m hm => absurd hc (hne m hm)⟩
  cases s with
  | beside hb =>
    constructor
    · exact hb.isHead.trans h.leads
    · intro m hm
      obtain ⟨⟨id, r, hr⟩, hi, he⟩ := h.secure m hm
      refine ⟨⟨id, r, ?_⟩, ?_⟩
      · rw [show t'.node.registry.members = t.node.registry.members from
          congrArg Stance.members hb.stance]
        exact hr
      · rcases hb.status with hs | hs
        · rw [hs]
          exact ⟨hi, he⟩
        · constructor <;> intro hst <;> rw [hst] at hs <;> cases hs
  | beginClustering hc =>
    have hr : t.beginClustering.node.record = t.node.record :=
      congrArg (·.1) t.core_beginClustering
    exact quiet hc (fun m hm => hm.ne_timer _) (hr ▸ h.leads)
  | endClustering hc =>
    obtain ⟨u, hu, hb⟩ := t.exists_beside_endClustering
    have hr : u.node.record = t.node.record := by rw [hu]
    exact quiet hc (fun m hm => hm.ne_timer _) (hb.isHead.trans (hr ▸ h.leads))
  | formCluster hc =>
    have hr : t.formCluster.node.record = t.node.record := congrArg (·.1) t.core_formCluster
    exact quiet hc (fun m hm => hm.ne_formCluster) (hr ▸ h.leads)
  | transmit hc =>
    exact quiet hc (fun m hm => hm.ne_timer _)
      (Turn.isHead_transmit_of_isHead (t := t.setSlot .send none) h.leads)
  | checkElection hc =>
    exact quiet hc (fun m hm => hm.ne_timer _)
      ((Turn.isHead_checkElection (t.setSlot .election none)).trans h.leads)
  | upkeep hc =>
    exact quiet hc (fun m hm => hm.ne_timer _)
      (Turn.isHead_upkeep (t := t.setSlot .upkeep none) h.leads)
  | hear => exact ⟨h.leads, h.secure⟩
  | note =>
    refine ⟨h.leads, ?_⟩
    intro m hm
    obtain ⟨⟨id, r, hr⟩, hs⟩ := h.secure m hm
    refine ⟨⟨id, r, ?_⟩, hs⟩
    exact (congrArg (·.get? id) (Registry.members_noteCluster _ _ _ _)).trans hr
  | @enrol _ r' =>
    refine ⟨h.leads, ?_⟩
    intro m hm
    obtain ⟨⟨id, r, hr⟩, hs⟩ := h.secure m hm
    have hc : (t.node.registry.enrol (r'.stamp t.now)).members.contains id :=
      Table.contains_insert_of_contains (Table.contains_of_get? hr)
    exact ⟨⟨id, Table.contains_iff.1 hc⟩, hs⟩
  | join hi hn hs =>
    obtain ⟨m, hm⟩ := hi.brings
    obtain ⟨-, hinit, helection⟩ := h.secure m hm
    rcases hs with hs | hs
    · exact absurd hs hinit
    · exact absurd hs helection
  | settle hm hs hr => exact absurd h.leads (Record.not_isHead_of_isStandalone hr)
  | merge hm hs hr he =>
    obtain ⟨⟨id, r, hr⟩, -⟩ := h.secure _ hm
    exact absurd hr (Table.get?_ne_some_of_isEmpty he)

/-! ### Visits -/

/-- The begin of clustering does not change the role. -/
lemma Stride.isHead_of_start (s : Stride v t t') (hv : v.call = .timer .start) :
    t'.node.record.isHead = t.node.record.isHead := by
  cases s with
  | beside hb => exact hb.isHead
  | beginClustering => exact congrArg (·.1.isHead) t.core_beginClustering
  | endClustering hc | transmit hc | checkElection hc | upkeep hc | formCluster hc =>
    rw [hv] at hc
    cases hc
  | hear | enrol | note => rfl
  | join hi =>
    obtain ⟨m, hm⟩ := hi.brings
    exact absurd hv (hm.ne_timer _)
  | settle hm | merge hm => exact absurd hv (hm.ne_timer _)

namespace Node

lemma Grounded.visit (h : n.Grounded) (hv : v.Fair n.record.id)
    (hb : v.call = .timer .start → ¬ n.record.isHead) : (n.visit v).node.Grounded := by
  refine ((strides_visit n v).induct (P := fun t => t.node.record.id = n.record.id ∧
    (v.call = .timer .start → ¬ t.node.record.isHead) ∧ t.node.Grounded) ⟨rfl, hb, h⟩ ?_).2.2
  rintro t t' ⟨hi, hb, h⟩ s
  refine ⟨s.id.trans hi, ?_, s.grounded (hi.symm ▸ hv) hb h⟩
  intro hc hh
  exact hb hc (s.isHead_of_start hc ▸ hh)

lemma Early.visit (h : n.Early) (hg : n.Grounded) (hv : v.Fair n.record.id) (hf : ¬ v.Forms)
    (hs : v.call = .timer .send → n.status ≠ .init) : (n.visit v).node.Early := by
  have hb : v.call = .timer .start → ¬ n.record.isHead := fun hc => absurd (.inl hc) hf
  refine ((strides_visit n v).induct (P := fun t => t.node.record.id = n.record.id ∧
    t.node.Grounded ∧ t.node.Early ∧ (v.call = .timer .send → t.node.status ≠ .init))
    ⟨rfl, hg, h, hs⟩ ?_).2.2.1
  rintro t t' ⟨hi, hg, he, hs⟩ s
  have hv : v.Fair t.node.record.id := hi.symm ▸ hv
  exact ⟨s.id.trans hi, s.grounded hv (fun hc => absurd (.inl hc) hf) hg, s.early hv hf hs hg he⟩

lemma Grounded.isHead_visit (h : n.Grounded) (hh : n.record.isHead)
    (hm : ¬ n.registry.members.isEmpty) (v : Visit) : (n.visit v).node.record.isHead := by
  have hr : n.Rules v := by
    refine ⟨hh, ?_⟩
    intro _ _
    refine ⟨?_, h.leads hh⟩
    apply Classical.byContradiction
    intro hnone
    exact hm (Table.isEmpty_of_get? fun id r hr => hnone ⟨id, r, hr⟩)
  have hvisit : (n.visit v).node.Rules v :=
    (strides_visit n v).induct (P := fun t => t.node.Rules v) hr fun _ _ h s => s.rules h
  exact hvisit.leads

end Node

/-! ### Benches -/

namespace Bench

open Visit (rings hears)

variable {b b' b₀ : Bench} {vs : List Visit} {id : NodeId}

/-- Whether clusters are formed on request only after clustering has begun. -/
def formsLater (vs : List Visit) : Prop :=
  ∀ before v after, vs = before ++ v :: after → v.call = .formCluster →
    ∃ w ∈ before, w.call = .timer .start

/-- What is known of the neighborhood of the node after some visits. -/
structure Neighborly (id : NodeId) (vs : List Visit) (b : Bench) : Prop where
  matched : b.Matches
  opening : Once .start vs b.alarms
  name : b.node.record.id = id
  grounded : b.node.Grounded
  early : (∀ w ∈ vs, w.call ≠ .timer .start) → b.node.Early

namespace Neighborly

lemma of_isNew (hn : b.node.IsNew) (ha : b.alarms = []) : b.Neighborly b.node.record.id [] := by
  obtain ⟨hstatus, hclustering, hr⟩ := hn.waiting
  obtain ⟨-, -, -, hslots⟩ := hn.blank
  have hh : ¬ b.node.record.isHead := Record.not_isHead_of_isStandalone hr
  refine ⟨.of_isNew hn ha, .nil _ ha, rfl, ⟨?_, fun h => absurd h hh⟩, fun _ => ?_⟩
  · rw [hn.registry]
    exact .empty hr
  · refine ⟨hclustering, hh, ?_, ?_, ?_, ?_, ?_⟩
    · rw [hstatus]
      decide
    · rw [hstatus]
      intro h
      cases h
    all_goals
      rw [hslots]
      try intro
      rfl

/-- Clustering begins at a node that does not lead. -/
lemma follows (h : b.Neighborly id vs) (hs : b.Serves v b') (hv : v.call = .timer .start) :
    ¬ b.node.record.isHead := by
  obtain ⟨a, ha, hat⟩ := hs.exists_alarm hv
  exact (h.early (h.opening.pending a ha hat).2.1).follows

/-- Before clustering begins nothing that makes a head is called for. -/
lemma not_forms (h : b.Neighborly id vs) (hs : b.Serves v b')
    (hf : formsLater (vs ++ [v])) (hv : ∀ w ∈ vs ++ [v], w.call ≠ .timer .start) :
    ¬ v.Forms := by
  have he : b.node.Early := h.early fun w hw => hv w (List.mem_append_left _ hw)
  rintro (hc | hc | hc | hc)
  · exact hv v (List.mem_append_right _ List.mem_cons_self) hc
  · obtain ⟨w, hw, hws⟩ := hf vs v [] rfl hc
    exact hv w (List.mem_append_left _ hw) hws
  · exact h.matched.slot_ne_none .election hs hc rfl he.election
  · exact h.matched.slot_ne_none .upkeep hs hc rfl he.upkeep

lemma serves (h : b.Neighborly id vs) (hs : b.Serves v b') (ho : startsOnce (vs ++ [v]))
    (hf : formsLater (vs ++ [v])) (hv : v.Fair id) : b'.Neighborly id (vs ++ [v]) := by
  have hv : v.Fair b.node.record.id := h.name.symm ▸ hv
  refine ⟨h.matched.serves hs, h.opening.serves rfl h.matched.keeps ho hs, ?_, ?_, ?_⟩
  · rw [hs.node]
    exact (moves_visit b.node v).alike.id.trans h.name
  · rw [hs.node]
    exact h.grounded.visit hv (h.follows hs)
  · intro hw
    have he : b.node.Early := h.early fun w hm => hw w (List.mem_append_left _ hm)
    rw [hs.node]
    apply he.visit h.grounded hv (h.not_forms hs hf hw)
    intro hc hi
    exact h.matched.slot_ne_none .send hs hc rfl (he.quiet hi)

end Neighborly

lemma formsLater_of_snoc (h : formsLater (vs ++ [v])) : formsLater vs := by
  intro before w after he hc
  apply h before w (after ++ [v]) _ hc
  rw [he, List.append_assoc]
  rfl

/-- In a course everything stays in order. -/
lemma Course.neighborly (hn : b₀.node.IsNew) (ha : b₀.alarms = []) (h : b₀.Course vs b)
    (hs : startsOnce vs) (hf : formsLater vs) (hv : ∀ v ∈ vs, v.Fair b₀.node.record.id) :
    b.Neighborly b₀.node.record.id vs := by
  induction h with
  | nil => exact .of_isNew hn ha
  | snoc _ hserves ih =>
    have hold := ih (startsOnce_snoc hs).1 (formsLater_of_snoc hf)
      fun v hm => hv v (List.mem_append_left _ hm)
    exact hold.serves hserves hs hf (hv _ (List.mem_append_right _ List.mem_cons_self))

/-- The registry of a node fits its role, whatever its neighbors say, provided that the node is
started once, that it is asked to form a cluster only after clustering has begun, that candidates
run for their own clusters and that nobody speaks for the node itself. Neighbors and members are
kept under their own numbers, members are neighbors and have named the node as their head, only a
head has members, and the head of a member is a neighbor. A head that has members goes on leading,
whatever it is visited for next. -/
theorem registry_fits_role (hn : b₀.node.IsNew) (ha : b₀.alarms = []) (h : b₀.Course vs b)
    (hs : startsOnce vs) (hf : formsLater vs) (hv : ∀ v ∈ vs, v.Fair b₀.node.record.id) :
    ((∀ id r, b.node.registry.neighbors.get? id = some r → r.id = id) ∧
      ∀ id r, b.node.registry.members.get? id = some r → r.id = id) ∧
    (∀ id, b.node.registry.members.contains id → b.node.registry.neighbors.contains id) ∧
    (∀ id r, b.node.registry.members.get? id = some r → r.cluster = some b.node.record.id) ∧
    ((¬ b.node.record.isHead → b.node.registry.members.isEmpty) ∧
      ∀ v, b.node.record.isHead → ¬ b.node.registry.members.isEmpty →
        (b.node.visit v).node.record.isHead) ∧
    ∀ c, b.node.record.isMember → b.node.record.cluster = some c →
      b.node.registry.neighbors.contains c := by
  have hg : b.node.Grounded := (h.neighborly hn ha hs hf hv).grounded
  have hfits := hg.fits
  refine ⟨⟨hfits.neighbor, ?_⟩, ?_, ?_, ⟨hfits.isEmpty_members, ?_⟩, hfits.head⟩
  · intro id r hr
    exact (hfits.member id r hr).1
  · intro id hid
    obtain ⟨r, hr⟩ := Table.contains_iff.1 hid
    exact (hfits.member id r hr).2.1
  · intro id r hr
    exact (hfits.member id r hr).2.2.1
  · intro v hh hm
    exact hg.isHead_visit hh hm v

/-- The visits of a node on its own that is elected and then hears that another node has joined its
cluster. -/
def enrollingVisits : List Visit :=
  [⟨.start, Vec3.zero, 1, .start⟩, rings 0 2 .start, rings 100 4 .upkeep, rings 400 5 .upkeep,
    rings 700 6 .upkeep, rings 1000 7 .send, rings 1000 8 .upkeep, rings 1100 9 .electionCheck,
    rings 1200 10 .send,
    hears 1250 11 ⟨2⟩ (.clusterInfo 1 ((Record.lone ⟨2⟩ Vec3.zero .start).join ⟨5⟩))]

/-- The head is left with a member. -/
theorem enrolled_member_fits_role : ∃ b₀ b : Bench, b₀.node.IsNew ∧ b₀.alarms = [] ∧
    b₀.Course enrollingVisits b ∧ startsOnce enrollingVisits ∧ formsLater enrollingVisits ∧
    (∀ v ∈ enrollingVisits, v.Fair b₀.node.record.id) ∧ b.node.registry.members.contains ⟨2⟩ ∧
    ((∀ id r, b.node.registry.neighbors.get? id = some r → r.id = id) ∧
      ∀ id r, b.node.registry.members.get? id = some r → r.id = id) ∧
    (∀ id, b.node.registry.members.contains id → b.node.registry.neighbors.contains id) ∧
    (∀ id r, b.node.registry.members.get? id = some r → r.cluster = some b.node.record.id) ∧
    ((¬ b.node.record.isHead → b.node.registry.members.isEmpty) ∧
      ∀ v, b.node.record.isHead → ¬ b.node.registry.members.isEmpty →
        (b.node.visit v).node.record.isHead) ∧
    ∀ c, b.node.record.isMember → b.node.record.cluster = some c →
      b.node.registry.neighbors.contains c := by
  have hrun : ((Node.create ⟨5⟩ Settings.standard false none).toOption.any fun n =>
      decide (∀ v ∈ enrollingVisits, v.Fair n.record.id) &&
        ((Bench.setUp n Vec3.zero).run? enrollingVisits).any fun b =>
          b.node.registry.members.contains ⟨2⟩) = true := by decide +kernel
  simp only [Option.any_eq_true, Bool.and_eq_true, decide_eq_true_eq] at hrun
  obtain ⟨n, hn, hfair, b, hb, hm⟩ := hrun
  have hs : startsOnce enrollingVisits := by decide
  have hf : formsLater enrollingVisits := by
    intro before v after he hc
    have hnone : ∀ w ∈ enrollingVisits, w.call ≠ .formCluster := by decide
    exact absurd hc (hnone v (he ▸ List.mem_append_right _ List.mem_cons_self))
  exact ⟨.setUp n Vec3.zero, b, .of_toOption hn, rfl, .of_run? hb, hs, hf, hfair, hm,
    registry_fits_role (.of_toOption hn) rfl (.of_run? hb) hs hf hfair⟩

end Bench

end ClusterWave
