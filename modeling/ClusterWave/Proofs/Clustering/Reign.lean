import ClusterWave.Proofs.Bench.Expect
import ClusterWave.Proofs.Clustering.Follow

/-!
# The highest node

The highest node makes itself known after a second. As it outranks all it has heard by then, it runs
for head and leads. From its first transmission on it transmits at least every 300 milliseconds.
-/

namespace ClusterWave

/-- What the highest node knows: it neither hears a head nor knows of another cluster. -/
structure Node.Highest (top : NodeId) (now : Timestamp) (n : Node) : Prop where
  settings : n.settings = .standard
  id : n.record.id = top
  registry : n.registry.Loyal top top now
  foreign : ∀ c, ¬ n.registry.foreign.contains c

variable {top id : NodeId} {place : Vec3} {now now' w : Timestamp} {t t' t'' : Turn}
  {n n' : Node} {g : Registry} {r : Record}

namespace Registry.Loyal

lemma not_isHead (h : g.Loyal top top now) (hr : g.neighbors.get? id = some r) : ¬ r.isHead := by
  intro hh
  have hknown := h.known id r hr
  have he : id = top := hknown.id.symm.trans (hknown.loyal.head hh)
  exact h.others (he ▸ Table.contains_of_get? hr)

lemma highestHead?_eq_none (h : g.Loyal top top now) : g.highestHead? = none := by
  apply Option.eq_none_iff_forall_ne_some.2
  intro head hh
  obtain ⟨id, r, hr, hhead, -⟩ := exists_of_highestHead? hh
  exact h.not_isHead hr hhead

lemma outranks (h : g.Loyal top top now) : g.outranks top := by
  refine List.all_eq_true.2 fun r hr => decide_eq_true ?_
  obtain ⟨⟨id, r⟩, he, rfl⟩ := List.mem_map.1 (List.mem_filter.1 hr).1
  have hget := Table.get?_eq_some_iff.2 he
  have hknown := h.known id r hget
  refine hknown.loyal.below.resolve_left fun hid => ?_
  exact h.others (hid ▸ hknown.id ▸ Table.contains_of_get? hget)

end Registry.Loyal

namespace Node.Highest

lemma later (h : n.Highest top now) (hn : now ≤ now') : n.Highest top now' :=
  ⟨h.settings, h.id, h.registry.later hn, h.foreign⟩

lemma of_registry (h : n.Highest top now) (hs : n'.settings = n.settings)
    (hi : n'.record.id = n.record.id) (hg : n'.registry = n.registry) : n'.Highest top now :=
  ⟨hs.trans h.settings, hi.trans h.id, hg.symm ▸ h.registry, hg.symm ▸ h.foreign⟩

/-- What the highest node says as long as it stands alone. -/
lemma heard_alone (h : n.Highest top now) (hr : n.record.role = (.standalone, none))
    (hp : n.record.position = place) (hn : now' ≤ .ofMillis 1001) :
    n.record.Heard top place top now' := by
  have hd : n.record.degree = .standalone := congrArg Prod.fst hr
  have hhead : ¬ n.record.isHead := by
    rw [Record.isHead, hd]
    exact Bool.false_ne_true
  have hmember : ¬ n.record.isMember := by
    rw [Record.isMember, hd]
    exact Bool.false_ne_true
  have hloyal : n.record.Loyal top :=
    ⟨.inl (congrArg Prod.snd hr), fun hh => absurd hh hhead, fun _ => hmember, .inl h.id⟩
  exact ⟨h.id, hloyal, fun _ => hp, fun _ _ => hn, fun hh => absurd hh hhead⟩

/-- What it says when it leads. -/
lemma heard_head (hi : r.id = top) (hr : r.role = (.head, some top)) (hp : r.position = place)
    (hn : .ofMillis 1101 ≤ now') : r.Heard top place top now' := by
  have hd : r.degree = .head := congrArg Prod.fst hr
  have hhead : r.isHead := beq_iff_eq.2 hd
  have hmember : ¬ r.isMember := by
    rw [Record.isMember, hd]
    exact Bool.false_ne_true
  exact ⟨hi, ⟨.inr (congrArg Prod.snd hr), fun _ => hi, fun _ => hmember, .inl hi⟩,
    fun _ => hp, fun _ hh => absurd hhead hh, fun _ => hn⟩

/-- Nothing is lost in a round of upkeep when the node leads, nor before the timeout. -/
lemma quiet (h : n.Highest top now) (hr : n.record.role = (.head, some top) ∨
      n.record.role = (.standalone, none) ∧ now ≤ .ofMillis 1200) :
    n.registry.Quiet n.record now n.settings.timeout := by
  rcases hr with hr | ⟨hr, hn⟩
  · exact .inl (beq_iff_eq.2 (congrArg Prod.fst hr))
  · right
    constructor
    · intro c hcl
      rw [show n.record.cluster = none from congrArg Prod.snd hr] at hcl
      cases hcl
    · right
      intro id r hget
      have ht : Settings.standard.timeout.nanos = 600000 * 1000 := by decide
      have hn : now.micros.toNat ≤ 1200000 := hn
      have hsince : 1001000 ≤ r.timestamp.micros.toNat := (h.registry.known id r hget).since
      rw [h.settings]
      exact Registry.not_isStale ht (by omega)

end Node.Highest

/-! ### Turns in which nothing changes -/

/-- In a part of a turn the highest node keeps its status, its role and its timers, those for upkeep
apart. -/
structure Turn.Rests (top : NodeId) (place : Vec3) (t t' : Turn) : Prop where
  asks : t.Asks (Effect.Loyal top place top t.now) t'
  highest : t'.node.Highest top t.now
  status : t'.node.status = t.node.status
  role : t'.node.record.role = t.node.record.role
  clustering : t'.node.clustering = t.node.clustering
  slots : ∀ slot, slot ≠ .upkeep → t'.node.slots.get slot = t.node.slots.get slot

namespace Turn

namespace Rests

lemma refl (h : t.node.Highest top t.now) : t.Rests top place t :=
  ⟨.refl t, h, rfl, rfl, rfl, fun _ _ => rfl⟩

lemma trans (h : t.Rests top place t') (h' : t'.Rests top place t'') : t.Rests top place t'' := by
  have ha := h'.asks
  have hh := h'.highest
  rw [h.asks.now] at ha hh
  exact ⟨h.asks.trans ha, hh, h'.status.trans h.status, h'.role.trans h.role,
    h'.clustering.trans h.clustering, fun slot hs => (h'.slots slot hs).trans (h.slots slot hs)⟩

lemma highest_now (h : t.Rests top place t') : t'.node.Highest top t'.now :=
  h.asks.now.symm ▸ h.highest

/-- Only the registry changes. -/
lemma of_registry (h : t.node.Highest top t.now) (hg : g.Loyal top top t.now)
    (hf : ∀ c, ¬ g.foreign.contains c) : t.Rests top place (t.setRegistry g) :=
  ⟨.of_outbox rfl rfl rfl rfl rfl, ⟨h.settings, h.id, hg, hf⟩, rfl, rfl, rfl, fun _ _ => rfl⟩

end Rests

/-- Upkeep changes nothing for a head, and nothing for a node before the timeout. -/
lemma rests_upkeep (h : t.node.Highest top t.now)
    (hr : t.node.record.role = (.head, some top) ∨
      t.node.record.role = (.standalone, none) ∧ t.now ≤ .ofMillis 1200) :
    t.Rests top place t.upkeep := by
  cases hc : t.node.clustering with
  | false =>
    rw [upkeep_of_idle hc]
    exact .refl h
  | true =>
    have hd : t.node.record.degree ≠ .member := by
      rcases hr with hr | ⟨hr, -⟩
      · rw [show t.node.record.degree = .head from congrArg Prod.fst hr]
        exact Degree.noConfusion
      · rw [show t.node.record.degree = .standalone from congrArg Prod.fst hr]
        exact Degree.noConfusion
    have hquiet := h.quiet hr
    have hown : t.node.record.isMember → t.node.registry.headVisible t.node.record :=
      fun hm => absurd (beq_iff_eq.1 hm) hd
    rw [upkeep_of_quiet h.registry.keys hquiet hown hc]
    have hset : t.Rests top place (t.setRegistry (t.node.registry.maintain t.node.record t.now
        t.node.settings.timeout).1) := by
      refine .of_registry h (h.registry.maintain _ _) ?_
      intro c hf
      rcases Registry.foreign_of_maintain hf with hf | ⟨r, hget, hh, -⟩
      · exact h.foreign c hf
      · exact h.registry.not_isHead hget hh
    refine hset.trans ⟨.arm _ _ (.schedule trivial), hset.highest_now.of_registry rfl rfl rfl,
      rfl, rfl, rfl, ?_⟩
    intro slot hs
    exact Slots.get_set_of_ne _ _ hs

/-! ### Messages -/

/-- No other node claims to lead. -/
lemma not_isHead_of_heard {sender : NodeId} (hs : sender ≠ top)
    (hr : r.Heard top place sender now) : ¬ r.isHead := by
  intro hh
  exact hs (hr.id.symm.trans (hr.loyal.head hh))

lemma rests_hear {sender : NodeId} (h : t.node.Highest top t.now) (hs : sender ≠ top)
    (hn : .ofMillis 1001 ≤ t.now) (hr : r.Heard top place sender t.now) :
    t.Rests top place (t.setRegistry (t.node.registry.hear (r.stamp t.now))) :=
  .of_registry h (h.registry.hear (hr.known hn) (hr.id.symm ▸ hs)) h.foreign

/-- What neighbors say of clusters is about the own one. -/
lemma noteForeign_of_highest (h : t.node.Highest top t.now) (hr : r.Loyal top) :
    t.noteForeign r = t := by
  simp only [noteForeign]
  split
  · rfl
  · rename_i c hc
    rw [if_neg]
    rintro ⟨-, hne⟩
    rcases hr.cluster with hcl | hcl
    · rw [hc] at hcl
      cases hcl
    · exact hne ((Option.some.inj (hc.symm.trans hcl)).trans h.id.symm)

/-- A neighbor changes nothing for the node while it greets, nor when it leads. -/
lemma rests_weighNeighbor (h : t.node.Highest top t.now) (hh : ¬ r.isHead)
    (hs : t.node.status = .init ∨ t.node.status = .update ∧ t.node.record.isHead) :
    t.Rests top place (t.weighNeighbor r) := by
  rcases hs with hs | ⟨hs, hhead⟩
  · have ht : t.weighNeighbor r = t := by
      simp only [weighNeighbor, hs, hh, Bool.false_and, Bool.false_eq_true, if_false]
    rw [ht]
    exact .refl h
  · have halone : ¬ t.node.record.isStandalone := by
      intro ha
      exact Record.not_isHead_of_isStandalone ha hhead
    have hmerge : t.merge = t := by
      simp only [merge, h.registry.highestHead?_eq_none]
    simp only [weighNeighbor, hs, halone, Bool.false_eq_true, if_false, hmerge, ite_self]
    split
    · exact .of_registry h (h.registry.congr rfl) h.foreign
    · exact .refl h

/-- A node that runs for head leads as soon as it hears a neighbor. -/
lemma weighNeighbor_of_run (h : t.node.Highest top t.now) (hs : t.node.status = .headElection)
    (hr : t.node.record.role = (.standalone, none)) (hsend : t.node.slots.send ≠ none) :
    t.weighNeighbor r = (t.setRecord t.node.record.becomeHead).setStatus .update := by
  have halone : t.node.record.isStandalone := beq_iff_eq.2 (congrArg Prod.fst hr)
  simp only [weighNeighbor, hs, halone, if_true, settle, h.registry.highestHead?_eq_none, queueSend]
  split
  · rename_i hnone
    exact absurd hnone hsend
  · rfl

/-- So what a neighbor says of itself changes nothing then. -/
lemma rests_onClusterInfo {sender : NodeId} (h : t.node.Highest top t.now) (hs : sender ≠ top)
    (hn : .ofMillis 1001 ≤ t.now) (hr : r.Heard top place sender t.now)
    (hst : t.node.status = .init ∨ t.node.status = .update ∧ t.node.record.isHead) :
    t.Rests top place (t.onClusterInfo (r.stamp t.now)) := by
  simp only [onClusterInfo]
  split
  · have hhear : t.Rests top place (t.setRegistry (t.node.registry.hear (r.stamp t.now))) :=
      rests_hear h hs hn hr
    have hhead : ¬ (r.stamp t.now).isHead := fun hh => not_isHead_of_heard hs hr hh
    have hrest := hhear.trans (rests_weighNeighbor hhear.highest_now hhead hst)
    rw [noteForeign_of_highest hrest.highest_now (hr.known hn).loyal]
    exact hrest
  · exact .refl h

/-! ### Turns in which the node goes on -/

/-- What a part of a turn makes of the highest node that transmits or changes its status. -/
structure Turns (top : NodeId) (place : Vec3) (status : Status)
    (role : Degree × Option NodeId) (t t' : Turn) : Prop where
  asks : t.Asks (Effect.Loyal top place top t.now) t'
  registry : t'.node.registry = t.node.registry
  status : t'.node.status = status
  role : t'.node.record.role = role
  clustering : t'.node.clustering = true

namespace Turns

variable {status : Status} {role : Degree × Option NodeId}

lemma of_core (ha : t.Asks (Effect.Loyal top place top t.now) t')
    (hc : t'.node.core = (r, t.node.registry, status)) (hr : r.role = role)
    (hcl : t'.node.clustering = true) : t.Turns top place status role t' := by
  obtain ⟨rfl, hg, hs⟩ : t'.node.record = r ∧ t'.node.registry = t.node.registry ∧
      t'.node.status = status := by
    simpa [Node.core] using hc
  exact ⟨ha, hg, hs, hr, hcl⟩

lemma highest (h : t.Turns top place status role t') (ht : t.node.Highest top t.now) :
    t'.node.Highest top t.now := ht.of_registry h.asks.settings h.asks.id h.registry

end Turns

/-- A node that runs for head leads as soon as it hears a neighbor in range. -/
lemma turns_onClusterInfo {sender : NodeId} (h : t.node.Highest top t.now) (hs : sender ≠ top)
    (hn : .ofMillis 1001 ≤ t.now) (hr : r.Heard top place sender t.now)
    (hin : t.node.inRange (r.stamp t.now)) (hst : t.node.status = .headElection)
    (halone : t.node.record.role = (.standalone, none)) (hc : t.node.clustering = true)
    (hsend : t.node.slots.send ≠ none) :
    (t.setRegistry (t.node.registry.hear (r.stamp t.now))).Turns top place .update
        (.head, some top) (t.onClusterInfo (r.stamp t.now)) ∧
      (t.onClusterInfo (r.stamp t.now)).node.slots = t.node.slots := by
  let t₁ : Turn := t.setRegistry (t.node.registry.hear (r.stamp t.now))
  let u : Turn := (t₁.setRecord t₁.node.record.becomeHead).setStatus .update
  have hh : t₁.node.Highest top t₁.now := (rests_hear h hs hn hr).highest_now
  have hrole : t₁.node.record.becomeHead.role = (.head, some top) := by
    rw [← h.id]
    rfl
  have hturn : t₁.Turns top place .update (.head, some top) u :=
    ⟨.of_outbox rfl rfl rfl rfl rfl, rfl, rfl, hrole, hc⟩
  have hu : t.onClusterInfo (r.stamp t.now) = u := by
    rw [onClusterInfo, if_pos hin, weighNeighbor_of_run hh hst halone hsend]
    exact noteForeign_of_highest (hturn.highest hh) (hr.known hn).loyal
  rw [hu]
  exact ⟨hturn, rfl⟩

/-- Clustering begins, and the first transmission is armed unless it is already. -/
lemma turns_beginClustering (place : Vec3) (h : t.node.Highest top t.now) (hw : t.node.Waits) :
    t.Turns top place .init (.standalone, none) t.beginClustering ∧
      (t.node.slots.send = none →
        t.beginClustering.Armed .send Settings.standard.sendWindow) ∧
      (t.node.slots.send ≠ none → t.beginClustering.node.slots.send = t.node.slots.send) := by
  refine ⟨.of_core (asks_beginClustering h.settings) t.core_beginClustering hw.2 ?_, ?_, ?_⟩
  · simp only [beginClustering]
    rw [node_arm, node_disarm, node_queueSend]
    rfl
  · intro hs
    rw [← h.settings]
    have hq := Armed.of_queueSend
      (t := t.edit fun n => { n with clustering := true, status := .init }) hs
      t.node.settings.sendWindow
    exact (hq.disarm Slot.noConfusion).arm Slot.noConfusion _ _
  · intro hs
    have hq : (t.edit fun n => { n with clustering := true, status := .init }).queueSend
        t.node.settings.sendWindow =
          t.edit fun n => { n with clustering := true, status := .init } := by
      simp only [queueSend]
      split
      · rename_i hnone
        exact absurd hnone hs
      · rfl
    simp only [beginClustering, hq]
    rw [node_arm, node_disarm]
    rfl

lemma mem_effects_broadcast (t : Turn) (m : Message) :
    .broadcast (Packet.single m) ∈ (t.broadcast m).outbox.effects :=
  List.mem_append_right _ List.mem_cons_self

lemma mem_effects_disarm {e : Effect} (h : e ∈ t.outbox.effects) (slot : Slot) :
    e ∈ (t.disarm slot).outbox.effects := by
  simp only [disarm]
  split
  · exact h
  · exact List.mem_append_left _ h

lemma mem_effects_queueSend {e : Effect} (h : e ∈ t.outbox.effects) (delay : Duration) :
    e ∈ (t.queueSend delay).outbox.effects := by
  simp only [queueSend]
  split
  · exact List.mem_append_left _ h
  · exact h

lemma turns_sendGreeting (h : t.node.Highest top t.now) (hw : t.node.Waits)
    (hc : t.node.clustering = true) (hp : t.node.record.position = place)
    (hn : .ofMillis 1000 ≤ t.now) (hl : t.now ≤ .ofMillis 1000) :
    t.Turns top place .init (.standalone, none) t.sendGreeting ∧
      t.sendGreeting.Armed .election Settings.standard.backoff ∧
      t.sendGreeting.node.slots.send = t.node.slots.send ∧
      ∃ packet, .broadcast packet ∈ t.sendGreeting.outbox.effects := by
  have harrival : t.now + Duration.ofMillis 1 ≤ .ofMillis 1001 :=
    Timestamp.le_trans (Timestamp.add_le_add hl _) (by decide)
  have hcore : t.sendGreeting.node.core = (t.node.record, t.node.registry, .init) := by
    rw [core_sendGreeting, ← hw.1]
    rfl
  refine ⟨.of_core (asks_sendGreeting h.settings hn (h.heard_alone hw.2 hp harrival)) hcore hw.2 ?_,
    ?_, ?_, ?_⟩
  · simp only [sendGreeting]
    rw [node_arm, node_disarm]
    exact hc
  · rw [← h.settings]
    exact .of_arm _ _ _ _
  · simp only [sendGreeting]
    rw [node_arm, node_disarm]
    rfl
  · have hm := t.advanceSeq.mem_effects_broadcast
      (.clusterInfo t.advanceSeq.node.seq t.node.record)
    exact ⟨_, List.mem_append_left _ (mem_effects_disarm hm .election)⟩

lemma turns_checkElection (place : Vec3) (h : t.node.Highest top t.now) (hw : t.node.Waits)
    (hc : t.node.clustering = true) (hs : t.node.slots.send = none) (hn : .ofMillis 1000 ≤ t.now) :
    t.Turns top place .headElection (.standalone, none) t.checkElection ∧
      t.checkElection.Armed .send Settings.standard.backoff := by
  have halone : t.node.record.isStandalone := beq_iff_eq.2 (congrArg Prod.fst hw.2)
  have hout : t.node.registry.outranks t.node.id := by
    rw [Node.id, h.id]
    exact h.registry.outranks
  have ht : t.checkElection = (t.setStatus .headElection).queueSend t.node.settings.backoff := by
    simp only [checkElection, hw.1, halone, hout, ne_eq, not_true_eq_false, Bool.not_true,
      Bool.false_eq_true, if_false, if_true]
  have ha : t.Asks (Effect.Loyal top place top t.now) t.checkElection := asks_checkElection t hn
  rw [ht] at ha ⊢
  refine ⟨.of_core ha (core_queueSend _ _) hw.2 ?_, ?_⟩
  · rw [node_queueSend]
    exact hc
  · rw [← h.settings]
    exact .of_queueSend (t := t.setStatus .headElection) hs _

lemma turns_sendCandidacy (h : t.node.Highest top t.now) (hc : t.node.clustering = true)
    (hs : t.node.slots.send = none) (hp : t.node.record.position = place)
    (hn : .ofMillis 1100 ≤ t.now) (hl : t.now ≤ .ofMillis 1200) :
    t.Turns top place .update (.head, some top) t.sendCandidacy ∧
      t.sendCandidacy.Armed .send Settings.standard.backoff ∧
      ∃ packet, .broadcast packet ∈ t.sendCandidacy.outbox.effects := by
  have hlate : .ofMillis 1101 ≤ t.now + Duration.ofMillis 1 :=
    Timestamp.le_trans (by decide) (Timestamp.add_le_add hn (Duration.ofMillis 1))
  have hsoon : t.now + Duration.ofMillis 1 ≤ .ofMillis 1201 :=
    Timestamp.le_trans (Timestamp.add_le_add hl _) (by decide)
  have hn : Timestamp.ofMillis 1000 ≤ t.now := Timestamp.le_trans (by decide) hn
  have hrole : t.node.record.becomeHead.role = (.head, some top) := by
    rw [← h.id]
    rfl
  have hheard := Node.Highest.heard_head (r := t.node.record.becomeHead) h.id hrole hp hlate
  let t₁ : Turn := (t.setRecord t.node.record.becomeHead).advanceSeq
  let m : Message := .initiateCluster t₁.node.seq t₁.node.id t₁.node.record
  let t₂ : Turn := ((t₁.broadcast m).count fun c =>
    { c with formationMessages := c.formationMessages + 1 }).setStatus .update
  have ht : t.sendCandidacy = t₂.queueSend t.node.settings.backoff := rfl
  have hm : .broadcast (Packet.single m) ∈ t₂.outbox.effects := t₁.mem_effects_broadcast m
  have hs : t₂.node.slots.send = none := hs
  refine ⟨.of_core (asks_sendCandidacy hn h.id hheard hsoon) t.core_sendCandidacy hrole ?_, ?_, ?_⟩
  · rw [ht, node_queueSend]
    exact hc
  · rw [ht, ← h.settings]
    exact .of_queueSend hs _
  · rw [ht]
    exact ⟨_, mem_effects_queueSend hm _⟩

lemma turns_sendUpdate (h : t.node.Highest top t.now) (hst : t.node.status = .update)
    (hr : t.node.record.role = (.head, some top)) (hc : t.node.clustering = true)
    (hs : t.node.slots.send = none) (hp : t.node.record.position = place)
    (hn : .ofMillis 1100 ≤ t.now) :
    t.Turns top place .update (.head, some top) t.sendUpdate ∧
      t.sendUpdate.Armed .send Settings.standard.interval ∧
      ∃ packet, .broadcast packet ∈ t.sendUpdate.outbox.effects := by
  have hlate : .ofMillis 1101 ≤ t.now + Duration.ofMillis 1 :=
    Timestamp.le_trans (by decide) (Timestamp.add_le_add hn (Duration.ofMillis 1))
  have hn : Timestamp.ofMillis 1000 ≤ t.now := Timestamp.le_trans (by decide) hn
  have ha : t.Asks (Effect.Loyal top place top t.now) t.sendUpdate :=
    asks_sendUpdate hn (.inr h.foreign) (Node.Highest.heard_head h.id hr hp hlate)
  let m : Message := .clusterInfo t.advanceSeq.node.seq t.advanceSeq.node.record
  have ht : t.sendUpdate = (t.advanceSeq.broadcast m).queueSend t.node.settings.interval :=
    sendUpdate_of_local (.inr h.foreign)
  have hm := t.advanceSeq.mem_effects_broadcast m
  have hs : (t.advanceSeq.broadcast m).node.slots.send = none := hs
  rw [ht] at ha ⊢
  refine ⟨.of_core (r := t.node.record) ha ?_ hr ?_, ?_, ?_⟩
  · rw [core_queueSend, ← hst]
    rfl
  · rw [node_queueSend]
    exact hc
  · rw [← h.settings]
    exact .of_queueSend hs _
  · exact ⟨_, mem_effects_queueSend hm _⟩

end Turn

/-! ### Benches -/

namespace Bench

/-- How far the highest node has come. It transmits by the time `w`. -/
inductive Stage (top : NodeId) (w : Timestamp) (b : Bench) : Prop
  /-- Clustering has not begun. -/
  | dawn (hw : b.node.Waits) (hc : b.node.clustering = false) (hs : b.node.slots = .empty)
      (ha : ∃ a ∈ b.alarms, a.due ≤ .start) (hl : .ofMillis 1000 ≤ w)
  /-- The node is to greet. -/
  | greet (hw : b.node.Waits) (hc : b.node.clustering = true)
      (ha : b.Expects .send (.ofMillis 1000)) (hl : .ofMillis 1000 ≤ w)
  /-- The election is to be checked. -/
  | check (hw : b.node.Waits) (hc : b.node.clustering = true) (hs : b.node.slots.send = none)
      (ha : b.Expects .election (.ofMillis 1100)) (hn : .ofMillis 1000 ≤ b.now)
      (hl : .ofMillis 1200 ≤ w)
  /-- The node runs for head. -/
  | run (hst : b.node.status = .headElection) (hr : b.node.record.role = (.standalone, none))
      (hc : b.node.clustering = true) (ha : b.Expects .send (.ofMillis 1200))
      (hn : .ofMillis 1100 ≤ b.now) (hl : .ofMillis 1200 ≤ w)
  | lead (hst : b.node.status = .update) (hr : b.node.record.role = (.head, some top))
      (hc : b.node.clustering = true) (ha : b.Expects .send w) (hn : .ofMillis 1100 ≤ b.now)

/-- The highest node at its bench. -/
structure Reigns (top : NodeId) (w : Timestamp) (b : Bench) : Prop where
  highest : b.node.Highest top b.now
  stage : b.Stage top w

variable {b b' : Bench} {v : Visit} {u : Turn} {before : Degree × Option NodeId}

/-- The next transmission lies ahead as long as no timer is late. -/
lemma Reigns.le (h : b.Reigns top w) (hd : ∀ a ∈ b.alarms, now ≤ a.due) : now ≤ w := by
  rcases h.stage with ⟨-, -, -, ⟨a, ha, hle⟩, hl⟩ | ⟨-, -, ha, hl⟩ | ⟨-, -, -, ha, -, hl⟩ |
    ⟨-, -, -, ha, -, hl⟩ | ⟨-, -, -, ha, -⟩
  · exact Timestamp.le_trans (hd a ha) (Timestamp.le_trans hle (Timestamp.start_le _))
  · exact Timestamp.le_trans (ha.le hd) hl
  · exact Timestamp.le_trans (ha.le hd) (Timestamp.le_trans (by decide) hl)
  · exact Timestamp.le_trans (ha.le hd) hl
  · exact ha.le hd

/-- The highest node is in no cluster but its own. -/
lemma Reigns.cluster (h : b.Reigns top w) :
    b.node.record.cluster = none ∨ b.node.record.cluster = some top := by
  rcases h.stage with ⟨hw, -, -, -, -⟩ | ⟨hw, -, -, -⟩ | ⟨hw, -, -, -, -, -⟩ |
    ⟨-, hr, -, -, -, -⟩ | ⟨-, hr, -, -, -⟩
  · exact .inl (congrArg Prod.snd hw.2)
  · exact .inl (congrArg Prod.snd hw.2)
  · exact .inl (congrArg Prod.snd hw.2)
  · exact .inl (congrArg Prod.snd hr)
  · exact .inr (congrArg Prod.snd hr)

namespace Serves

variable {status : Status} {role : Degree × Option NodeId}

/-- The effects of a visit. -/
lemma loyal_effects (hv : b.node.visit v = u.noteRole before)
    (ha : t.Asks (Effect.Loyal top place top v.now) u) (he : t.outbox.effects = []) :
    ∀ e ∈ (b.node.visit v).outbox.effects, e.Loyal top place top v.now := by
  intro e hm
  rw [hv, Turn.outbox_noteRole] at hm
  rcases ha.effects e hm with hm | hm
  · rw [he] at hm
    cases hm
  · exact hm

/-- A visit in which the highest node goes on. -/
lemma turns (hs : b.Serves v b') (hv : b.node.visit v = u.noteRole before)
    (hn : t.now = v.now) (h : t.node.Highest top t.now)
    (hu : t.Turns top place status role u) :
    b'.node.Highest top b'.now ∧ b'.node.status = status ∧ b'.node.record.role = role ∧
      b'.node.clustering = true ∧ b'.node.slots = u.node.slots := by
  have hh := hu.highest h
  rw [hs.node, hv, Turn.node_noteRole, hs.now, ← hn]
  exact ⟨hh.of_registry rfl rfl rfl, hu.status, hu.role, hu.clustering, rfl⟩

/-- A visit in which the highest node rests. -/
lemma rests (hs : b.Serves v b') (hm : b.Matches) (h : b.Stage top w)
    (hc : b.node.clustering = true) (hv : b.node.visit v = u.noteRole before)
    (hn : t.now = v.now) (hu : t.Rests top place u) (hst : t.node.status = b.node.status)
    (hr : t.node.record.role = b.node.record.role) (hcl : t.node.clustering = b.node.clustering)
    (hsend : t.node.slots.send = b.node.slots.send)
    (hel : b.node.status = .init → t.node.slots.election = b.node.slots.election) :
    b'.Reigns top w := by
  have hnode : b'.node = { u.node with counters := (u.noteRole before).node.counters } := by
    rw [hs.node, hv, Turn.node_noteRole]
  have hhighest : b'.node.Highest top b'.now := by
    rw [hnode, hs.now, ← hn]
    exact hu.highest.of_registry rfl rfl rfl
  have hst' : b'.node.status = b.node.status := by
    rw [hnode]
    exact hu.status.trans hst
  have hr' : b'.node.record.role = b.node.record.role := by
    rw [hnode]
    exact hu.role.trans hr
  have hcl' : b'.node.clustering = true := by
    rw [hnode]
    exact (hu.clustering.trans hcl).trans hc
  have hsend' : b'.node.slots.get .send = b.node.slots.get .send := by
    rw [hnode]
    exact (hu.slots .send Slot.noConfusion).trans hsend
  have hnow : b.now ≤ b'.now := by
    rw [hs.now]
    exact hs.clock
  refine ⟨hhighest, ?_⟩
  rcases h with ⟨-, hc', -⟩ | ⟨hw, -, ha, hl⟩ | ⟨hw, -, hnone, ha, hn, hl⟩ |
    ⟨hrun, halone, -, ha, hn, hl⟩ | ⟨hlead, hhead, -, ha, hn⟩
  · rw [hc'] at hc
    cases hc
  · exact .greet ⟨hst'.trans hw.1, hr'.trans hw.2⟩ hcl' (ha.kept hm hs hsend') hl
  · have hel' : b'.node.slots.get .election = b.node.slots.get .election := by
      rw [hnode]
      exact (hu.slots .election Slot.noConfusion).trans (hel hw.1)
    exact .check ⟨hst'.trans hw.1, hr'.trans hw.2⟩ hcl' (hsend'.trans hnone)
      (ha.kept hm hs hel') (Timestamp.le_trans hn hnow) hl
  · exact .run (hst'.trans hrun) (hr'.trans halone) hcl' (ha.kept hm hs hsend')
      (Timestamp.le_trans hn hnow) hl
  · exact .lead (hst'.trans hlead) (hr'.trans hhead) hcl' (ha.kept hm hs hsend')
      (Timestamp.le_trans hn hnow)

end Serves

end Bench

/-! ### Visits at the bench -/

namespace Bench

variable {b b' : Bench} {v : Visit} {u : Turn} {before : Degree × Option NodeId}

/-- What comes of a visit of the highest node: it is to transmit by the same time as before, or it
has transmitted. -/
structure Proceeds (top : NodeId) (place : Vec3) (w : Timestamp) (v : Visit) (b b' : Bench) :
    Prop where
  effects : ∀ e ∈ (b.node.visit v).outbox.effects, e.Loyal top place top v.now
  reigns : b'.Reigns top w ∨ b'.Reigns top (v.now + Duration.ofMillis 300) ∧
    ∃ packet, .broadcast packet ∈ (b.node.visit v).outbox.effects

namespace Reigns

lemma located (h : b.Reigns top w) (hs : b.Serves v b') :
    (Turn.start b.node v.now v.position v.nextHandle).locate.node.Highest top v.now :=
  (h.highest.later hs.clock).of_registry rfl rfl rfl

lemma of_start (h : b.Reigns top w) (hm : b.Matches) (hs : b.Serves v b')
    (hv : v.call = .timer .start) (hn : v.now ≤ .start) : b.Proceeds top place w v b' := by
  have hvisit := b.node.visit_timer hv
  have hlocated := h.located hs
  have hwaits (hw : b.node.Waits) :
      (Turn.start b.node v.now v.position v.nextHandle).locate.node.Waits := hw
  have hearly {due : Timestamp} (hdue : .ofMillis 1000 ≤ due) (hb : due ≤ b.now) : False := by
    have hle := Timestamp.le_trans hdue (Timestamp.le_trans hb (Timestamp.le_trans hs.clock hn))
    exact absurd hle (by decide)
  rcases h.stage with ⟨hw, -, hslots, -, hl⟩ | ⟨hw, -, ha, hl⟩ | ⟨-, -, -, -, hn', -⟩ |
    ⟨-, -, -, -, hn', -⟩ | ⟨-, -, -, -, hn'⟩
  · obtain ⟨hturn, harmed, -⟩ := Turn.turns_beginClustering place hlocated (hwaits hw)
    obtain ⟨hh, hst, hr, hc, -⟩ := hs.turns hvisit rfl hlocated hturn
    have hnone : b.node.slots.send = none := by rw [hslots]; rfl
    have ha : b'.Expects .send (.ofMillis 1000) := by
      refine .armed hm hs (hvisit ▸ (harmed hnone).noteRole _) ?_
      rw [← Timestamp.start_add_sendWindow]
      exact Timestamp.add_le_add hn _
    exact ⟨Serves.loyal_effects hvisit hturn.asks rfl, .inl ⟨hh, .greet ⟨hst, hr⟩ hc ha hl⟩⟩
  · obtain ⟨hturn, -, hkept⟩ := Turn.turns_beginClustering place hlocated (hwaits hw)
    obtain ⟨hh, hst, hr, hc, hslots⟩ := hs.turns hvisit rfl hlocated hturn
    have hsend : b'.node.slots.get .send = b.node.slots.get .send := by
      rw [hslots]
      exact hkept ha.ne_none
    exact ⟨Serves.loyal_effects hvisit hturn.asks rfl,
      .inl ⟨hh, .greet ⟨hst, hr⟩ hc (ha.kept hm hs hsend) hl⟩⟩
  · exact (hearly (by decide) hn').elim
  · exact (hearly (by decide) hn').elim
  · exact (hearly (by decide) hn').elim

/-- A head that has transmitted is to transmit again within 300 milliseconds. -/
lemma proceeds_of_leads {delay : Duration} (hm : b.Matches) (hs : b.Serves v b')
    (hv : b.node.visit v = u.noteRole before) (hnow : t.now = v.now)
    (he : t.outbox.effects = []) (ht : t.node.Highest top t.now)
    (hu : t.Turns top place .update (.head, some top) u) (ha : u.Armed .send delay)
    (hd : delay.micros ≤ (Duration.ofMillis 300).micros)
    (hb : ∃ packet, .broadcast packet ∈ u.outbox.effects) (hn : .ofMillis 1100 ≤ v.now) :
    b.Proceeds top place w v b' := by
  obtain ⟨hh, hst, hr, hc, -⟩ := hs.turns hv hnow ht hu
  have hexpects : b'.Expects .send (v.now + Duration.ofMillis 300) :=
    .armed hm hs (hv ▸ ha.noteRole _) (Timestamp.add_le_of_le _ hd)
  refine ⟨Serves.loyal_effects hv (hnow ▸ hu.asks) he,
    .inr ⟨⟨hh, .lead hst hr hc hexpects (hs.now ▸ hn)⟩, ?_⟩⟩
  rw [hv, Turn.outbox_noteRole]
  exact hb

lemma of_send (h : b.Reigns top w) (hm : b.Matches) (hs : b.Serves v b')
    (hp : v.position = place) (hv : v.call = .timer .send) (hn : .ofMillis 1000 ≤ v.now)
    (hd : ∀ a ∈ b.alarms, v.now ≤ a.due) : b.Proceeds top place w v b' := by
  have hvisit := b.node.visit_timer hv
  have hlocated := h.located hs
  -- the timer that goes off leaves its slot
  let t : Turn := (Turn.start b.node v.now v.position v.nextHandle).locate.setSlot .send none
  have hvisit : b.node.visit v = t.transmit.noteRole b.node.record.role := hvisit
  have ht : t.node.Highest top t.now := hlocated.of_registry rfl rfl rfl
  have hsend : t.node.slots.send = none := rfl
  have hplace : t.node.record.position = place := hp
  have hsome : b.node.slots.get .send ≠ none := hm.slot_ne_none .send hs hv rfl
  have hclock : .ofMillis 1000 ≤ b'.now := hs.now ▸ hn
  rcases h.stage with ⟨-, -, hslots, -⟩ | ⟨hw, hc, ha, -⟩ | ⟨-, -, hnone, -⟩ |
    ⟨hst, -, hc, ha, hn', -⟩ | ⟨hst, hr, hc, -, hn'⟩
  · exact absurd (by rw [hslots]; rfl) hsome
  · have hl : v.now ≤ .ofMillis 1000 := ha.le hd
    have htransmit : t.transmit = t.sendGreeting := by
      simp only [Turn.transmit, show t.node.status = .init from hw.1]
    rw [htransmit] at hvisit
    obtain ⟨hturn, harmed, hslot, hb⟩ := Turn.turns_sendGreeting ht hw hc hplace hn hl
    obtain ⟨hh, hst, hr, hc, hslots⟩ := hs.turns hvisit rfl ht hturn
    have ha : b'.Expects .election (.ofMillis 1100) := by
      refine .armed hm hs (hvisit ▸ harmed.noteRole _) ?_
      rw [← Timestamp.send_add_backoff]
      exact Timestamp.add_le_add hl _
    have hlast : .ofMillis 1200 ≤ v.now + Duration.ofMillis 300 :=
      Timestamp.le_trans (by decide) (Timestamp.add_le_add hn _)
    have hnone : b'.node.slots.send = none := by
      rw [hslots]
      exact hslot
    refine ⟨Serves.loyal_effects hvisit hturn.asks rfl,
      .inr ⟨⟨hh, .check ⟨hst, hr⟩ hc hnone ha hclock hlast⟩, ?_⟩⟩
    rw [hvisit, Turn.outbox_noteRole]
    exact hb
  · exact absurd hnone hsome
  · have hn : .ofMillis 1100 ≤ v.now := Timestamp.le_trans hn' hs.clock
    have htransmit : t.transmit = t.sendCandidacy := by
      simp only [Turn.transmit, show t.node.status = .headElection from hst]
    rw [htransmit] at hvisit
    obtain ⟨hturn, harmed, hb⟩ := Turn.turns_sendCandidacy ht hc hsend hplace hn (ha.le hd)
    exact proceeds_of_leads hm hs hvisit rfl rfl ht hturn harmed (by decide) hb hn
  · have hn : .ofMillis 1100 ≤ v.now := Timestamp.le_trans hn' hs.clock
    have htransmit : t.transmit = t.sendUpdate := by
      simp only [Turn.transmit, show t.node.status = .update from hst,
        show t.node.clustering = true from hc, if_true]
    rw [htransmit] at hvisit
    obtain ⟨hturn, harmed, hb⟩ := Turn.turns_sendUpdate ht hst hr hc hsend hplace hn
    exact proceeds_of_leads hm hs hvisit rfl rfl ht hturn harmed (by decide) hb hn

lemma of_electionCheck (h : b.Reigns top w) (hm : b.Matches) (hs : b.Serves v b')
    (hv : v.call = .timer .electionCheck) (hn : .ofMillis 1100 ≤ v.now)
    (hd : ∀ a ∈ b.alarms, v.now ≤ a.due) : b.Proceeds top place w v b' := by
  have hvisit := b.node.visit_timer hv
  have hlocated := h.located hs
  let t : Turn := (Turn.start b.node v.now v.position v.nextHandle).locate.setSlot .election none
  have hvisit : b.node.visit v = t.checkElection.noteRole b.node.record.role := hvisit
  have ht : t.node.Highest top t.now := hlocated.of_registry rfl rfl rfl
  have hsome : b.node.slots.get .election ≠ none := hm.slot_ne_none .election hs hv rfl
  have hclock : .ofMillis 1100 ≤ b'.now := hs.now ▸ hn
  have hidle (hst : b.node.status ≠ .init) (hc : b.node.clustering = true) :
      b.Proceeds top place w v b' := by
    have hcheck : t.checkElection = t := if_pos hst
    rw [hcheck] at hvisit
    have hrest : t.Rests top place t := .refl ht
    exact ⟨Serves.loyal_effects hvisit hrest.asks rfl,
      .inl (hs.rests hm h.stage hc hvisit rfl hrest rfl rfl rfl rfl fun hi => absurd hi hst)⟩
  rcases h.stage with ⟨-, -, hslots, -⟩ | ⟨-, -, ha, -⟩ | ⟨hw, hc, hnone, ha, -, hl⟩ |
    ⟨hst, -, hc, -⟩ | ⟨hst, -, hc, -⟩
  · exact absurd (by rw [hslots]; rfl) hsome
  · exact absurd (Timestamp.le_trans hn (ha.le hd)) (by decide)
  · have hcheck : v.now ≤ .ofMillis 1100 := ha.le hd
    obtain ⟨hturn, harmed⟩ := Turn.turns_checkElection place ht hw hc hnone
      (Timestamp.le_trans (by decide) hn)
    obtain ⟨hh, hst, hr, hc, -⟩ := hs.turns hvisit rfl ht hturn
    have ha : b'.Expects .send (.ofMillis 1200) :=
      .armed hm hs (hvisit ▸ harmed.noteRole _)
        (Timestamp.le_trans (Timestamp.add_le_add hcheck _) (by decide))
    exact ⟨Serves.loyal_effects hvisit hturn.asks rfl,
      .inl ⟨hh, .run hst hr hc ha hclock hl⟩⟩
  · refine hidle ?_ hc
    rw [hst]
    exact Status.noConfusion
  · refine hidle ?_ hc
    rw [hst]
    exact Status.noConfusion

lemma of_upkeep (h : b.Reigns top w) (hm : b.Matches) (hs : b.Serves v b')
    (hv : v.call = .timer .upkeep) (hd : ∀ a ∈ b.alarms, v.now ≤ a.due) :
    b.Proceeds top place w v b' := by
  have hvisit := b.node.visit_timer hv
  have hlocated := h.located hs
  let t : Turn := (Turn.start b.node v.now v.position v.nextHandle).locate.setSlot .upkeep none
  have hvisit : b.node.visit v = t.upkeep.noteRole b.node.record.role := hvisit
  have ht : t.node.Highest top t.now := hlocated.of_registry rfl rfl rfl
  have hsome : b.node.slots.get .upkeep ≠ none := hm.slot_ne_none .upkeep hs hv rfl
  have hidle (hc : b.node.clustering = true) (hr : b.node.record.role = (.head, some top) ∨
      b.node.record.role = (.standalone, none) ∧ v.now ≤ .ofMillis 1200) :
      b.Proceeds top place w v b' := by
    have hrest : t.Rests top place t.upkeep := Turn.rests_upkeep ht hr
    exact ⟨Serves.loyal_effects hvisit hrest.asks rfl,
      .inl (hs.rests hm h.stage hc hvisit rfl hrest rfl rfl rfl rfl fun _ => rfl)⟩
  rcases h.stage with ⟨-, -, hslots, -⟩ | ⟨hw, hc, ha, -⟩ | ⟨hw, hc, -, ha, -⟩ |
    ⟨-, hr, hc, ha, -⟩ | ⟨-, hr, hc, -⟩
  · exact absurd (by rw [hslots]; rfl) hsome
  · exact hidle hc (.inr ⟨hw.2, Timestamp.le_trans (ha.le hd) (by decide)⟩)
  · exact hidle hc (.inr ⟨hw.2, Timestamp.le_trans (ha.le hd) (by decide)⟩)
  · exact hidle hc (.inr ⟨hr, ha.le hd⟩)
  · exact hidle hc (.inl hr)

lemma of_message {sender : NodeId} {m : Message} (h : b.Reigns top w) (hm : b.Matches)
    (hs : b.Serves v b') (hv : v.call = .packet sender (Packet.single m)) (hne : sender ≠ top)
    (hn : .ofMillis 1001 ≤ v.now) (hml : m.Loyal top place sender v.now)
    (hd : ∀ a ∈ b.alarms, v.now ≤ a.due) : b.Proceeds top place w v b' := by
  have hvisit := b.node.visit_single hv
  let t : Turn := (Turn.start b.node v.now v.position v.nextHandle).receive
  have ht : t.node.Highest top t.now := (h.located hs).of_registry rfl rfl rfl
  cases hml with
  | candidacy seq hr hh hl => exact absurd hh (Turn.not_isHead_of_heard hne hr)
  | @info seq r hr =>
  have hvisit : b.node.visit v = (t.onClusterInfo (r.stamp t.now)).noteRole b.node.record.role :=
    hvisit
  have hidle (hc : b.node.clustering = true)
      (hrest : t.Rests top place (t.onClusterInfo (r.stamp t.now))) :
      b.Proceeds top place w v b' :=
    ⟨Serves.loyal_effects hvisit hrest.asks rfl,
      .inl (hs.rests hm h.stage hc hvisit rfl hrest rfl rfl rfl rfl fun _ => rfl)⟩
  rcases h.stage with ⟨-, -, -, ⟨a, ham, hle⟩, -⟩ | ⟨hw, hc, -⟩ | ⟨hw, hc, -⟩ |
    ⟨hst, halone, hc, ha, hn', hl⟩ | ⟨hst, hlead, hc, -⟩
  · exact absurd (Timestamp.le_trans hn (Timestamp.le_trans (hd a ham) hle)) (by decide)
  · exact hidle hc (Turn.rests_onClusterInfo ht hne hn hr (.inl hw.1))
  · exact hidle hc (Turn.rests_onClusterInfo ht hne hn hr (.inl hw.1))
  · by_cases hin : t.node.inRange (r.stamp t.now)
    · have hhear := Turn.rests_hear ht hne hn hr
      obtain ⟨hturn, hslots⟩ := Turn.turns_onClusterInfo ht hne hn hr hin hst halone hc ha.ne_none
      obtain ⟨hh, hst, hr, hc, hslots'⟩ := hs.turns hvisit rfl hhear.highest_now hturn
      have hsend : b'.node.slots.get .send = b.node.slots.get .send := by
        rw [hslots', hslots]
        rfl
      have ha : b'.Expects .send w := (ha.kept hm hs hsend).mono hl
      have hn : .ofMillis 1100 ≤ b'.now := hs.now ▸ Timestamp.le_trans hn' hs.clock
      exact ⟨Serves.loyal_effects hvisit hturn.asks rfl, .inl ⟨hh, .lead hst hr hc ha hn⟩⟩
    · have hfar : t.onClusterInfo (r.stamp t.now) = t := if_neg hin
      exact hidle hc (hfar.symm ▸ .refl ht)
  · have hhead : b.node.record.isHead := beq_iff_eq.2 (congrArg Prod.fst hlead)
    exact hidle hc (Turn.rests_onClusterInfo ht hne hn hr (.inr ⟨hst, hhead⟩))

/-- The highest node goes on as planned, as long as no timer is late. -/
lemma visit (h : b.Reigns top w) (hm : b.Matches) (hs : b.Serves v b')
    (hp : v.position = place) (hc : v.call.Loyal top place top v.now)
    (hd : ∀ a ∈ b.alarms, v.now ≤ a.due) : b.Proceeds top place w v b' := by
  cases hv : v.call with
  | start | formCluster =>
    rw [hv] at hc
    cases hc
  | timer timer =>
    rw [hv] at hc
    cases hc with
    | timer handle ha =>
    cases timer with
    | start => exact h.of_start hm hs hv ha
    | send => exact h.of_send hm hs hp hv ha hd
    | electionCheck => exact h.of_electionCheck hm hs hv ha hd
    | upkeep => exact h.of_upkeep hm hs hv hd
    | _ => exact ha.elim
  | packet sender packet =>
    rw [hv] at hc
    cases hc with
    | packet hne hn hml => exact h.of_message hm hs hv hne hn hml hd

end Reigns

end Bench

end ClusterWave
