import ClusterWave.Proofs.Clustering.Loyal

/-!
# Nodes that follow

A node that is not the highest one waits until it hears that `top` leads, and joins its cluster
then. It stays in it as long as it hears of `top` within the timeout.
-/

namespace ClusterWave

lemma NodeId.ne_of_lt {a b : NodeId} (h : a < b) : a ≠ b := by
  rintro rfl
  exact UInt64.lt_irrefl _ h

lemma NodeId.not_lt_of_lt {a b : NodeId} (h : a < b) : ¬ b < a := UInt64.lt_asymm h

/-- What is known about a neighbor. -/
structure Record.Known (top id : NodeId) (now : Timestamp) (r : Record) : Prop where
  id : r.id = id
  loyal : r.Loyal top
  since : .ofMillis 1001 ≤ r.timestamp
  past : r.timestamp ≤ now
  late : r.isHead → .ofMillis 1101 ≤ r.timestamp

/-- What is known about the neighbors of a node. -/
structure Registry.Loyal (top own : NodeId) (now : Timestamp) (g : Registry) : Prop where
  known : ∀ id r, g.neighbors.get? id = some r → r.Known top id now
  others : ¬ g.neighbors.contains own

/-- The time by which a node has to hear of `top`: within the timeout, or after the first second. -/
def Registry.deadline (top : NodeId) (g : Registry) : Timestamp :=
  match g.neighbors.get? top with
  | some r => r.timestamp + Duration.ofMillis 600
  | none => .ofMillis 1001

/-- A node waits for its election. -/
def Node.Waits (n : Node) : Prop := n.status = .init ∧ n.record.role = (.standalone, none)

/-- A node has joined the cluster of `top`, which it hears as a head. -/
structure Node.HasJoined (top : NodeId) (now : Timestamp) (n : Node) : Prop where
  status : n.status = .update
  role : n.record.role = (.member, some top)
  head : ∃ r, n.registry.neighbors.get? top = some r ∧ r.isHead
  late : .ofMillis 1101 ≤ now

/-- A node that is lower than `top` waits for it, or has joined its cluster. It takes the cluster
for a foreign one only before it has joined. -/
structure Node.Follows (top : NodeId) (now : Timestamp) (n : Node) : Prop where
  settings : n.settings = .standard
  below : n.record.id < top
  registry : n.registry.Loyal top n.record.id now
  foreign : ∀ c, n.registry.foreign.contains c → c = top ∧ n.record.cluster = none
  stage : n.Waits ∨ n.HasJoined top now

/-- What a node may be called for: a timer on time, or a message of another node. -/
inductive Call.Loyal (top : NodeId) (place : Vec3) (own : NodeId) (now : Timestamp) : Call → Prop
  | timer {timer : Timer} (handle : TimerHandle) (h : Alarm.Timely ⟨now, handle, timer⟩) :
      Loyal top place own now (.timer timer)
  | packet {sender : NodeId} {m : Message} (hs : sender ≠ own) (hn : .ofMillis 1001 ≤ now)
      (h : m.Loyal top place sender now) :
      Loyal top place own now (.packet sender (Packet.single m))

variable {top own id : NodeId} {place : Vec3} {now now' : Timestamp} {t t' t'' : Turn}
  {n n' : Node} {g g' : Registry} {r : Record}

/-! ### Records and registries -/

lemma Record.Heard.known {sender : NodeId} (h : r.Heard top place sender now)
    (hn : .ofMillis 1001 ≤ now) : (r.stamp now).Known top r.id now :=
  ⟨rfl, ⟨h.loyal.cluster, h.loyal.head, h.loyal.free, h.loyal.below⟩, hn,
    Timestamp.le_refl _, h.late⟩

namespace Registry

namespace Loyal

lemma keys (h : g.Loyal top own now) : ∀ id r, g.neighbors.get? id = some r → r.id = id :=
  fun id r hr => (h.known id r hr).id

lemma later (h : g.Loyal top own now) (hn : now ≤ now') : g.Loyal top own now' := by
  refine ⟨?_, h.others⟩
  intro id r hr
  obtain ⟨hid, hloyal, hsince, hpast, hlate⟩ := h.known id r hr
  exact ⟨hid, hloyal, hsince, Timestamp.le_trans hpast hn, hlate⟩

lemma congr (h : g.Loyal top own now) (hn : g'.neighbors = g.neighbors) :
    g'.Loyal top own now := by
  constructor
  · rw [hn]
    exact h.known
  · rw [hn]
    exact h.others

lemma hear (h : g.Loyal top own now) (hr : r.Known top r.id now) (hne : r.id ≠ own) :
    (g.hear r).Loyal top own now := by
  constructor
  · intro id r' hr'
    rcases Table.of_get?_insert hr' with ⟨rfl, rfl⟩ | ⟨-, hr'⟩
    · exact hr
    · exact h.known id r' hr'
  · intro hc
    obtain ⟨r', hr'⟩ := Table.contains_iff.1 hc
    rw [Registry.hear, Table.get?_insert_of_ne _ _ hne.symm] at hr'
    exact h.others (Table.contains_of_get? hr')

lemma maintain (h : g.Loyal top own now) (self : Record) (timeout : Duration) :
    (g.maintain self now timeout).1.Loyal top own now := by
  constructor
  · intro id r hr
    exact h.known id r (get?_of_maintain hr)
  · intro hc
    obtain ⟨r, hr⟩ := Table.contains_iff.1 hc
    exact h.others (Table.contains_of_get? (get?_of_maintain hr))

/-- The only head that is heard is `top`. -/
lemma eq_of_highestHead? {head : NodeId} (h : g.Loyal top own now)
    (hh : g.highestHead? = some head) : head = top := by
  obtain ⟨id, r, hr, hhead, rfl⟩ := exists_of_highestHead? hh
  exact (h.known id r hr).loyal.head hhead

end Loyal

lemma deadline_of_get? (h : g.neighbors.get? top = some r) :
    g.deadline top = r.timestamp + Duration.ofMillis 600 := by
  rw [deadline, h]

lemma deadline_congr (h : g'.neighbors.get? top = g.neighbors.get? top) :
    g'.deadline top = g.deadline top := by
  rw [deadline, h, deadline]

lemma deadline_of_none (h : g.neighbors.get? top = none) :
    g.deadline top = .ofMillis 1001 := by
  rw [deadline, h]

/-- The deadline cannot be put off further. -/
lemma Loyal.deadline_le (h : g.Loyal top own now) (hn : .ofMillis 1001 ≤ now) :
    g.deadline top ≤ now + Duration.ofMillis 600 := by
  cases hr : g.neighbors.get? top with
  | none =>
    rw [deadline_of_none hr]
    exact Timestamp.le_trans hn (Timestamp.le_add _ _)
  | some r =>
    rw [deadline_of_get? hr]
    exact Timestamp.add_le_add (h.known top r hr).past _

/-- Before the deadline `top` is not dropped, and if it has not been heard yet nobody is. -/
lemma Loyal.not_isStale (h : g.Loyal top own now) (hd : now ≤ g.deadline top) :
    (∀ r, g.neighbors.get? top = some r → ¬ isStale now Settings.standard.timeout r) ∧
      (g.neighbors.get? top = none →
        ∀ id r, g.neighbors.get? id = some r → ¬ isStale now Settings.standard.timeout r) := by
  constructor
  · intro r hr
    have ht : Settings.standard.timeout.nanos = 600000 * 1000 := by decide
    have hm : (Duration.ofMillis 600).micros.toNat = 600000 := by decide
    rw [deadline_of_get? hr, Timestamp.le_iff, Timestamp.toNat_add, hm] at hd
    exact Registry.not_isStale ht (Nat.le_trans hd (Nat.min_le_left _ _))
  · intro hnone id r hr hs
    rw [deadline_of_none hnone] at hd
    have hle : now ≤ r.timestamp := Timestamp.le_trans hd (h.known id r hr).since
    exact Timestamp.not_lt.2 hle (lt_of_isStale hs)

end Registry

/-! ### Neighbors stay in the registry when messages are handled -/

namespace Turn

lemma neighbors_join (t : Turn) (head : NodeId) :
    (t.join head).node.registry.neighbors = t.node.registry.neighbors := by
  have hg : (t.join head).node.registry = t.node.registry.forgetCluster head :=
    congrArg (·.2.1) (t.core_join head)
  rw [hg]
  rfl

lemma neighbors_weighNeighbor (t : Turn) (r : Record) :
    (t.weighNeighbor r).node.registry.neighbors = t.node.registry.neighbors := by
  have hw : (if t.node.record.isStandalone then t.settle
      else if t.node.record.isHead && r.belongsTo t.node.id then
        t.setRegistry (t.node.registry.enrol r)
      else if t.node.registry.members.isEmpty then t.merge else t).node.registry.neighbors =
        t.node.registry.neighbors := by
    split
    · simp only [settle]
      split
      · rfl
      · rw [node_queueSend]
        rfl
    · split
      · rfl
      · split
        · simp only [merge]
          split
          · rfl
          · split <;> rfl
        · rfl
  simp only [weighNeighbor]
  split
  · split
    · exact neighbors_join _ _
    · rfl
  · exact hw
  · exact hw
  · rfl

/-- A foreign cluster is noted, or nothing happens. -/
lemma noteForeign_eq (t : Turn) (r : Record) :
    t.noteForeign r = t ∨ ∃ c p, r.cluster = some c ∧ t.node.record.cluster ≠ some c ∧
      t.noteForeign r = t.setRegistry (t.node.registry.noteCluster c r p) := by
  simp only [noteForeign]
  split
  · exact .inl rfl
  · rename_i c hc
    split
    · rename_i hforeign
      exact .inr ⟨c, _, hc, hforeign.1, rfl⟩
    · exact .inl rfl

lemma neighbors_noteForeign (t : Turn) (r : Record) :
    (t.noteForeign r).node.registry.neighbors = t.node.registry.neighbors := by
  rcases t.noteForeign_eq r with h | ⟨c, p, -, -, h⟩
  · rw [h]
  · rw [h]
    exact Registry.neighbors_noteCluster _ _ _ _

lemma neighbors_onClusterInfo {r : Record} (hr : t.node.inRange r) :
    (t.onClusterInfo r).node.registry.neighbors = (t.node.registry.hear r).neighbors := by
  rw [onClusterInfo, if_pos hr, neighbors_noteForeign, neighbors_weighNeighbor]
  rfl

end Turn

namespace Node.Follows

lemma ne (h : n.Follows top now) : n.record.id ≠ top := NodeId.ne_of_lt h.below

lemma later (h : n.Follows top now) (hn : now ≤ now') : n.Follows top now' := by
  refine ⟨h.settings, h.below, h.registry.later hn, h.foreign, h.stage.imp_right ?_⟩
  rintro ⟨hstatus, hrole, hhead, hlate⟩
  exact ⟨hstatus, hrole, hhead, Timestamp.le_trans hlate hn⟩

/-- The place of the node and the rest of its record do not matter. -/
lemma congr (h : n.Follows top now) (hs : n'.settings = n.settings) (hst : n'.status = n.status)
    (hg : n'.registry = n.registry) (hi : n'.record.id = n.record.id)
    (hr : n'.record.role = n.record.role) : n'.Follows top now := by
  have hc : n'.record.cluster = n.record.cluster := congrArg Prod.snd hr
  constructor
  · exact hs.trans h.settings
  · exact hi ▸ h.below
  · rw [hg, hi]
    exact h.registry
  · rw [hg, hc]
    exact h.foreign
  · refine h.stage.imp (fun hw => ⟨hst.trans hw.1, hr.trans hw.2⟩) fun hj => ?_
    exact ⟨hst.trans hj.status, hr.trans hj.role, hg ▸ hj.head, hj.late⟩

lemma of_core (h : n.Follows top now) (hs : n'.settings = n.settings) (hc : n'.core = n.core) :
    n'.Follows top now := by
  obtain ⟨hr, hg, hst⟩ : n'.record = n.record ∧ n'.registry = n.registry ∧
      n'.status = n.status := by
    simpa [core] using hc
  exact h.congr hs hst hg (by rw [hr]) (by rw [hr])

lemma not_isHead (h : n.Follows top now) : ¬ n.record.isHead := by
  intro hh
  have hd : n.record.degree = .head := beq_iff_eq.1 hh
  rcases h.stage with hw | hj
  · cases hd.symm.trans (congrArg Prod.fst hw.2)
  · cases hd.symm.trans (congrArg Prod.fst hj.role)

lemma cluster (h : n.Follows top now) : n.record.cluster = none ∨ n.record.cluster = some top :=
  h.stage.imp (fun hw => congrArg Prod.snd hw.2) fun hj => congrArg Prod.snd hj.role

/-- What a node that follows says about itself. -/
lemma heard (h : n.Follows top now) (place : Vec3) (arrival : Timestamp) :
    n.record.Heard top place n.record.id arrival :=
  ⟨rfl, ⟨h.cluster, fun hh => absurd hh h.not_isHead, fun hi => absurd hi h.ne, .inr h.below⟩,
    fun hi => absurd hi h.ne, fun hi => absurd hi h.ne, fun hh => absurd hh h.not_isHead⟩

/-- From within the cluster no foreign one is known. -/
lemma no_foreign (h : n.Follows top now) :
    n.record.cluster = none ∨ ∀ c, ¬ n.registry.foreign.contains c := by
  rcases h.cluster with hc | hc
  · exact .inl hc
  · right
    intro c hf
    rw [(h.foreign c hf).2] at hc
    cases hc

/-- A member keeps hearing of `top` as a head. -/
lemma hear (h : n.Follows top now) (hr : r.Known top r.id now) (hne : r.id ≠ n.record.id)
    (hj : r.id = top → .ofMillis 1101 ≤ now → r.isHead) :
    Follows top now { n with registry := n.registry.hear r } := by
  refine ⟨h.settings, h.below, h.registry.hear hr hne, h.foreign, h.stage.imp_right ?_⟩
  rintro ⟨hstatus, hrole, ⟨r', hr', hh⟩, hlate⟩
  refine ⟨hstatus, hrole, ?_, hlate⟩
  by_cases he : top = r.id
  · refine ⟨r, ?_, hj he.symm hlate⟩
    rw [he]
    exact Table.get?_insert_self _ _ _
  · refine ⟨r', ?_, hh⟩
    rw [← hr']
    exact Table.get?_insert_of_ne _ _ he

/-- A node joins the cluster of `top` when it hears it as a head. -/
lemma join (h : t.node.Follows top now) (hr : t.node.registry.neighbors.get? top = some r)
    (hh : r.isHead) (hn : .ofMillis 1101 ≤ now) : (t.join top).node.Follows top now := by
  have hcore := t.core_join top
  have hrecord : (t.join top).node.record = t.node.record.join top := congrArg (·.1) hcore
  have hregistry : (t.join top).node.registry = t.node.registry.forgetCluster top :=
    congrArg (·.2.1) hcore
  have hstatus : (t.join top).node.status = .update := congrArg (·.2.2) hcore
  have hj : t.node.record.join top = t.node.record.setRole .member (some top) :=
    if_neg h.ne.symm
  have ha : t.Asks (Effect.Loyal top Vec3.zero top (.ofMillis 1000)) (t.join top) :=
    Turn.asks_join t (Timestamp.le_refl _) top
  have hs : (t.join top).node.settings = t.node.settings := ha.settings
  constructor
  · exact hs.trans h.settings
  · rw [hrecord, Record.id_join]
    exact h.below
  · rw [hregistry, hrecord, Record.id_join]
    exact h.registry.congr rfl
  · intro c hc
    rw [hregistry] at hc
    obtain ⟨r', hr'⟩ := Table.contains_iff.1 hc
    have hr' : (t.node.registry.foreign.erase top).get? c = some r' := hr'
    by_cases he : c = top
    · rw [he, Table.get?_erase_self] at hr'
      cases hr'
    · rw [Table.get?_erase_of_ne _ he] at hr'
      exact absurd (h.foreign c (Table.contains_of_get? hr')).1 he
  · refine .inr ⟨hstatus, ?_, ⟨r, ?_, hh⟩, hn⟩
    · rw [hrecord, hj]
      rfl
    · rw [hregistry]
      exact hr

/-! #### Upkeep -/

/-- As long as a node hears of `top` in time, nothing is lost in a round of upkeep. -/
lemma quiet (h : n.Follows top now) (hd : now ≤ n.registry.deadline top) :
    n.registry.Quiet n.record now n.settings.timeout := by
  obtain ⟨hfresh, hall⟩ := h.registry.not_isStale hd
  rw [h.settings]
  right
  constructor
  · intro c hown r hr
    rcases h.cluster with hcl | hcl
    · rw [hown] at hcl
      cases hcl
    · rw [hown] at hcl
      exact hfresh r (Option.some.inj hcl ▸ hr)
  · cases hr : n.registry.neighbors.get? top with
    | none => exact .inr (hall hr)
    | some r => exact .inl ⟨top, r, hr, hfresh r hr⟩

lemma headVisible (h : n.Follows top now) (hm : n.record.isMember) :
    n.registry.headVisible n.record := by
  rcases h.stage with hw | hj
  · rw [Record.isMember, show n.record.degree = .standalone from congrArg Prod.fst hw.2] at hm
    cases hm
  · obtain ⟨r, hr, hh⟩ := hj.head
    refine List.any_eq_true.2 ⟨(top, r), Table.get?_eq_some_iff.1 hr, ?_⟩
    have hb : n.record.belongsTo top := beq_iff_eq.2 (congrArg Prod.snd hj.role)
    rw [Bool.and_eq_true]
    exact ⟨hb, hh⟩

/-- The record of `top` is kept. -/
lemma get?_maintain (h : n.Follows top now) (hd : now ≤ n.registry.deadline top) :
    (n.registry.maintain n.record now n.settings.timeout).1.neighbors.get? top =
      n.registry.neighbors.get? top := by
  cases hr : n.registry.neighbors.get? top with
  | none =>
    apply Option.eq_none_iff_forall_ne_some.2
    intro r hr'
    rw [Registry.get?_of_maintain hr'] at hr
    cases hr
  | some r =>
    rw [h.settings]
    exact Registry.get?_maintain h.registry.keys hr ((h.registry.not_isStale hd).1 r hr)

/-- The cluster of `top` is taken for a foreign one only as long as the node is in none. -/
lemma maintain (h : n.Follows top now) (hd : now ≤ n.registry.deadline top) :
    Follows top now
      { n with registry := (n.registry.maintain n.record now n.settings.timeout).1 } := by
  refine ⟨h.settings, h.below, h.registry.maintain _ _, ?_, ?_⟩
  · intro c hc
    rcases Registry.foreign_of_maintain hc with hc | ⟨r, hr, hh, hb⟩
    · exact h.foreign c hc
    · have hknown := h.registry.known c r hr
      have he : c = top := hknown.id.symm.trans (hknown.loyal.head hh)
      refine ⟨he, h.cluster.resolve_right fun hcl => hb ?_⟩
      rw [he, Record.belongsTo, hcl]
      exact beq_self_eq_true _
  · refine h.stage.imp_right fun hj => ⟨hj.status, hj.role, ?_, hj.late⟩
    obtain ⟨r, hr, hh⟩ := hj.head
    exact ⟨r, (h.get?_maintain hd).trans hr, hh⟩

end Node.Follows

/-! ### Turns -/

/-- In a part of a turn the node keeps following, asks for nothing that is out of order and has to
hear of `top` no sooner than before. -/
structure Turn.Abides (top : NodeId) (place : Vec3) (t t' : Turn) : Prop where
  asks : t.Asks (Effect.Loyal top place t.node.record.id t.now) t'
  follows : t'.node.Follows top t.now
  deadline : t.node.registry.deadline top ≤ t'.node.registry.deadline top

namespace Turn.Abides

lemma follows_now (h : t.Abides top place t') : t'.node.Follows top t'.now :=
  h.asks.now.symm ▸ h.follows

lemma trans (h : t.Abides top place t') (h' : t'.Abides top place t'') :
    t.Abides top place t'' := by
  have ha := h'.asks
  rw [h.asks.id, h.asks.now] at ha
  exact ⟨h.asks.trans ha, h.asks.now ▸ h'.follows, Timestamp.le_trans h.deadline h'.deadline⟩

/-- Neither the neighborhood nor the status changes. -/
lemma of_core (h : t.node.Follows top t.now)
    (ha : t.Asks (Effect.Loyal top place t.node.record.id t.now) t')
    (hc : t'.node.core = t.node.core) : t.Abides top place t' := by
  refine ⟨ha, h.of_core ha.settings hc, ?_⟩
  rw [show t'.node.registry = t.node.registry from congrArg (·.2.1) hc]
  exact Timestamp.le_refl _

end Turn.Abides

namespace Turn

/-! #### Timers -/

lemma abides_beginClustering (h : t.node.Follows top t.now) (hw : t.node.Waits) :
    t.Abides top place t.beginClustering := by
  apply Abides.of_core h (asks_beginClustering h.settings)
  rw [core_beginClustering, ← hw.1]
  rfl

lemma abides_transmit (h : t.node.Follows top t.now) (hn : .ofMillis 1000 ≤ t.now) :
    t.Abides top place t.transmit := by
  rcases h.stage with hw | hj
  · have ht : t.transmit = t.sendGreeting := by
      simp only [transmit, hw.1]
    rw [ht]
    exact .of_core h (asks_sendGreeting h.settings hn (h.heard _ _)) (core_sendGreeting t)
  · simp only [transmit, hj.status]
    split
    · apply Abides.of_core h (asks_sendUpdate hn h.no_foreign (h.heard _ _))
      rw [sendUpdate_of_local h.no_foreign, core_queueSend]
      rfl
    · exact .of_core h (.refl t) rfl

/-- A node that hears of `top` does not run for head. -/
lemma abides_checkElection (h : t.node.Follows top t.now) (hn : .ofMillis 1000 ≤ t.now)
    (hr : t.node.registry.neighbors.get? top = some r) : t.Abides top place t.checkElection := by
  apply Abides.of_core h (asks_checkElection t hn)
  have hout : ¬ t.node.registry.outranks t.node.id := by
    intro ho
    have hknown := h.registry.known top r hr
    have hm : r ∈ t.node.registry.neighbors.values.filter fun r => !r.isMember := by
      refine List.mem_filter.2 ⟨?_, ?_⟩
      · exact List.mem_map.2 ⟨(top, r), Table.get?_eq_some_iff.1 hr, rfl⟩
      · rw [Bool.not_eq_true', Bool.eq_false_iff]
        exact hknown.loyal.free hknown.id
    have hlt : r.id < t.node.record.id := of_decide_eq_true (List.all_eq_true.1 ho r hm)
    rw [hknown.id] at hlt
    exact NodeId.not_lt_of_lt h.below hlt
  by_cases hs : t.node.status = .init
  · rcases h.stage with hw | hj
    · have halone : t.node.record.isStandalone := by
        rw [Record.isStandalone, show t.node.record.degree = .standalone from
          congrArg Prod.fst hw.2]
        rfl
      have ht : t.checkElection = t.queueSend t.node.settings.backoff := by
        simp only [checkElection, hs, halone, hout, ne_eq, not_true_eq_false, Bool.not_true,
          Bool.false_eq_true, if_false]
      rw [ht]
      exact core_queueSend _ _
    · rw [hj.status] at hs
      cases hs
  · rw [checkElection, if_pos hs]

lemma abides_upkeep (h : t.node.Follows top t.now)
    (hd : t.now ≤ t.node.registry.deadline top) : t.Abides top place t.upkeep := by
  cases hc : t.node.clustering with
  | false =>
    rw [upkeep_of_idle hc]
    exact .of_core h (.refl t) rfl
  | true =>
    let g : Registry :=
      (t.node.registry.maintain t.node.record t.now t.node.settings.timeout).1
    have hset : t.Abides top place (t.setRegistry g) := by
      refine ⟨.of_outbox rfl rfl rfl rfl rfl, h.maintain hd, ?_⟩
      have he : g.deadline top = t.node.registry.deadline top :=
        Registry.deadline_congr (h.get?_maintain hd)
      exact he ▸ Timestamp.le_refl _
    rw [upkeep_of_quiet h.registry.keys (h.quiet hd) h.headVisible hc]
    exact hset.trans (.of_core hset.follows_now (.arm _ _ (.schedule trivial)) rfl)

/-- A timer goes off on time, before the node has to hear of `top`. -/
lemma abides_fire (h : t.node.Follows top t.now) (hd : t.now ≤ t.node.registry.deadline top)
    {timer : Timer} {handle : TimerHandle} (ha : Alarm.Timely ⟨t.now, handle, timer⟩) :
    t.Abides top place (t.fire timer) := by
  have hslot (slot : Slot) : t.Abides top place (t.setSlot slot none) :=
    .of_core h (.of_outbox rfl rfl rfl rfl rfl) rfl
  cases timer with
  | start =>
    have ha : t.now ≤ .start := ha
    refine abides_beginClustering h (h.stage.resolve_right fun hj => ?_)
    have hlate : Timestamp.ofMillis 1101 ≤ .start := Timestamp.le_trans hj.late ha
    exact absurd hlate (by decide)
  | send =>
    exact (hslot .send).trans (abides_transmit (hslot .send).follows ha)
  | electionCheck =>
    have ha : .ofMillis 1100 ≤ t.now := ha
    cases hr : t.node.registry.neighbors.get? top with
    | none =>
      rw [Registry.deadline_of_none hr] at hd
      exact absurd (Timestamp.le_trans ha hd) (by decide)
    | some r =>
      have hn : Timestamp.ofMillis 1000 ≤ t.now := Timestamp.le_trans (by decide) ha
      exact (hslot .election).trans (abides_checkElection (hslot .election).follows hn hr)
  | upkeep =>
    exact (hslot .upkeep).trans (abides_upkeep (hslot .upkeep).follows hd)
  | _ => exact ha.elim

/-! #### Messages -/

lemma abides_hear {sender : NodeId} (h : t.node.Follows top t.now)
    (hs : sender ≠ t.node.record.id) (hn : .ofMillis 1001 ≤ t.now)
    (hr : r.Heard top place sender t.now) :
    t.Abides top place (t.setRegistry (t.node.registry.hear (r.stamp t.now))) := by
  have hne : (r.stamp t.now).id ≠ t.node.record.id := hr.id.symm ▸ hs
  refine ⟨.of_outbox rfl rfl rfl rfl rfl, h.hear (hr.known hn) hne ?_, ?_⟩
  · intro hi hlate
    apply Classical.byContradiction
    intro hh
    have hearly := hr.early (hr.id.symm.trans hi) hh
    exact absurd (Timestamp.le_trans hlate hearly) (by decide)
  · by_cases he : top = r.id
    · have hget : (t.node.registry.hear (r.stamp t.now)).neighbors.get? top =
          some (r.stamp t.now) := by
        rw [he]
        exact Table.get?_insert_self _ _ _
      refine Timestamp.le_trans (h.registry.deadline_le hn) ?_
      rw [show (t.setRegistry (t.node.registry.hear (r.stamp t.now))).node.registry =
        t.node.registry.hear (r.stamp t.now) from rfl, Registry.deadline_of_get? hget]
      exact Timestamp.le_refl _
    · have hd : (t.node.registry.hear (r.stamp t.now)).deadline top =
          t.node.registry.deadline top := Registry.deadline_congr (Table.get?_insert_of_ne _ _ he)
      exact hd ▸ Timestamp.le_refl _

/-- Joining the cluster of `top`. -/
lemma abides_join (h : t.node.Follows top t.now)
    (hr : t.node.registry.neighbors.get? top = some r) (hh : r.isHead)
    (hn : .ofMillis 1101 ≤ t.now) : t.Abides top place (t.join top) := by
  refine ⟨asks_join t (Timestamp.le_trans (by decide) hn) top, h.join hr hh hn, ?_⟩
  rw [← Registry.deadline_congr (congrArg (·.get? top) (neighbors_join t top))]
  exact Timestamp.le_refl _

lemma abides_weighNeighbor (h : t.node.Follows top t.now)
    (hr : t.node.registry.neighbors.get? r.id = some r) :
    t.Abides top place (t.weighNeighbor r) := by
  have hknown := h.registry.known r.id r hr
  rcases h.stage with hw | hj
  · simp only [weighNeighbor, hw.1]
    split
    · rename_i hh
      rw [Bool.and_eq_true] at hh
      have he : r.id = top := hknown.loyal.head hh.1
      rw [he] at hr ⊢
      exact abides_join h hr hh.1 (Timestamp.le_trans (hknown.late hh.1) hknown.past)
    · exact .of_core h (.refl t) rfl
  · have halone : ¬ t.node.record.isStandalone := by
      rw [Record.isStandalone, show t.node.record.degree = .member from
        congrArg Prod.fst hj.role]
      exact Bool.false_ne_true
    have hcluster : t.node.record.cluster = some top := congrArg Prod.snd hj.role
    have hmerge : t.merge = t := by
      simp only [merge]
      split
      · rfl
      · rename_i head hhead
        rw [h.registry.eq_of_highestHead? hhead, if_neg fun hc => hc.1 hcluster]
    have ht : t.weighNeighbor r = t := by
      simp only [weighNeighbor, hj.status, halone, h.not_isHead, hmerge, Bool.false_and,
        Bool.false_eq_true, if_false, ite_self]
    rw [ht]
    exact .of_core h (.refl t) rfl

lemma abides_noteForeign (h : t.node.Follows top t.now) (hr : r.Loyal top) :
    t.Abides top place (t.noteForeign r) := by
  have hneighbors := neighbors_noteForeign t r
  refine ⟨asks_noteForeign t r, ?_, ?_⟩
  · rcases t.noteForeign_eq r with ht | ⟨c, p, hc, hne, ht⟩
    · rw [ht]
      exact h
    · have hc : c = top := by
        rcases hr.cluster with hcl | hcl
        · rw [hc] at hcl
          cases hcl
        · exact Option.some.inj (hc.symm.trans hcl)
      have hnone : t.node.record.cluster = none :=
        h.cluster.resolve_right fun hcl => hne (hc ▸ hcl)
      rw [ht] at hneighbors ⊢
      refine ⟨h.settings, h.below, h.registry.congr hneighbors, ?_, ?_⟩
      · intro c' hc'
        refine ⟨?_, hnone⟩
        rcases Registry.foreign_of_noteCluster hc' with he | hold
        · exact he.trans hc
        · exact (h.foreign c' hold).1
      · refine h.stage.imp_right fun hj => ?_
        have hcl : t.node.record.cluster = some top := congrArg Prod.snd hj.role
        rw [hnone] at hcl
        cases hcl
  · rw [← Registry.deadline_congr (congrArg (·.get? top) hneighbors)]
    exact Timestamp.le_refl _

lemma abides_onClusterInfo {sender : NodeId} (h : t.node.Follows top t.now)
    (hs : sender ≠ t.node.record.id) (hn : .ofMillis 1001 ≤ t.now)
    (hr : r.Heard top place sender t.now) :
    t.Abides top place (t.onClusterInfo (r.stamp t.now)) := by
  simp only [onClusterInfo]
  split
  · have hhear : t.Abides top place (t.setRegistry (t.node.registry.hear (r.stamp t.now))) :=
      abides_hear h hs hn hr
    have hget : (t.node.registry.hear (r.stamp t.now)).neighbors.get? (r.stamp t.now).id =
        some (r.stamp t.now) := Table.get?_insert_self _ _ _
    have hweigh := hhear.trans (abides_weighNeighbor hhear.follows hget)
    exact hweigh.trans (abides_noteForeign hweigh.follows_now (hr.known hn).loyal)
  · exact .of_core h (.refl t) rfl

lemma abides_onInitiateCluster {sender : NodeId} (h : t.node.Follows top t.now)
    (hs : sender ≠ t.node.record.id) (hn : .ofMillis 1001 ≤ t.now)
    (hr : r.Heard top place sender t.now) (hh : r.isHead) :
    t.Abides top place (t.onInitiateCluster top (r.stamp t.now)) := by
  simp only [onInitiateCluster]
  split
  · have hhear : t.Abides top place (t.setRegistry (t.node.registry.hear (r.stamp t.now))) :=
      abides_hear h hs hn hr
    have hget : (t.node.registry.hear (r.stamp t.now)).neighbors.get? top =
        some (r.stamp t.now) := by
      rw [← hr.loyal.head hh]
      exact Table.get?_insert_self _ _ _
    exact hhear.trans (abides_join hhear.follows hget hh (hr.late hh))
  · exact .of_core h (.refl t) rfl

lemma abides_onMessage {sender : NodeId} {m : Message} (h : t.node.Follows top t.now)
    (hs : sender ≠ t.node.record.id) (hn : .ofMillis 1001 ≤ t.now)
    (hm : m.Loyal top place sender t.now) : t.Abides top place (t.onMessage sender m) := by
  cases hm with
  | info seq hr => exact abides_onClusterInfo h hs hn hr
  | candidacy seq hr hh hl => exact abides_onInitiateCluster h hs hn hr hh

/-- Who hears `top` can wait for it for some time again. -/
lemma le_deadline_onMessage {m : Message} (h : t.node.Follows top t.now)
    (hd : t.now ≤ t.node.registry.deadline top)
    (hrange : t.node.record.place.dist place.ground < Settings.standard.range)
    (hm : m.Loyal top place top t.now) :
    t.now + Duration.ofMillis 301 ≤ (t.onMessage top m).node.registry.deadline top := by
  have hin {r : Record} (hr : r.Heard top place top t.now) : t.node.inRange (r.stamp t.now) := by
    refine decide_eq_true ?_
    rw [h.settings, show (r.stamp t.now).place = place.ground from
      congrArg Vec3.ground (hr.place rfl)]
    exact hrange
  have hheard {r : Record} {t' : Turn} (hr : r.Heard top place top t.now)
      (ht : t'.node.registry.neighbors =
        (t.node.registry.hear (r.stamp t.now)).neighbors) :
      t.now + Duration.ofMillis 301 ≤ t'.node.registry.deadline top := by
    have hget : t'.node.registry.neighbors.get? top = some (r.stamp t.now) := by
      rw [ht, ← hr.id]
      exact Table.get?_insert_self _ _ _
    rw [Registry.deadline_of_get? hget]
    exact Timestamp.add_le_of_le _ (by decide)
  cases hm with
  | info seq hr => exact hheard hr (neighbors_onClusterInfo (hin hr))
  | candidacy seq hr hh hl =>
    simp only [onMessage, onInitiateCluster]
    split
    · exact hheard hr (neighbors_join _ _)
    · rename_i hc
      rcases h.stage with hw | hj
      · -- a node that waits has heard `top`, or it would be too late
        cases hget : t.node.registry.neighbors.get? top with
        | none =>
          rw [Registry.deadline_of_none hget] at hd
          exact absurd (Timestamp.le_trans (hr.late hh) hd) (by decide)
        | some r' =>
          refine absurd ⟨hw.1, hin hr, ?_⟩ hc
          have hid : top = _ := hr.id.symm
          rw [hid] at hget
          exact Table.contains_of_get? hget
      · -- a member has heard `top` as a head already
        obtain ⟨r', hr', hh'⟩ := hj.head
        rw [Registry.deadline_of_get? hr']
        have hnext : Timestamp.ofMillis 1201 + Duration.ofMillis 301 ≤
            Timestamp.ofMillis 1101 + Duration.ofMillis 600 := by decide
        have hlate : .ofMillis 1101 ≤ r'.timestamp := (h.registry.known top r' hr').late hh'
        exact Timestamp.le_trans (Timestamp.add_le_add hl _)
          (Timestamp.le_trans hnext (Timestamp.add_le_add hlate _))

end Turn

/-! ### Visits -/

namespace Turn

lemma onPacket_single (t : Turn) (sender : NodeId) (m : Message) :
    t.onPacket sender (Packet.single m) =
      (t.receive.onMessage sender m).noteRole t.node.record.role := rfl

lemma registry_noteRole (t : Turn) (before : Degree × Option NodeId) :
    (t.noteRole before).node.registry = t.node.registry := by
  rw [node_noteRole]

lemma Abides.noteRole (h : t.Abides top place t') (before : Degree × Option NodeId) :
    t.Abides top place (t'.noteRole before) := by
  refine h.trans (.of_core h.follows_now (.noteRole t' before) ?_)
  rw [node_noteRole]
  rfl

lemma abides_onTimer (h : t.node.Follows top t.now)
    (hd : t.now ≤ t.node.registry.deadline top) {timer : Timer} {handle : TimerHandle}
    (ha : Alarm.Timely ⟨t.now, handle, timer⟩) : t.Abides top place (t.onTimer timer) := by
  have hlocate : t.Abides top place t.locate :=
    ⟨.locate t, h.congr rfl rfl rfl rfl rfl, Timestamp.le_refl _⟩
  have hfire : t.locate.Abides top place (t.locate.fire timer) :=
    abides_fire (t := t.locate) hlocate.follows hd ha
  exact (hlocate.trans hfire).noteRole _

lemma abides_onPacket {sender : NodeId} {m : Message} (h : t.node.Follows top t.now)
    (hs : sender ≠ t.node.record.id) (hn : .ofMillis 1001 ≤ t.now)
    (hm : m.Loyal top place sender t.now) :
    t.Abides top place (t.onPacket sender (Packet.single m)) := by
  have hreceive : t.Abides top place t.receive :=
    ⟨.of_outbox rfl rfl rfl rfl rfl, h.congr rfl rfl rfl rfl rfl, Timestamp.le_refl _⟩
  rw [onPacket_single]
  exact (hreceive.trans (abides_onMessage hreceive.follows hs hn hm)).noteRole _

lemma le_deadline_onPacket {m : Message} (h : t.node.Follows top t.now)
    (hd : t.now ≤ t.node.registry.deadline top)
    (hrange : t.position.ground.dist place.ground < Settings.standard.range)
    (hm : m.Loyal top place top t.now) :
    t.now + Duration.ofMillis 301 ≤
      (t.onPacket top (Packet.single m)).node.registry.deadline top := by
  have hreceive : t.receive.node.Follows top t.receive.now := h.congr rfl rfl rfl rfl rfl
  have hle : t.receive.now + Duration.ofMillis 301 ≤
      (t.receive.onMessage top m).node.registry.deadline top :=
    le_deadline_onMessage hreceive hd hrange hm
  rw [onPacket_single, registry_noteRole]
  exact hle

end Turn

/-- A node keeps following whatever it is called for, as long as it hears of `top` in time. It asks
for nothing that is out of order, and whenever it hears of `top` it can wait for some time again. -/
lemma Node.Follows.visit {v : Visit} (h : n.Follows top v.now)
    (hd : v.now ≤ n.registry.deadline top)
    (hrange : v.position.ground.dist place.ground < Settings.standard.range)
    (hc : v.call.Loyal top place n.record.id v.now) :
    (n.visit v).node.Follows top v.now ∧
      (∀ e ∈ (n.visit v).outbox.effects, e.Loyal top place n.record.id v.now) ∧
      n.registry.deadline top ≤ (n.visit v).node.registry.deadline top ∧
      ∀ packet, v.call = .packet top packet →
        v.now + Duration.ofMillis 301 ≤ (n.visit v).node.registry.deadline top := by
  have hvisit (ht : (Turn.start n v.now v.position v.nextHandle).Abides top place (n.visit v)) :
      (n.visit v).node.Follows top v.now ∧
        (∀ e ∈ (n.visit v).outbox.effects, e.Loyal top place n.record.id v.now) ∧
        n.registry.deadline top ≤ (n.visit v).node.registry.deadline top := by
    refine ⟨ht.follows, ?_, ht.deadline⟩
    intro e he
    rcases ht.asks.effects e he with he | he
    · cases he
    · exact he
  rw [Node.visit] at hvisit ⊢
  obtain ⟨now, position, nextHandle, call⟩ := v
  cases hc with
  | timer handle ha =>
    obtain ⟨hf, he, hdl⟩ := hvisit (Turn.abides_onTimer h hd ha)
    refine ⟨hf, he, hdl, ?_⟩
    intro packet hp
    cases hp
  | packet hs hn hm =>
    obtain ⟨hf, he, hdl⟩ := hvisit (Turn.abides_onPacket h hs hn hm)
    refine ⟨hf, he, hdl, ?_⟩
    rintro packet ⟨⟩
    exact Turn.le_deadline_onPacket (t := Turn.start n now position nextHandle) h hd hrange hm

end ClusterWave
