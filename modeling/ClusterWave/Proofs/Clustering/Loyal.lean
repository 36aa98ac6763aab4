import ClusterWave.Proofs.Clustering.Neighborhood
import ClusterWave.Proofs.Peer.Upkeep

/-!
# Nodes that hear of one head only

A number of nodes run with standard settings, and one of them, `top`, has the highest number. As
long as no other node leads, nobody says that it does, and a node that hears of `top` waits or joins
its cluster: it does not run for head itself, since it knows a higher number, and it does not come
to lead by upkeep, since it hears of `top` in time.
-/

namespace ClusterWave

/-- Whether a node may ask for an alarm. Clustering begins at once, the first transmission is due a
second later, and elections are checked 100 milliseconds after that. -/
def Alarm.Timely (a : Alarm) : Prop :=
  match a.timer with
  | .start => a.due ≤ .start
  | .send => .ofMillis 1000 ≤ a.due
  | .electionCheck => .ofMillis 1100 ≤ a.due
  | .upkeep => True
  | _ => False

/-- What may be said about a node as long as nobody but `top` leads. -/
structure Record.Loyal (top : NodeId) (r : Record) : Prop where
  cluster : r.cluster = none ∨ r.cluster = some top
  head : r.isHead → r.id = top
  free : r.id = top → ¬ r.isMember
  below : r.id = top ∨ r.id < top

/-- What a node at a given place may say about itself when that is heard at a given time. The node
`top` leads since 1100 milliseconds at the earliest, and does not say that it stands alone after the
first second. -/
structure Record.Heard (top : NodeId) (place : Vec3) (sender : NodeId) (arrival : Timestamp)
    (r : Record) : Prop where
  id : r.id = sender
  loyal : r.Loyal top
  place : sender = top → r.position = place
  early : sender = top → ¬ r.isHead → arrival ≤ .ofMillis 1001
  late : r.isHead → .ofMillis 1101 ≤ arrival

inductive Message.Loyal (top : NodeId) (place : Vec3) (sender : NodeId) (arrival : Timestamp) :
    Message → Prop
  | info (seq : UInt64) {r : Record} (h : r.Heard top place sender arrival) :
      Loyal top place sender arrival (.clusterInfo seq r)
  | candidacy (seq : UInt64) {r : Record} (h : r.Heard top place sender arrival) (hh : r.isHead)
      (hl : arrival ≤ .ofMillis 1201) : Loyal top place sender arrival (.initiateCluster seq top r)

/-- What a node at a given place may ask for: alarms in time and, after the first second, broadcasts
that arrive a millisecond later. -/
inductive Effect.Loyal (top : NodeId) (place : Vec3) (id : NodeId) (now : Timestamp) : Effect → Prop
  | schedule {handle : TimerHandle} {delay : Duration} {timer : Timer}
      (h : Alarm.Timely ⟨now + delay, handle, timer⟩) :
      Loyal top place id now (.schedule handle delay timer)
  | cancel (handle : TimerHandle) : Loyal top place id now (.cancel handle)
  | broadcast {m : Message} (hn : .ofMillis 1000 ≤ now)
      (h : m.Loyal top place id (now + Duration.ofMillis 1)) :
      Loyal top place id now (.broadcast (Packet.single m))

/-- From one turn to the other a node asks for nothing but certain effects. -/
structure Turn.Asks (ok : Effect → Prop) (t t' : Turn) : Prop where
  now : t'.now = t.now
  position : t'.position = t.position
  settings : t'.node.settings = t.node.settings
  id : t'.node.record.id = t.node.record.id
  effects : ∀ e ∈ t'.outbox.effects, e ∈ t.outbox.effects ∨ ok e

variable {top : NodeId} {place : Vec3} {id : NodeId} {now : Timestamp} {t t' t'' : Turn}
  {ok : Effect → Prop} {r : Record}

namespace Turn.Asks

lemma refl (t : Turn) : t.Asks ok t := ⟨rfl, rfl, rfl, rfl, fun _ => .inl⟩

lemma trans (h : t.Asks ok t') (h' : t'.Asks ok t'') : t.Asks ok t'' := by
  refine ⟨h'.now.trans h.now, h'.position.trans h.position, h'.settings.trans h.settings,
    h'.id.trans h.id, ?_⟩
  intro e he
  rcases h'.effects e he with he | he
  · exact h.effects e he
  · exact .inr he

/-- Nothing is asked for. -/
lemma of_outbox (hn : t'.now = t.now) (hp : t'.position = t.position)
    (hs : t'.node.settings = t.node.settings) (hi : t'.node.record.id = t.node.record.id)
    (ho : t'.outbox = t.outbox) : t.Asks ok t' := by
  refine ⟨hn, hp, hs, hi, ?_⟩
  rw [ho]
  exact fun _ => .inl

/-- One more effect is asked for. -/
lemma add {e : Effect} (hn : t'.now = t.now) (hp : t'.position = t.position)
    (hs : t'.node.settings = t.node.settings) (hi : t'.node.record.id = t.node.record.id)
    (ho : t'.outbox.effects = t.outbox.effects ++ [e]) (he : ok e) : t.Asks ok t' := by
  refine ⟨hn, hp, hs, hi, ?_⟩
  intro e' hm
  rw [ho, List.mem_append, List.mem_singleton] at hm
  rcases hm with hm | rfl
  · exact .inl hm
  · exact .inr he

lemma locate (t : Turn) : t.Asks ok t.locate := of_outbox rfl rfl rfl rfl rfl

lemma setStatus (t : Turn) (s : Status) : t.Asks ok (t.setStatus s) :=
  of_outbox rfl rfl rfl rfl rfl

lemma noteRole (t : Turn) (before : Degree × Option NodeId) : t.Asks ok (t.noteRole before) := by
  simp only [Turn.noteRole]
  split
  · exact refl t
  · exact of_outbox rfl rfl rfl rfl rfl

lemma arm (t : Turn) (slot : Slot) {delay : Duration} {timer : Timer}
    (h : ok (.schedule t.outbox.handle delay timer)) : t.Asks ok (t.arm slot delay timer) :=
  add rfl rfl rfl rfl rfl h

lemma broadcast (t : Turn) {m : Message} (h : ok (.broadcast (Packet.single m))) :
    t.Asks ok (t.broadcast m) := add rfl rfl rfl rfl rfl h

lemma disarm (t : Turn) (slot : Slot) (h : ∀ handle, ok (.cancel handle)) :
    t.Asks ok (t.disarm slot) := by
  simp only [Turn.disarm]
  split
  · exact refl t
  · exact add rfl rfl rfl rfl rfl (h _)

lemma queueSend (t : Turn) {delay : Duration} (h : ok (.schedule t.outbox.handle delay .send)) :
    t.Asks ok (t.queueSend delay) := by
  simp only [Turn.queueSend]
  split
  · exact arm t .send h
  · exact refl t

end Turn.Asks

/-! ### What clustering asks for -/

lemma Timestamp.start_add_sendWindow :
    Timestamp.start + Settings.standard.sendWindow = .ofMillis 1000 := by decide

lemma Timestamp.send_add_backoff :
    Timestamp.ofMillis 1000 + Settings.standard.backoff = .ofMillis 1100 := by decide

namespace Turn

/-- After the first second a transmission may be queued at any time. -/
lemma asks_queueSend (t : Turn) (h : .ofMillis 1000 ≤ now) (delay : Duration) :
    t.Asks (Effect.Loyal top place id now) (t.queueSend delay) :=
  .queueSend t (.schedule (Timestamp.le_trans h (Timestamp.le_add _ _)))

lemma asks_beginClustering (hs : t.node.settings = .standard) :
    t.Asks (Effect.Loyal top place id now) t.beginClustering := by
  have hsend : Timestamp.ofMillis 1000 ≤ now + t.node.settings.sendWindow := by
    rw [hs, ← Timestamp.start_add_sendWindow]
    exact Timestamp.add_le_add (Timestamp.start_le now) _
  have hb : t.Asks (Effect.Loyal top place id now)
      (t.edit fun n => { n with clustering := true, status := .init }) :=
    .of_outbox rfl rfl rfl rfl rfl
  have hq := hb.trans (.queueSend _ (Effect.Loyal.schedule hsend))
  exact (hq.trans (.disarm _ .upkeep .cancel)).trans (.arm _ _ (.schedule trivial))

lemma asks_join (t : Turn) (h : .ofMillis 1000 ≤ now) (head : NodeId) :
    t.Asks (Effect.Loyal top place id now) (t.join head) := by
  have hd : t.Asks (Effect.Loyal top place id now) (t.disarm .election) := .disarm t _ .cancel
  have hj (u : Turn) : u.Asks (Effect.Loyal top place id now)
      (((u.setRecord (u.node.record.join head)).setRegistry
        (u.node.registry.forgetCluster head)).setStatus .update) :=
    .of_outbox rfl rfl rfl (Record.id_join _ _) rfl
  simp only [join]
  exact (hd.trans (hj _)).trans (asks_queueSend _ h _)

/-! ### Transmissions -/

lemma asks_sendGreeting (hs : t.node.settings = .standard) (h : .ofMillis 1000 ≤ now)
    (hr : t.node.record.Heard top place id (now + Duration.ofMillis 1)) :
    t.Asks (Effect.Loyal top place id now) t.sendGreeting := by
  have hcheck : Timestamp.ofMillis 1100 ≤ now + t.node.settings.backoff := by
    rw [hs, ← Timestamp.send_add_backoff]
    exact Timestamp.add_le_add h _
  have ha : t.Asks (Effect.Loyal top place id now) t.advanceSeq :=
    .of_outbox rfl rfl rfl rfl rfl
  have hb : t.Asks (Effect.Loyal top place id now)
      (t.advanceSeq.broadcast (.clusterInfo t.advanceSeq.node.seq t.node.record)) :=
    ha.trans (.broadcast _ (.broadcast h (.info _ hr)))
  exact (hb.trans (.disarm _ .election .cancel)).trans (.arm _ _ (.schedule hcheck))

lemma asks_sendCandidacy (h : .ofMillis 1000 ≤ now) (hi : t.node.record.id = top)
    (hr : t.node.record.becomeHead.Heard top place id (now + Duration.ofMillis 1))
    (hl : now + Duration.ofMillis 1 ≤ .ofMillis 1201) :
    t.Asks (Effect.Loyal top place id now) t.sendCandidacy := by
  let u := (t.setRecord t.node.record.becomeHead).advanceSeq
  have hu : t.Asks (Effect.Loyal top place id now) u := .of_outbox rfl rfl rfl rfl rfl
  have hm : (Message.initiateCluster u.node.seq u.node.id u.node.record).Loyal top place id
      (now + Duration.ofMillis 1) := by
    have hid : u.node.id = top := hi
    rw [hid]
    exact .candidacy _ hr rfl hl
  have hb : u.Asks (Effect.Loyal top place id now)
      (u.broadcast (.initiateCluster u.node.seq u.node.id u.node.record)) :=
    .broadcast _ (.broadcast h hm)
  have hf (u : Turn) (delay : Duration) : u.Asks (Effect.Loyal top place id now)
      (u.clusterFormed delay) := by
    have hs : u.Asks (Effect.Loyal top place id now) ((u.count fun c =>
        { c with formationMessages := c.formationMessages + 1 }).setStatus .update) :=
      .of_outbox rfl rfl rfl rfl rfl
    exact hs.trans (asks_queueSend _ h _)
  exact (hu.trans hb).trans (hf _ _)

/-- An update of a node that knows of no foreign cluster is a single message. -/
lemma sendUpdate_of_local (hf : t.node.record.cluster = none ∨
    ∀ c, ¬ t.node.registry.foreign.contains c) :
    t.sendUpdate = (t.advanceSeq.broadcast (.clusterInfo t.advanceSeq.node.seq
      t.advanceSeq.node.record)).queueSend t.node.settings.interval := by
  have hm : t.updateMessages =
      (t.advanceSeq, [.clusterInfo t.advanceSeq.node.seq t.advanceSeq.node.record]) := by
    simp only [updateMessages]
    split
    · rfl
    · rename_i c hc
      have hc : t.node.record.cluster = some c := hc
      have hnone := hf.resolve_left (by rw [hc]; exact Option.some_ne_none c)
      have hempty : t.node.registry.foreign.values = [] := by
        have he := Table.isEmpty_of_get? fun c r hr => hnone c (Table.contains_of_get? hr)
        rw [Table.values, List.isEmpty_iff.1 he]
        rfl
      show t.node.registry.foreign.values.foldl _ _ = _
      rw [hempty]
      rfl
  simp only [sendUpdate, hm]
  rfl

lemma asks_sendUpdate (h : .ofMillis 1000 ≤ now)
    (hf : t.node.record.cluster = none ∨ ∀ c, ¬ t.node.registry.foreign.contains c)
    (hr : t.node.record.Heard top place id (now + Duration.ofMillis 1)) :
    t.Asks (Effect.Loyal top place id now) t.sendUpdate := by
  have ha : t.Asks (Effect.Loyal top place id now) t.advanceSeq :=
    .of_outbox rfl rfl rfl rfl rfl
  rw [sendUpdate_of_local hf]
  exact (ha.trans (.broadcast _ (.broadcast h (.info _ hr)))).trans (asks_queueSend _ h _)

/-! ### Election and upkeep -/

lemma asks_checkElection (t : Turn) (h : .ofMillis 1000 ≤ now) :
    t.Asks (Effect.Loyal top place id now) t.checkElection := by
  have hs (s : Status) (delay : Duration) : t.Asks (Effect.Loyal top place id now)
      ((t.setStatus s).queueSend delay) := .trans (.setStatus t s) (asks_queueSend _ h _)
  simp only [checkElection]
  split
  · exact .refl t
  · split
    · exact hs _ _
    · split
      · exact hs _ _
      · exact asks_queueSend t h _

/-- A round of upkeep that is quiet changes the registry only, and goes on. -/
lemma upkeep_of_quiet (hk : ∀ id r, t.node.registry.neighbors.get? id = some r → r.id = id)
    (h : t.node.registry.Quiet t.node.record t.now t.node.settings.timeout)
    (hv : t.node.record.isMember → t.node.registry.headVisible t.node.record)
    (hc : t.node.clustering) :
    t.upkeep = (t.setRegistry (t.node.registry.maintain t.node.record t.now
      t.node.settings.timeout).1).arm .upkeep t.node.settings.interval .upkeep := by
  obtain ⟨hown, hlost, hbecame⟩ := Registry.maintain_of_quiet hk h hv
  simp only [upkeep, hc, if_true, afterUpkeep, hlost, hbecame, Bool.false_eq_true, if_false, hown]
  rfl

/-! ### Messages -/

lemma asks_noteForeign (t : Turn) (r : Record) : t.Asks ok (t.noteForeign r) := by
  simp only [noteForeign]
  split
  · exact .refl t
  · split
    · exact .of_outbox rfl rfl rfl rfl rfl
    · exact .refl t

end Turn

end ClusterWave
