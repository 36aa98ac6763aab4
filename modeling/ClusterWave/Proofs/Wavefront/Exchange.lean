import ClusterWave.Proofs.Bench.Queue

/-!
# The exchange of maps

When clustering ends, a head takes a map up for every foreign cluster it knows of, and decides after
a grace period. A map is first sent when its stagger is over, which adds up from one cluster to the
next. So a map is sent before the decision if its stagger is not longer than the grace period,
unless an acknowledgment in the name of the cluster comes even earlier; the decision gives up what
is still waiting by then.
-/

namespace ClusterWave

/-- To whom a packet was sent, if it was sent to a single node. -/
def Note.receiver? : Note → Option NodeId
  | .send peer _ => some peer
  | _ => none

/-- How long after the end of clustering the map for the last of some clusters is first sent, if
those are the first ones. -/
def Node.stagger (n : Node) (peers : List NodeId) : Duration :=
  peers.foldl (fun d peer => d +
    n.settings.slot.scale (min (peer.val.toNat + n.id.val.toNat) (UInt32.size - 1))) .zero

variable {n : Node} {v : Visit} {t : Turn} {as : List Alarm} {peer : NodeId} {m : Message}
  {a : Alarm}

/-! ### Taking maps up -/

namespace Turn

/-- The staggers add up. -/
lemma stagger_sendMaps (map : DensityMap) (peers : List NodeId) (acc : Turn × Duration) :
    (peers.foldl (sendMap map) acc).2 = peers.foldl (fun d peer => d +
      acc.1.node.settings.slot.scale
        (min (peer.val.toNat + acc.1.node.id.val.toNat) (UInt32.size - 1))) acc.2 := by
  induction peers generalizing acc with
  | nil => rfl
  | cons peer peers ih => exact ih (sendMap map acc peer)

/-- A map is taken up in place of any that was pending. -/
lemma queues_sendMap (map : DensityMap) (acc : Turn × Duration) (peer : NodeId)
    (hk : acc.1.Keeps as) : (sendMap map acc peer).1.Queues as peer
      (.densityMap (acc.1.node.seq + 1) acc.1.node.id acc.1.node.record map)
      ⟨acc.1.now + (sendMap map acc peer).2, acc.1.outbox.handle,
        .retransmit peer .densityMap⟩ := by
  refine ⟨rfl, Table.get?_insert_self _ _ _, ?_⟩
  have ha : ⟨acc.1.now + (sendMap map acc peer).2, acc.1.outbox.handle,
      .retransmit peer .densityMap⟩ ∈ (acc.1.outbox.schedule (sendMap map acc peer).2
        (.retransmit peer .densityMap)).alarms acc.1.now as := by
    rw [Outbox.alarms_schedule]
    exact Alarm.mem_insert.2 (.inl rfl)
  show _ ∈ (ReliableSender.silence _
    (acc.1.node.reliable.pending.get? (peer, .densityMap))).alarms _ as
  cases hp : acc.1.node.reliable.pending.get? (peer, .densityMap) with
  | none => exact ha
  | some q =>
    refine Outbox.mem_alarms_cancel ha fun he => ?_
    exact Nat.ne_of_lt (hk.old _ q hp) (congrArg TimerHandle.val he)

lemma Keeps.sendMaps (hv : v.call = .timer .stop) (map : DensityMap) (peers : List NodeId)
    {acc : Turn × Duration} (hk : acc.1.Keeps as) :
    (peers.foldl (sendMap map) acc).1.Keeps as := by
  have hm : Moves acc.1.node v acc.1 _ := Moves.sendMaps map peers acc hv
  exact hm.keeps hk

/-- Maps for other clusters do not touch a map that is taken up. -/
lemma Queues.sendMaps (hv : v.call = .timer .stop) (map : DensityMap) {peers : List NodeId}
    (hp : peer ∉ peers) {acc : Turn × Duration} (hk : acc.1.Keeps as)
    (h : acc.1.Queues as peer m a) :
    (peers.foldl (sendMap map) acc).1.Queues as peer m a := by
  induction peers generalizing acc with
  | nil => exact h
  | cons peer' peers ih =>
    have hne : (peer', MessageKind.densityMap) ≠ (peer, .densityMap) := fun he =>
      hp (List.mem_cons.2 (.inl (congrArg Prod.fst he).symm))
    have hq : acc.1.advanceSeq.Queues as peer m a := ⟨h.timer, h.pending, h.alarm⟩
    exact ih (fun hm => hp (List.mem_cons_of_mem _ hm))
      (hk.sendMaps hv map [peer'])
      (hq.sendReliably (t := acc.1.advanceSeq) hk hne _)

/-- The map for a cluster among others is taken up, with the stagger of the clusters up to it. -/
lemma exists_queues_sendMaps (hv : v.call = .timer .stop) (map : DensityMap)
    (before : List NodeId) {after : List NodeId} (hp : peer ∉ after) (acc : Turn × Duration)
    (hk : acc.1.Keeps as) : ∃ seq a,
      ((before ++ peer :: after).foldl (sendMap map) acc).1.Queues as peer
        (.densityMap seq acc.1.node.id acc.1.node.record map) a ∧
      a.due = acc.1.now + ((before ++ [peer]).foldl (sendMap map) acc).2 := by
  have hnode : (before.foldl (sendMap map) acc).1.node.record = acc.1.node.record ∧
      (before.foldl (sendMap map) acc).1.now = acc.1.now := by
    clear hk
    induction before generalizing acc with
    | nil => exact ⟨rfl, rfl⟩
    | cons peer' before ih => exact ih (sendMap map acc peer')
  have hb := hk.sendMaps hv map before
  have hq := queues_sendMap map (before.foldl (sendMap map) acc) peer hb
  rw [Node.id, hnode.1] at hq
  have hr := hq.sendMaps hv map hp (hb.sendMaps hv map [peer])
  rw [List.foldl_append, List.foldl_append, ← hnode.2]
  exact ⟨_, _, hr, rfl⟩

end Turn

/-! ### The end of clustering -/

/-- Whether an effect arms something else than the decision. -/
def Effect.ArmsNoDecision (e : Effect) : Prop := ∀ handle delay, e ≠ .schedule handle delay .decide

namespace Turn

lemma steps_sendMaps (map : DensityMap) (peers : List NodeId) (acc : Turn × Duration) :
    Outbox.Steps Effect.ArmsNoDecision acc.1.outbox (peers.foldl (sendMap map) acc).1.outbox := by
  induction peers generalizing acc with
  | nil => exact .refl _
  | cons peer peers ih =>
    refine Outbox.Steps.trans ?_ (ih (sendMap map acc peer))
    exact Outbox.Steps.sendReliably acc.1.advanceSeq _ _ _ fun _ _ _ he => nomatch he

lemma steps_unclustered (t : Turn) :
    Outbox.Steps Effect.ArmsNoDecision t.outbox t.unclustered.outbox :=
  ((Outbox.Steps.disarm (t.edit fun n => { n with clustering := false }) .upkeep).trans
    (Outbox.Steps.disarm _ .send)).trans (Outbox.Steps.disarm _ .election)

/-- The turn in which the maps are taken up. -/
def mapsTaken (t : Turn) : Turn :=
  (t.node.registry.foreign.keys.foldl
    (sendMap (DensityMap.estimate t.node.settings.grid (memberOffsets t.node)))
    (t.setStatus .exchangeMaps, Duration.zero)).1

/-- A head takes the maps up and decides after the grace period. -/
lemma endClustering_of_isHead (hh : t.node.record.isHead) : t.endClustering =
    (t.unclustered.mapsTaken.edit fun n => { n with
      ownMap := some (DensityMap.estimate t.node.settings.grid (memberOffsets t.node)) }).schedule
        t.unclustered.mapsTaken.node.settings.exchangeGrace .decide := by
  have hn := t.node_unclustered
  have hd : t.unclustered.node.record.degree = .head := by
    rw [hn]
    exact beq_iff_eq.1 hh
  have hmap : DensityMap.estimate t.unclustered.node.settings.grid
      (memberOffsets t.unclustered.node) =
        DensityMap.estimate t.node.settings.grid (memberOffsets t.node) := by
    rw [hn]
    rfl
  rw [← hmap]
  simp only [endClustering]
  split
  · rfl
  · rename_i hm
    exact absurd (hd.symm.trans hm) (by decide)
  · rename_i hs
    exact absurd (hd.symm.trans hs) (by decide)

/-- A map is taken up for every foreign cluster that is known, to be sent when its stagger is
over. -/
lemma exists_queues_mapsTaken (hv : v.call = .timer .stop) {before after : List NodeId}
    (hks : t.node.registry.foreign.keys = before ++ peer :: after) (hk : t.Keeps as) :
    ∃ seq map a, t.mapsTaken.Queues as peer (.densityMap seq t.node.id t.node.record map) a ∧
      a.due = t.now + t.node.stagger (before ++ [peer]) := by
  have hp : peer ∉ after := by
    have hnd := (hks ▸ Table.nodup_keys _ : (before ++ peer :: after).Nodup)
    exact (List.nodup_cons.1 (List.nodup_append.1 hnd).2.1).1
  obtain ⟨seq, a, hq, hdue⟩ := exists_queues_sendMaps hv
    (DensityMap.estimate t.node.settings.grid (memberOffsets t.node)) before hp
    (t.setStatus .exchangeMaps, .zero) hk
  rw [← hks] at hq
  rw [stagger_sendMaps] at hdue
  exact ⟨seq, _, a, hq, hdue⟩

lemma steps_mapsTaken (t : Turn) :
    Outbox.Steps Effect.ArmsNoDecision t.outbox t.mapsTaken.outbox :=
  steps_sendMaps _ _ (t.setStatus .exchangeMaps, Duration.zero)

/-- When a head ends clustering, the alarm of a map goes off before the decision, unless its stagger
is longer than the grace period. -/
lemma exists_queues_endClustering (hv : v.call = .timer .stop) (hh : t.node.record.isHead)
    {before after : List NodeId} (hks : t.node.registry.foreign.keys = before ++ peer :: after)
    (hk : t.Keeps as) (hnone : ∀ d ∈ t.outbox.alarms t.now as, d.timer ≠ .decide)
    (hg : t.now + t.node.stagger (before ++ [peer]) ≤ t.now + t.node.settings.exchangeGrace) :
    ∃ seq map a,
      t.endClustering.Queues as peer (.densityMap seq t.node.id t.node.record map) a ∧
        ∀ d ∈ t.endClustering.outbox.alarms t.now as, d.timer = .decide → a.before d := by
  have hu : Moves t.node v t t.unclustered := Moves.unclustered t
  have hm : Moves t.node v t t.unclustered.mapsTaken :=
    hu.trans ((Move.status t.unclustered (s := .exchangeMaps) (by decide)).moves.trans
      (Moves.sendMaps _ _ (_, _) hv))
  obtain ⟨seq, map, a, hq, hdue⟩ := t.unclustered.exists_queues_mapsTaken hv
    (by rw [t.node_unclustered]; exact hks) (hu.keeps hk)
  have hnode : t.unclustered.node.id = t.node.id ∧
      t.unclustered.node.record = t.node.record ∧
      t.unclustered.node.stagger (before ++ [peer]) = t.node.stagger (before ++ [peer]) := by
    rw [t.node_unclustered]
    exact ⟨rfl, rfl, rfl⟩
  rw [hnode.1, hnode.2.1] at hq
  rw [hnode.2.2, hu.alike.now] at hdue
  rw [endClustering_of_isHead hh]
  have hq' (own : DensityMap) :
      (t.unclustered.mapsTaken.edit fun n => { n with ownMap := some own }).Queues as peer
        (.densityMap seq t.node.id t.node.record map) a := ⟨hq.timer, hq.pending, hq.alarm⟩
  refine ⟨seq, map, a, (hq' _).schedule _ _, fun d hd hdt => ?_⟩
  rw [schedule, Outbox.alarms_schedule, Alarm.mem_insert] at hd
  rcases hd with rfl | hd
  · -- the decision is armed last
    have hfresh := (hm.keeps hk).orderly.fresh a hq.alarm
    rw [← hdue] at hg
    rw [Alarm.before_iff]
    show a.due < t.now + t.unclustered.mapsTaken.node.settings.exchangeGrace ∨
      a.due = t.now + t.unclustered.mapsTaken.node.settings.exchangeGrace ∧ _
    rw [hm.alike.settings]
    by_cases hlt : a.due < t.now + t.node.settings.exchangeGrace
    · exact .inl hlt
    · exact .inr ⟨Timestamp.le_antisymm hg (Timestamp.not_lt.1 hlt), hfresh⟩
  · have hd' : d ∈ t.unclustered.mapsTaken.outbox.alarms t.now as := hd
    rcases ((steps_unclustered t).trans (steps_mapsTaken _)).mem_alarms hd' with hd | ⟨_, -, -, hno⟩
    · exact absurd hdt (hnone d hd)
    · exact absurd (by rw [hdt]) (hno d.handle _)

end Turn

/-- At the end of clustering a head takes a map up for every foreign cluster that it knows of, and
the alarm of the map goes off before the decision, unless its stagger is longer than the grace
period. -/
lemma Node.exists_queues_visit (hv : v.call = .timer .stop) (hh : n.record.isHead)
    {before after : List NodeId} (hks : n.registry.foreign.keys = before ++ peer :: after)
    (hk : Kept n.slots n.reliable.pending v.nextHandle as) (hnone : ∀ d ∈ as, d.timer ≠ .decide)
    (hg : v.now + n.stagger (before ++ [peer]) ≤ v.now + n.settings.exchangeGrace) :
    ∃ seq r map a, (n.visit v).Queues as peer (.densityMap seq n.id r map) a ∧
      ∀ d ∈ (n.visit v).outbox.alarms v.now as, d.timer = .decide → a.before d := by
  obtain ⟨seq, map, a, hq, hfirst⟩ := Turn.exists_queues_endClustering
    (t := (Turn.start n v.now v.position v.nextHandle).locate) hv hh hks hk hnone hg
  rw [n.visit_timer hv, Turn.outbox_noteRole]
  exact ⟨seq, _, map, a, hq.noteRole _, hfirst⟩

/-! ### Visits -/

lemma Turn.Queues.visit (hv : v.Spares peer)
    (hk : Kept n.slots n.reliable.pending v.nextHandle as)
    (ht : a.timer = .retransmit peer .densityMap)
    (hp : n.reliable.pending.get? (peer, .densityMap) = some ⟨m, 0, a.handle⟩) (ha : a ∈ as) :
    (n.visit v).Queues as peer m a :=
  ((moves_visit n v).induct (P := fun t => t.Keeps as ∧ t.Queues as peer m a)
    ⟨hk, ht, hp, ha⟩ fun _ _ h move => ⟨move.keeps h.1, move.queues hv h.1 h.2⟩).2

namespace Bench

variable {b b' b₀ : Bench}

/-- The end of clustering is pending once at most, and as long as it is, the decision is not. -/
def EndsOnce (as : List Alarm) : Prop :=
  ∀ a ∈ as, a.timer = .stop → (∀ a' ∈ as, a'.timer = .stop → a' = a) ∧
    ∀ a' ∈ as, a'.timer ≠ .decide

/-- When the end of clustering comes, neither another one nor the decision is left. -/
lemma EndsOnce.left {as' : List Alarm} {next : Nat} (h : EndsOnce as) (ho : Alarm.Orderly as next)
    (hl : Left v as as') (hv : v.call = .timer .stop) :
    ∀ a ∈ as', a.timer ≠ .stop ∧ a.timer ≠ .decide := by
  cases hl with
  | all hc => exact absurd hv (hc _)
  | @others a ha hc =>
    have hat : a.timer = .stop := Call.timer.inj (hc.symm.trans hv)
    intro d hd
    refine ⟨fun hdt => ?_, (h a ha hat).2 d (List.mem_of_mem_erase hd)⟩
    have he := (h a ha hat).1 d (List.mem_of_mem_erase hd) hdt
    exact ho.not_mem_erase a (he ▸ hd)

lemma EndsOnce.visit {as' : List Alarm} {next : Nat} (h : EndsOnce as)
    (ho : Alarm.Orderly as next) (hl : Left v as as') (hs : v.call ≠ .start) :
    EndsOnce ((n.visit v).outbox.alarms v.now as') := by
  have hstop (d : Alarm) (hd : d ∈ (n.visit v).outbox.alarms v.now as') (hdt : d.timer = .stop) :
      d ∈ as' := by
    rcases n.mem_alarms_visit v hd with hd | ⟨t, _, _, hask⟩
    · exact hd
    · rw [hdt] at hask
      exact absurd hask.of_stop hs
  intro a ha hat
  by_cases hv : v.call = .timer .stop
  · exact absurd hat (h.left ho hl hv a (hstop a ha hat)).1
  · have hm (d : Alarm) (hd : d ∈ as') : d ∈ as := hl.mem hd
    have hold := h a (hm a (hstop a ha hat)) hat
    refine ⟨fun d hd hdt => hold.1 d (hm d (hstop d hd hdt)) hdt, fun d hd hdt => ?_⟩
    rcases n.mem_alarms_visit v hd with hd | ⟨t, _, _, hask⟩
    · exact hold.2 d (hm d hd) hdt
    · rw [hdt] at hask
      exact hv hask.of_decide

/-- A node that is started has armed the end of clustering once at most. -/
lemma EndsOnce.start (hv : v.call = .start) :
    EndsOnce ((n.visit v).outbox.alarms v.now []) := by
  have hnil : (Turn.start n v.now v.position v.nextHandle).locate.outbox.alarms v.now [] = [] := rfl
  rw [n.visit_of_start hv]
  simp only [Turn.onStart]
  split <;> split <;> simp [EndsOnce, Turn.schedule, Alarm.mem_insert, hnil]

/-- What is known before the end of clustering. -/
structure Clustering (b : Bench) : Prop where
  keeps : b.Keeps
  endsOnce : EndsOnce b.alarms

lemma Clustering.serves (h : b.Clustering) (hs : v.call ≠ .start) (hb : b.Serves v b') :
    b'.Clustering := by
  refine ⟨h.keeps.serves hb, ?_⟩
  obtain ⟨as, hl, has⟩ := hb.alarms
  rw [has]
  exact h.endsOnce.visit h.keeps.orderly hl hs

lemma Clustering.run {vs : List Visit} (h : b.Clustering) (hs : ∀ v ∈ vs, v.call ≠ .start)
    (hb : b.run? vs = some b') : b'.Clustering := by
  induction vs generalizing b with
  | nil => exact Option.some.inj hb ▸ h
  | cons v vs ih =>
    rw [run?_cons, Option.bind_eq_some_iff] at hb
    obtain ⟨c, hc, hb⟩ := hb
    exact ih (h.serves (hs v List.mem_cons_self) (.of_attend? hc))
      (fun w hw => hs w (List.mem_cons_of_mem v hw)) hb

lemma Clustering.start (hn : b.node.IsNew) (ha : b.alarms = []) (hv : v.call = .start)
    (hb : b.attend? v = some b') : b'.Clustering := by
  have hs := Serves.of_attend? hb
  refine ⟨(Keeps.of_isNew hn ha).serves hs, ?_⟩
  obtain ⟨as, hl, has⟩ := hs.alarms
  rw [ha] at hl
  cases hl with
  | all =>
    rw [has]
    exact .start hv
  | others hm => cases hm

/-- What is known during an exchange of maps of a map that waits for its turn: its alarm goes off
before the decision, and there will be no further exchange. -/
structure Exchanges (b : Bench) (peer : NodeId) (m : Message) (a : Alarm) : Prop where
  keeps : b.Keeps
  timer : a.timer = .retransmit peer .densityMap
  pending : b.node.reliable.pending.get? (peer, .densityMap) = some ⟨m, 0, a.handle⟩
  alarm : a ∈ b.alarms
  first : ∀ d ∈ b.alarms, d.timer = .decide → a.before d
  last : ∀ d ∈ b.alarms, d.timer ≠ .stop

namespace Exchanges

/-- The decision does not come before the map is sent. -/
lemma not_decide (h : b.Exchanges peer m a) (hb : b.attend? v = some b') :
    v.call ≠ .timer .decide := by
  intro hv
  obtain ⟨as, hr, -⟩ := (attended hb).alarms
  obtain ⟨d, hd, hdt, hfirst⟩ := hr.exists_first h.keeps.orderly hv
  exact hfirst a h.alarm (h.first d hd hdt)

/-- In every visit the map goes on waiting, is sent or is acknowledged. -/
lemma attend (h : b.Exchanges peer m a) (hs : v.call ≠ .start) (hb : b.attend? v = some b') :
    b'.Exchanges peer m a ∨ .send peer (Packet.single m) ∈ (b.node.visit v).outbox.effects ∨
      ∃ seq, v.Brings (.ack seq peer .densityMap) := by
  by_cases hr : v.call = .timer (.retransmit peer .densityMap)
  · exact .inr (.inl (b.node.send_mem_visit hr h.pending))
  by_cases hack : ∃ seq, v.Brings (.ack seq peer .densityMap)
  · exact .inr (.inr hack)
  have hserves := Serves.of_attend? hb
  obtain ⟨as, hl, has⟩ := hserves.alarms
  have hstop : v.call ≠ .timer .stop := by
    intro hv
    obtain ⟨d, hd, hdt, -⟩ := (attended hb).alarms.choose_spec.1.due hv
    exact h.last d hd hdt
  have hv : v.Spares peer := ⟨hr, hstop, h.not_decide hb, fun seq hs => hack ⟨seq, hs⟩⟩
  have hk := Kept.mono h.keeps hserves.handles
  have hq : (b.node.visit v).Queues as peer m a := by
    cases hl with
    | all => exact .visit hv hk h.timer h.pending h.alarm
    | @others d _ hc =>
      rw [← b.node.visit_release hc]
      refine .visit (n := { b.node with slots := _ }) hv hk.ring h.timer h.pending ?_
      refine (List.mem_erase_of_ne ?_).2 h.alarm
      rintro rfl
      exact hr (hc.trans (congrArg Call.timer h.timer))
  have hold (d : Alarm) (hd : d ∈ b'.alarms) : d ∈ b.alarms ∨
      ∃ t handle delay, Asked b.node v t (.schedule handle delay d.timer) := by
    rw [has] at hd
    exact (b.node.mem_alarms_visit v hd).imp_left hl.mem
  refine .inl ⟨h.keeps.serves hserves, h.timer, ?_, ?_, fun d hd hdt => ?_, fun d hd hdt => ?_⟩
  · rw [hserves.node]
    exact hq.pending
  · have ha := hq.alarm
    rw [(moves_visit b.node v).alike.now] at ha
    rw [has]
    exact ha
  · rcases hold d hd with hd | ⟨_, _, _, hask⟩
    · exact h.first d hd hdt
    · rw [hdt] at hask
      exact absurd hask.of_decide hstop
  · rcases hold d hd with hd | ⟨_, _, _, hask⟩
    · exact h.last d hd hdt
    · rw [hdt] at hask
      exact hs hask.of_stop

/-- In every run the map goes on waiting, or there is a visit in which it is sent or
acknowledged. -/
lemma run {ws : List Visit} (h : b.Exchanges peer m a) (hs : ∀ w ∈ ws, w.call ≠ .start)
    (hb : b.run? ws = some b') : b'.Exchanges peer m a ∨
      ∃ ws₁ w ws₂ c, ws = ws₁ ++ w :: ws₂ ∧ b.run? ws₁ = some c ∧
        (.send peer (Packet.single m) ∈ (c.node.visit w).outbox.effects ∨
          ∃ seq, w.Brings (.ack seq peer .densityMap)) := by
  induction ws generalizing b with
  | nil =>
    cases hb
    exact .inl h
  | cons w ws ih =>
    rw [run?_cons, Option.bind_eq_some_iff] at hb
    obtain ⟨c, hc, hb⟩ := hb
    rcases h.attend (hs w List.mem_cons_self) hc with h | hsent
    · have hs' : ∀ u ∈ ws, u.call ≠ .start := fun u hu => hs u (List.mem_cons_of_mem w hu)
      rcases ih h hs' hb with h | ⟨ws₁, u, ws₂, d, rfl, hd, hsent⟩
      · exact .inl h
      · refine .inr ⟨w :: ws₁, u, ws₂, d, rfl, ?_, hsent⟩
        rw [run?_cons, hc]
        exact hd
    · exact .inr ⟨[], w, ws, b, rfl, rfl, hsent⟩

end Exchanges

/-- The maps of an exchange begin to wait when clustering ends. -/
lemma exists_exchanges (h : b.Clustering) (hv : v.call = .timer .stop) (hb : b.Serves v b')
    (hh : b.node.record.isHead) {before after : List NodeId}
    (hks : b.node.registry.foreign.keys = before ++ peer :: after)
    (hg : v.now + b.node.stagger (before ++ [peer]) ≤ v.now + b.node.settings.exchangeGrace) :
    ∃ seq r map a, b'.Exchanges peer (.densityMap seq b.node.id r map) a := by
  obtain ⟨as, hl, has⟩ := hb.alarms
  have hleft := h.endsOnce.left h.keeps.orderly hl hv
  have hk : Kept (b.node.slots.release .stop) b.node.reliable.pending v.nextHandle as := by
    cases hl with
    | all hc => exact absurd hv (hc _)
    | @others d _ hc =>
      rw [← Call.timer.inj (hc.symm.trans hv)]
      exact (Kept.mono h.keeps hb.handles).ring
  obtain ⟨seq, r, map, a, hq, hfirst⟩ :=
    b.node.exists_queues_visit hv hh hks hk (fun d hd => (hleft d hd).2) hg
  refine ⟨seq, r, map, a, h.keeps.serves hb, hq.timer, ?_, ?_, ?_, fun d hd hdt => ?_⟩
  · rw [hb.node]
    exact hq.pending
  · have ha := hq.alarm
    rw [(moves_visit b.node v).alike.now] at ha
    rw [has]
    exact ha
  · rw [has]
    exact hfirst
  · rw [has] at hd
    rcases b.node.mem_alarms_visit v hd with hd | ⟨_, _, _, hask⟩
    · exact (hleft d hd).1 hdt
    · rw [hdt] at hask
      have hs := hask.of_stop
      rw [hv] at hs
      cases hs

/-- In a run of a bench that behaves well, with a start that comes first and once, clustering ends
for a head that knows of some foreign clusters. A map is taken up for each of them. If its stagger,
added up over the clusters before it, is not longer than the grace period, then the map is sent to
the head of the cluster before the decision comes, unless an acknowledgment in its name comes even
earlier. -/
theorem maps_are_sent {b₀ b c d e : Bench} {v₀ v u : Visit} {vs ws : List Visit}
    {before after : List NodeId} (hn : b₀.node.IsNew) (ha : b₀.alarms = [])
    (h₀ : v₀.call = .start) (hs : ∀ w ∈ vs ++ ws, w.call ≠ .start)
    (hb : b₀.run? (v₀ :: vs) = some b) (hv : v.call = .timer .stop) (hc : b.attend? v = some c)
    (hh : b.node.record.isHead) (hks : b.node.registry.foreign.keys = before ++ peer :: after)
    (hg : v.now + b.node.stagger (before ++ [peer]) ≤ v.now + b.node.settings.exchangeGrace)
    (hd : c.run? ws = some d) (hu : u.call = .timer .decide) (he : d.attend? u = some e) :
    ∃ seq r map handle,
      c.node.reliable.pending.get? (peer, .densityMap) =
        some ⟨.densityMap seq b.node.id r map, 0, handle⟩ ∧
      ∃ ws₁ w ws₂ c', ws = ws₁ ++ w :: ws₂ ∧ c.run? ws₁ = some c' ∧
        (.send peer (Packet.single (.densityMap seq b.node.id r map)) ∈
            (c'.node.visit w).outbox.effects ∨
          ∃ seq', w.Brings (.ack seq' peer .densityMap)) := by
  have hclustering : b.Clustering := by
    rw [run?_cons, Option.bind_eq_some_iff] at hb
    obtain ⟨b₁, hb₁, hb⟩ := hb
    exact (Clustering.start hn ha h₀ hb₁).run (fun w hw => hs w (List.mem_append_left ws hw)) hb
  obtain ⟨seq, r, map, a, hex⟩ := exists_exchanges hclustering hv (.of_attend? hc) hh hks hg
  refine ⟨seq, r, map, a.handle, hex.pending, ?_⟩
  rcases hex.run (fun w hw => hs w (List.mem_append_right vs hw)) hd with hex | hsent
  · exact absurd hu (hex.not_decide he)
  · exact hsent

/-- Settings under which a head hears of others before clustering begins, and then exchanges maps
for as long as a given grace period. -/
def exchangeSettings (slot grace : Duration) : Settings :=
  { Settings.standard with
    slot
    gridSize := 2
    interval := .ofSecs 60
    clusteringStart := .ofSecs 60
    clusteringStop := some (.ofSecs 2)
    exchangeGrace := grace }

/-- The start of a node. -/
def nodeStart : Visit := ⟨.start, Vec3.zero, 1, .start⟩

/-- A node forms a cluster and then hears of another head. -/
def hearing (peer : NodeId) : List Visit :=
  [⟨.start, Vec3.zero, 3, .formCluster⟩, ⟨.start, Vec3.zero, 4, .timer .send⟩,
    ⟨.ofSecs 1, Vec3.zero, 5, .packet peer
      (Packet.single (.clusterInfo 1 (Record.lone peer Vec3.zero .start).becomeHead))⟩]

/-- Clustering ends. -/
def exchangeBegin : Visit := ⟨.ofSecs 2, Vec3.zero, 5, .timer .stop⟩

/-- With slots of a second, node 20 sends its map to node 10 after thirty seconds, well before it
decides. -/
theorem nearby_head_is_sent_map : ∃ (b₀ b c d e : Bench) (w u : Visit),
    b₀.node.IsNew ∧ b₀.alarms = [] ∧ b₀.run? (nodeStart :: hearing ⟨10⟩) = some b ∧
      b.attend? exchangeBegin = some c ∧ b.node.record.isHead ∧
      b.node.registry.foreign.keys = [] ++ ⟨10⟩ :: [] ∧
      exchangeBegin.now + b.node.stagger ([] ++ [⟨10⟩]) ≤
        exchangeBegin.now + b.node.settings.exchangeGrace ∧
      c.run? [w] = some d ∧ u.call = .timer .decide ∧ d.attend? u = some e ∧
      ∃ seq r map handle,
        c.node.reliable.pending.get? (⟨10⟩, .densityMap) =
          some ⟨.densityMap seq b.node.id r map, 0, handle⟩ ∧
        ∃ ws₁ w' ws₂ c', [w] = ws₁ ++ w' :: ws₂ ∧ c.run? ws₁ = some c' ∧
          (.send ⟨10⟩ (Packet.single (.densityMap seq b.node.id r map)) ∈
              (c'.node.visit w').outbox.effects ∨
            ∃ seq', w'.Brings (.ack seq' ⟨10⟩ .densityMap)) := by
  let w : Visit := ⟨.ofSecs 32, Vec3.zero, 7, .timer (.retransmit ⟨10⟩ .densityMap)⟩
  let u : Visit := ⟨.ofSecs 42, Vec3.zero, 8, .timer .decide⟩
  let inTime (b : Bench) (now : Timestamp) : Bool :=
    decide (now + b.node.stagger ([] ++ [⟨10⟩]) ≤ now + b.node.settings.exchangeGrace)
  have hrun : ((Node.create ⟨20⟩ (exchangeSettings (.ofSecs 1) (.ofSecs 40)) false
      none).toOption.any fun n =>
        ((Bench.setUp n Vec3.zero).run? (nodeStart :: hearing ⟨10⟩)).any fun b =>
          b.node.record.isHead && decide (b.node.registry.foreign.keys = [] ++ ⟨10⟩ :: []) &&
          inTime b exchangeBegin.now && (b.attend? exchangeBegin).any fun c =>
            (c.run? [w]).any fun d => (d.attend? u).isSome) = true := by decide +kernel
  simp only [Option.any_eq_true, Bool.and_eq_true, decide_eq_true_eq,
    Option.isSome_iff_exists] at hrun
  obtain ⟨n, hn, b, hb, ⟨⟨hh, hks⟩, hg⟩, c, hc, d, hd, e, he⟩ := hrun
  have hg := of_decide_eq_true hg
  have hs : ∀ v ∈ hearing ⟨10⟩ ++ [w], v.call ≠ .start := by decide
  have hnew : (Bench.setUp n Vec3.zero).node.IsNew := .of_toOption hn
  have hsent := maps_are_sent hnew rfl rfl hs hb rfl hc hh hks hg hd rfl he
  exact ⟨.setUp n Vec3.zero, b, c, d, e, w, u, hnew, rfl, hb, hc, hh, hks, hg, hd, rfl, he, hsent⟩

/-- With the slots and the grace period of standard settings, node 700 has its map ready for node
600 but decides without having sent anything to it: 1300 slots are longer than a second. -/
theorem distant_number_is_not_sent_map : ∃ b₀ b c d : Bench,
    b₀.node.IsNew ∧ b₀.alarms = [] ∧ b₀.run? (nodeStart :: hearing ⟨600⟩) = some b ∧
      b.attend? exchangeBegin = some c ∧ b.node.record.isHead ∧
      b.node.registry.foreign.keys = [⟨600⟩] ∧
      (c.node.reliable.pending.get? (⟨600⟩, .densityMap)).isSome ∧
      c.attend? ⟨.ofSecs 3, Vec3.zero, 7, .timer .decide⟩ = some d ∧
      (∀ packet, .send ⟨600⟩ packet ∉ d.notes) ∧
      d.node.reliable.pending.get? (⟨600⟩, .densityMap) = none := by
  have hrun : ((Node.create ⟨700⟩ (exchangeSettings Settings.standard.slot
      Settings.standard.exchangeGrace) false none).toOption.any fun n =>
        ((Bench.setUp n Vec3.zero).run? (nodeStart :: hearing ⟨600⟩)).any fun b =>
          b.node.record.isHead && decide (b.node.registry.foreign.keys = [⟨600⟩]) &&
          (b.attend? exchangeBegin).any fun c =>
            (c.node.reliable.pending.get? (⟨600⟩, .densityMap)).isSome &&
            (c.attend? ⟨.ofSecs 3, Vec3.zero, 7, .timer .decide⟩).any fun d =>
              decide (d.notes.filterMap Note.receiver? = []) &&
              decide (d.node.reliable.pending.get? (⟨600⟩, .densityMap) = none)) = true := by
    decide +kernel
  simp only [Option.any_eq_true, Bool.and_eq_true, decide_eq_true_eq,
    List.filterMap_eq_nil_iff] at hrun
  obtain ⟨n, hn, b, hb, ⟨hh, hks⟩, c, hc, hpending, d, hd, hsent, hnone⟩ := hrun
  refine ⟨.setUp n Vec3.zero, b, c, d, .of_toOption hn, rfl, hb, hc, hh, hks, hpending, hd, ?_,
    hnone⟩
  intro packet hm
  exact Option.some_ne_none _ (hsent _ hm)

end Bench

end ClusterWave
