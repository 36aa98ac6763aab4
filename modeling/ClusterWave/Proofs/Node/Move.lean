import ClusterWave.Proofs.Node.Turn
import ClusterWave.Proofs.Node.Visit
import ClusterWave.Proofs.Wire.Batch
import Mathlib.Logic.Relation
import Mathlib.Tactic.Lemma

/-!
# Moves within a turn

A turn is a sequence of moves. `Move` lists all that a node ever does to itself and to its outbox in
a visit, and under which condition it does so; `Moves` is a sequence of them, and `moves_visit` says
that every visit is one. What every move keeps is therefore kept by every visit.
-/

namespace ClusterWave

/-- Which timers are armed under a slot. -/
def Slot.rings : Slot → Timer → Bool
  | .send, .send => true
  | .election, .electionCheck => true
  | .upkeep, .upkeep => true
  | .intra, .intraBroadcast => true
  | .activation, .activate => true
  | .duty, .dutyActive | .duty, .dutyInactive => true
  | _, _ => false

/-- The times for which a wavefront may be let start in the cluster in a visit: that of the node's
own wavefront, and those that lie behind the start in an offer. -/
inductive Offered (n₀ : Node) (v : Visit) : Timestamp → Prop where
  | own {candidate : Timestamp} (h : n₀.origination? v = some candidate) : Offered n₀ v candidate
  | passedOn {seq : UInt64} {cluster : NodeId} {source destination direction : Vec2}
      {startTime : Timestamp}
      (h : v.Brings (.interCluster seq cluster source destination direction startTime))
      (delay : Duration) : Offered n₀ v (startTime + delay)

/-- Whether a wavefront may be launched in a visit: when the exchange of maps is over, and when one is
offered. -/
def Visit.MayLaunch (v : Visit) : Prop :=
  v.call = .timer .decide ∨ ∃ m, v.Brings m ∧ m.kind = .interCluster

/-- What a node of a given number says in a visit without a reason of its own: a transmission tells
of the node itself and of foreign clusters, and incidents are passed on at any time. -/
inductive Visit.Utters (v : Visit) (id : NodeId) : Message → Prop where
  | clusterInfo (seq : UInt64) {r : Record} (hv : v.call = .timer .send) (hr : r.id = id) :
      Utters v id (.clusterInfo seq r)
  | initiateCluster (seq : UInt64) {r : Record} (hv : v.call = .timer .send) (hr : r.id = id) :
      Utters v id (.initiateCluster seq id r)
  | formCluster (seq : UInt64) {r : Record} (hv : v.call = .timer .send) (hr : r.id = id) :
      Utters v id (.formCluster seq r)
  | neighborCluster (seq : UInt64) (cluster : NodeId) (r : Record) (hv : v.call = .timer .send) :
      Utters v id (.neighborCluster seq cluster r)
  | incident (origin : NodeId) (timestamp : Timestamp) (cluster : Option NodeId)
      (severity : Incident) : Utters v id (.incident origin timestamp cluster severity)

lemma Visit.Utters.isPlain {v : Visit} {id : NodeId} {m : Message} (h : v.Utters id m) :
    m.isPlain := by
  cases h <;> rfl

/-- Whether nothing is armed under a slot at a turn: there is nothing in it, or still the handle
of the timer that has gone off. -/
def Turn.Free (n₀ : Node) (v : Visit) (t : Turn) (slot : Slot) : Prop :=
  t.node.slots.get slot = none ∨
    (∃ timer, v.call = .timer timer ∧ slot.rings timer) ∧
      t.node.slots.get slot = n₀.slots.get slot

/-- A move of the node `n₀` in the visit `v`. -/
inductive Move (n₀ : Node) (v : Visit) : Turn → Turn → Prop where
  | locate (t : Turn) : Move n₀ v t t.locate
  | lead (t : Turn) : Move n₀ v t (t.setRecord t.node.record.becomeHead)
  | join (t : Turn) (head : NodeId) : Move n₀ v t (t.setRecord (t.node.record.join head))
  | leave (t : Turn) : Move n₀ v t (t.setRecord t.node.record.leave)
  | registry (t : Turn) (g : Registry) : Move n₀ v t (t.setRegistry g)
  /-- The status `ready` goes along with the timer for the activation. -/
  | status (t : Turn) {s : Status} (h : s ≠ .ready) : Move n₀ v t (t.setStatus s)
  | clustering (t : Turn) (b : Bool) : Move n₀ v t (t.edit fun n => { n with clustering := b })
  | ownMap (t : Turn) (map : DensityMap) (hv : v.call = .timer .stop) :
      Move n₀ v t (t.edit fun n => { n with ownMap := some map })
  | keepMap (t : Turn) {seq : UInt64} {cluster : NodeId} {r : Record} {map : DensityMap}
      (hm : v.Brings (.densityMap seq cluster r map)) (h : map.checkShape = .ok ()) :
      Move n₀ v t (t.edit fun n => { n with neighborMaps := n.neighborMaps.insert cluster map })
  | forgetMaps (t : Turn) (keep : NodeId → DensityMap → Bool) :
      Move n₀ v t (t.edit fun n => { n with neighborMaps := n.neighborMaps.filter keep })
  | lastIncident (t : Turn) (i : Option Timestamp) :
      Move n₀ v t (t.edit fun n => { n with lastIncident := i })
  | advanceSeq (t : Turn) : Move n₀ v t t.advanceSeq
  /-- Activations are counted with the activation. -/
  | count (t : Turn) (f : Counters → Counters) (h : ∀ c, (f c).activations = c.activations) :
      Move n₀ v t (t.count f)
  -- Timers
  | arm (t : Turn) {slot : Slot} {timer : Timer} (delay : Duration) (h : slot.rings timer)
      (hne : slot ≠ .activation) (hf : t.Free n₀ v slot) : Move n₀ v t (t.arm slot delay timer)
  | disarm (t : Turn) {slot : Slot} (h : slot ≠ .activation) : Move n₀ v t (t.disarm slot)
  | forget (t : Turn) {slot : Slot} (h : slot ≠ .activation) (hf : t.Free n₀ v slot) :
      Move n₀ v t (t.setSlot slot none)
  | lifecycle (t : Turn) {timer : Timer} (delay : Duration) (hv : v.call = .start)
      (h : timer = .start ∨ timer = .stop) : Move n₀ v t (t.schedule delay timer)
  | decideLater (t : Turn) (delay : Duration) (hv : v.call = .timer .stop) :
      Move n₀ v t (t.schedule delay .decide)
  | incidentLater (t : Turn) (delay : Duration) : Move n₀ v t (t.schedule delay .incident)
  -- Packets
  | broadcast (t : Turn) {p : Packet} (h : ∀ m ∈ p.messages, v.Utters t.node.id m)
      (hl : p.messages.length < UInt64.size) : Move n₀ v t (t.broadcastPacket p)
  | send (t : Turn) (peer origin : NodeId) (timestamp : Timestamp) (cluster : Option NodeId)
      (severity : Incident) :
      Move n₀ v t (t.send peer (.incident origin timestamp cluster severity))
  | answer (t : Turn) {m : Message} {peer : NodeId} {seq : UInt64} (hm : v.Brings m)
      (hp : m.replyTo? = some peer) (hs : m.seq? = some seq) :
      Move n₀ v t (t.send peer (.ack seq t.node.ackName m.kind))
  | announce (t : Turn) (seq : UInt64) (starter : NodeId) (direction : Vec2) :
      Move n₀ v t (t.broadcast
        (.intraCluster seq t.node.id starter t.node.schedule.firstStart direction))
  -- Reliable delivery
  | offer (t : Turn) (peer : NodeId) (seq : UInt64) (source destination direction : Vec2)
      (delay : Duration) (hv : v.MayLaunch) :
      Move n₀ v t (t.sendReliably peer (.interCluster seq t.node.id source destination direction
        t.node.schedule.firstStart) delay)
  | sendMap (t : Turn) (peer : NodeId) (seq : UInt64) (map : DensityMap) (delay : Duration)
      (hv : v.call = .timer .stop) :
      Move n₀ v t (t.sendReliably peer (.densityMap seq t.node.id t.node.record map) delay)
  /-- Only offers are given up before the exchange of maps is over. -/
  | cancelOffers (t : Turn) : Move n₀ v t (t.cancelKind .interCluster)
  | satisfyAll (t : Turn) (hv : v.call = .timer .decide) : Move n₀ v t t.satisfyAll
  /-- What is sent again is what was pending before the visit. -/
  | retransmit (t : Turn) {peer : NodeId} {kind : MessageKind}
      (hv : v.call = .timer (.retransmit peer kind)) (h : t.node.reliable = n₀.reliable) :
      Move n₀ v t (t.retransmit peer kind)
  | acknowledged (t : Turn) {seq : UInt64} {peer : NodeId} {kind : MessageKind}
      (hm : v.Brings (.ack seq peer kind)) : Move n₀ v t (t.onAck peer kind)
  -- The wavefront
  | direction (t : Turn) (d : Option Vec2) : Move n₀ v t (t.setDirection d)
  | relaxFirst (t : Turn) {candidate : Timestamp} (node : NodeId) (ho : Offered n₀ v candidate)
      (hnow : t.now < candidate) (hlt : candidate < t.node.schedule.firstStart) :
      Move n₀ v t (t.setSchedule
        { t.node.schedule with firstStart := candidate, firstNode := some node })
  | startFirst (t : Turn) (h : t.now < t.node.schedule.firstStart) : Move n₀ v t t.startFirst
  | startAlone (t : Turn) (hv : v.call = .timer .stop)
      (ho : n₀.origination? v = some (t.now + t.node.settings.startLead)) :
      Move n₀ v t t.startAlone
  | adopt (t : Turn) {seq : UInt64} {cluster starter : NodeId} {startTime : Timestamp}
      {d : Vec2} (hm : v.Brings (.intraCluster seq cluster starter startTime d))
      (hnow : t.now < startTime) (hle : startTime ≤ t.node.schedule.start) :
      Move n₀ v t
        ((t.setSchedule (t.node.schedule.adoptStart startTime t.node.id t.now).1).scheduleActivation)
  | relax (t : Turn) {seq : UInt64} {cluster : Option NodeId} {sender incoming : Vec2}
      {startTime : Timestamp} (hm : v.Brings (.interNode seq cluster sender incoming startTime))
      (travel : Duration) (d : Vec2) (hnow : t.now < startTime + travel)
      (hlt : startTime + travel < t.node.schedule.start) :
      Move n₀ v t
        ((t.setSchedule { t.node.schedule with start := startTime + travel, direction := some d }
          ).scheduleActivation)
  | activate (t : Turn) (hv : v.call = .timer .activate) (hf : t.Free n₀ v .activation) :
      Move n₀ v t ((t.setSlot .activation none).activate)

/-- A sequence of moves. -/
def Moves (n₀ : Node) (v : Visit) : Turn → Turn → Prop := Relation.ReflTransGen (Move n₀ v)

variable {n₀ : Node} {v : Visit} {t t' t'' : Turn}

lemma Move.moves (h : Move n₀ v t t') : Moves n₀ v t t' := .single h

/-- What is disarmed is free to be armed. -/
lemma Turn.free_disarm (t : Turn) (slot : Slot) : (t.disarm slot).Free n₀ v slot := by
  apply Or.inl
  rw [node_disarm]
  exact Slots.get_set_self _ _ _

lemma Move.disarm_arm (t : Turn) {slot : Slot} {timer : Timer} (delay : Duration)
    (h : slot.rings timer) (hne : slot ≠ .activation) :
    Moves n₀ v t ((t.disarm slot).arm slot delay timer) :=
  (Move.disarm t hne).moves.trans (Move.arm _ delay h hne (t.free_disarm slot)).moves

namespace Moves

lemma refl (t : Turn) : Moves n₀ v t t := Relation.ReflTransGen.refl

lemma trans (h : Moves n₀ v t t') (h' : Moves n₀ v t' t'') : Moves n₀ v t t'' :=
  Relation.ReflTransGen.trans h h'

lemma tail (h : Moves n₀ v t t') (h' : Move n₀ v t' t'') : Moves n₀ v t t'' :=
  Relation.ReflTransGen.tail h h'

/-- What every move keeps, every sequence of moves keeps. -/
lemma induct {P : Turn → Prop} (h : Moves n₀ v t t') (h₀ : P t)
    (step : ∀ t t', P t → Move n₀ v t t' → P t') : P t' := by
  induction h with
  | refl => exact h₀
  | tail _ m ih => exact step _ _ ih m

lemma foldl {α : Type} {f : Turn → α → Turn} {as : List α}
    (h : ∀ t, ∀ a ∈ as, Moves n₀ v t (f t a)) (t : Turn) : Moves n₀ v t (as.foldl f t) := by
  induction as generalizing t with
  | nil => exact refl t
  | cons a as ih =>
    exact (h t a List.mem_cons_self).trans (ih (fun t b hb => h t b (List.mem_cons_of_mem a hb)) _)

/-- A loop that carries a value besides the turn. -/
lemma foldl_fst {α β : Type} {f : Turn × β → α → Turn × β} (as : List α)
    (h : ∀ acc a, Moves n₀ v acc.1 (f acc a).1) (acc : Turn × β) :
    Moves n₀ v acc.1 (as.foldl f acc).1 := by
  induction as generalizing acc with
  | nil => exact refl acc.1
  | cons a as ih => exact (h acc a).trans (ih _)

/-! ### Forming clusters -/

lemma queueSend (t : Turn) (d : Duration) : Moves n₀ v t (t.queueSend d) := by
  simp only [Turn.queueSend]
  split
  · rename_i h
    exact (Move.arm t d rfl (by decide) (.inl h)).moves
  · exact refl t

lemma noteRole (t : Turn) (before : Degree × Option NodeId) : Moves n₀ v t (t.noteRole before) := by
  simp only [Turn.noteRole]
  split
  · exact refl t
  · exact (Move.count t _ fun _ => by rfl).moves

lemma broadcast (t : Turn) {m : Message} (h : v.Utters t.node.id m) :
    Moves n₀ v t (t.broadcast m) := by
  have hl : (Packet.single m).messages.length < UInt64.size := (by decide : 1 < UInt64.size)
  refine (Move.broadcast t (fun m' hm' => ?_) hl).moves
  rwa [List.mem_singleton.1 hm']

lemma beginClustering (t : Turn) : Moves n₀ v t t.beginClustering := by
  refine Moves.trans ?_ (Move.disarm_arm _ _ rfl (by decide))
  refine Moves.trans ?_ (queueSend _ _)
  exact (Move.clustering t true).moves.tail (.status _ (by decide))

lemma formCluster (t : Turn) : Moves n₀ v t t.formCluster := by
  refine Moves.trans ?_ (queueSend _ _)
  exact (Move.disarm t (by decide)).moves.tail (.status _ (s := .formation) (by decide))

lemma join (t : Turn) (head : NodeId) : Moves n₀ v t (t.join head) := by
  refine Moves.trans ?_ (queueSend _ _)
  refine Moves.tail ?_ (.status _ (by decide))
  exact ((Move.disarm t (by decide)).moves.tail (.join _ head)).tail (.registry _ _)

lemma sendGreeting (t : Turn) (hv : v.call = .timer .send) : Moves n₀ v t t.sendGreeting := by
  refine Moves.trans ?_ (Move.disarm_arm _ _ rfl (by decide))
  exact (Move.advanceSeq t).moves.trans (broadcast _ (.clusterInfo _ hv rfl))

lemma clusterFormed (t : Turn) (d : Duration) : Moves n₀ v t (t.clusterFormed d) := by
  refine Moves.trans ?_ (queueSend _ _)
  exact (Move.count t _ fun _ => by rfl).moves.tail (.status _ (by decide))

lemma sendCandidacy (t : Turn) (hv : v.call = .timer .send) : Moves n₀ v t t.sendCandidacy := by
  refine Moves.trans ?_ (clusterFormed _ _)
  exact ((Move.lead t).moves.tail (.advanceSeq _)).trans
    (broadcast _ (.initiateCluster _ hv rfl))

lemma sendFormation (t : Turn) (hv : v.call = .timer .send) : Moves n₀ v t t.sendFormation := by
  refine Moves.trans ?_ (clusterFormed _ _)
  exact ((Move.lead t).moves.tail (.advanceSeq _)).trans (broadcast _ (.formCluster _ hv rfl))

/-- Gossip only advances the sequence number, and every message of it is uttered. -/
lemma gossip (cluster : NodeId) (rs : List Record) (acc : Turn × List Message)
    (hv : v.call = .timer .send) (h : ∀ m ∈ acc.2, v.Utters acc.1.node.id m) :
    Moves n₀ v acc.1 (rs.foldl (Turn.addGossip cluster) acc).1 ∧
      ∀ m ∈ (rs.foldl (Turn.addGossip cluster) acc).2, v.Utters acc.1.node.id m := by
  induction rs generalizing acc with
  | nil => exact ⟨refl acc.1, h⟩
  | cons r rs ih =>
    obtain ⟨hm, hp⟩ := ih (Turn.addGossip cluster acc r) fun m hm => by
      rcases List.mem_append.1 hm with hm | hm
      · exact h m hm
      · rw [List.mem_singleton.1 hm]
        exact .neighborCluster _ _ _ hv
    exact ⟨Moves.trans (Move.advanceSeq acc.1).moves hm, hp⟩

lemma updateMessages (t : Turn) (hv : v.call = .timer .send) :
    Moves n₀ v t t.updateMessages.1 ∧ ∀ m ∈ t.updateMessages.2, v.Utters t.node.id m := by
  have hown : ∀ m ∈ [Message.clusterInfo t.advanceSeq.node.seq t.advanceSeq.node.record],
      v.Utters t.node.id m := by
    intro m hm
    rw [List.mem_singleton.1 hm]
    exact .clusterInfo _ hv rfl
  simp only [Turn.updateMessages]
  split
  · exact ⟨(Move.advanceSeq t).moves, hown⟩
  · rename_i cluster _
    obtain ⟨hm, hp⟩ := gossip cluster t.advanceSeq.node.registry.foreign.values
      (t.advanceSeq, _) hv hown
    exact ⟨(Move.advanceSeq t).moves.trans hm, hp⟩

/-- Packets that a node utters go out one after the other. -/
lemma packets {ps : List Packet} (t : Turn)
    (h : ∀ p ∈ ps, ∀ m ∈ p.messages, v.Utters t.node.id m)
    (hl : ∀ p ∈ ps, p.messages.length < UInt64.size) :
    Moves n₀ v t (ps.foldl Turn.broadcastPacket t) := by
  induction ps generalizing t with
  | nil => exact refl t
  | cons p ps ih =>
    obtain ⟨hp, hps⟩ := List.forall_mem_cons.1 h
    obtain ⟨hlp, hlps⟩ := List.forall_mem_cons.1 hl
    exact (Move.broadcast t hp hlp).moves.trans (ih _ hps hlps)

lemma id_updateMessages (t : Turn) : t.updateMessages.1.node.id = t.node.id := by
  simp only [Turn.updateMessages]
  split
  · rfl
  · refine List.foldlRecOn (motive := fun acc : Turn × List Message =>
      acc.1.node.id = t.node.id) _ _ rfl ?_
    intro acc h _ _
    exact h

lemma sendUpdate (t : Turn) (hv : v.call = .timer .send) : Moves n₀ v t t.sendUpdate := by
  obtain ⟨hm, hp⟩ := updateMessages t hv
  refine Moves.trans (hm.trans (packets _ ?_ ?_)) (queueSend _ _)
  · intro p hmem m hmes
    rw [id_updateMessages]
    exact hp m (Packet.mem_of_mem_batch hmem hmes)
  · intro p hmem
    have hlimit := t.updateMessages.1.node.settings.packetLimit.toNat_lt
    exact Nat.lt_of_le_of_lt (Packet.length_le_of_mem_batch hmem) (Nat.max_lt.2 ⟨by decide, hlimit⟩)

/-- What the timer for transmissions sets off. -/
lemma transmit (t : Turn) (hv : v.call = .timer .send) : Moves n₀ v t t.transmit := by
  simp only [Turn.transmit]
  split
  · exact sendGreeting t hv
  · exact sendCandidacy t hv
  · exact sendFormation t hv
  · split
    · exact sendUpdate t hv
    · exact refl t
  · exact refl t

lemma checkElection (t : Turn) : Moves n₀ v t t.checkElection := by
  have hs (s : Status) (hs : s ≠ .ready) (d : Duration) :
      Moves n₀ v t ((t.setStatus s).queueSend d) := (Move.status t hs).moves.trans (queueSend _ _)
  simp only [Turn.checkElection]
  split
  · exact refl t
  · split
    · exact hs .update (by decide) _
    · split
      · exact hs .headElection (by decide) _
      · exact queueSend _ _

lemma afterUpkeep (t : Turn) (u : Upkeep) : Moves n₀ v t (t.afterUpkeep u) := by
  have hs (s : Status) (hs : s ≠ .ready) (d : Duration) :
      Moves n₀ v t ((t.setStatus s).queueSend d) := (Move.status t hs).moves.trans (queueSend _ _)
  simp only [Turn.afterUpkeep]
  split
  · exact hs .update (by decide) _
  · split
    · exact hs .init (by decide) _
    · exact refl t

lemma get_upkeep_queueSend (t : Turn) (d : Duration) :
    (t.queueSend d).node.slots.get .upkeep = t.node.slots.get .upkeep := by
  rw [Turn.node_queueSend]
  rfl

lemma get_upkeep_afterUpkeep (t : Turn) (u : Upkeep) :
    (t.afterUpkeep u).node.slots.get .upkeep = t.node.slots.get .upkeep := by
  simp only [Turn.afterUpkeep]
  split
  · exact get_upkeep_queueSend _ _
  · split
    · exact get_upkeep_queueSend _ _
    · rfl

lemma setRecord_leave_if (t : Turn) (b : Bool) :
    Moves n₀ v t (t.setRecord (if b then t.node.record.leave else t.node.record)) := by
  cases b
  · exact refl t
  · exact (Move.leave t).moves

lemma setRecord_becomeHead_if (t : Turn) (b : Bool) :
    Moves n₀ v t (t.setRecord (if b then t.node.record.becomeHead else t.node.record)) := by
  cases b
  · exact refl t
  · exact (Move.lead t).moves

/-- Upkeep lets a node leave its cluster, lead one and leave one again, or some of these. -/
lemma setRecord_maintain (t : Turn) (g : Registry) (now : Timestamp) (timeout : Duration) :
    Moves n₀ v t (t.setRecord (g.maintain t.node.record now timeout).2.1) :=
  ((setRecord_leave_if t _).trans (setRecord_becomeHead_if _ _)).trans (setRecord_leave_if _ _)

lemma upkeep (t : Turn) (h : t.node.slots.get .upkeep = none) : Moves n₀ v t t.upkeep := by
  simp only [Turn.upkeep]
  split
  · refine Moves.tail ?_ (.arm _ _ rfl (by decide) ?_)
    · refine Moves.trans ?_ (afterUpkeep _ _)
      exact (Move.registry t _).moves.trans (setRecord_maintain (t.setRegistry _) _ _ _)
    · exact .inl ((get_upkeep_afterUpkeep _ _).trans h)
  · exact refl t

end Moves

end ClusterWave
