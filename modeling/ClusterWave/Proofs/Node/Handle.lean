import ClusterWave.Proofs.Node.Move
import ClusterWave.Proofs.Node.Turn

/-!
# Every visit is a sequence of moves

The handlers of timers and messages are taken apart into moves, up to `moves_visit` for a visit as a
whole.
-/

namespace ClusterWave

variable {n₀ : Node} {v : Visit}

/-! ### What moves keep -/

/-- What stays the same within a turn: time does not pass, and a node keeps its settings, the period
of retransmission and, whatever its role, its number. -/
structure Turn.Alike (t t' : Turn) : Prop where
  now : t'.now = t.now
  settings : t'.node.settings = t.node.settings
  id : t'.node.id = t.node.id
  retryInterval : t'.node.reliable.retryInterval = t.node.reliable.retryInterval

namespace Turn.Alike

variable {t t' t'' : Turn}

lemma refl (t : Turn) : t.Alike t := ⟨rfl, rfl, rfl, rfl⟩

lemma trans (h : t.Alike t') (h' : t'.Alike t'') : t.Alike t'' :=
  ⟨h'.now.trans h.now, h'.settings.trans h.settings, h'.id.trans h.id,
    h'.retryInterval.trans h.retryInterval⟩

lemma of_node {n : Node} (hnow : t'.now = t.now) (hn : t'.node = n)
    (hs : n.settings = t.node.settings) (hi : n.id = t.node.id)
    (hr : n.reliable.retryInterval = t.node.reliable.retryInterval) : t.Alike t' := by
  subst hn
  exact ⟨hnow, hs, hi, hr⟩

end Turn.Alike

lemma Move.alike {t t' : Turn} (h : Move n₀ v t t') : t.Alike t' := by
  cases h with
  | join head => exact ⟨rfl, rfl, Record.id_join _ _, rfl⟩
  | disarm => exact .of_node (Turn.now_disarm t _) (Turn.node_disarm t _) rfl rfl rfl
  | startFirst => exact .of_node (Turn.now_startFirst t) (Turn.node_startFirst t) rfl rfl rfl
  | startAlone =>
    exact .of_node (Turn.now_scheduleActivation _) (Turn.node_scheduleActivation _) rfl rfl rfl
  | adopt =>
    exact .of_node (Turn.now_scheduleActivation _) (Turn.node_scheduleActivation _) rfl rfl rfl
  | relax =>
    exact .of_node (Turn.now_scheduleActivation _) (Turn.node_scheduleActivation _) rfl rfl rfl
  | activate => exact .of_node (Turn.now_activate _) (Turn.node_activate _) rfl rfl rfl
  | retransmit =>
    exact .of_node (Turn.now_retransmit t _ _) (Turn.node_retransmit t _ _) rfl rfl
      (ReliableSender.retryInterval_transmit _ _ _ _)
  | acknowledged =>
    exact ⟨rfl, rfl, rfl, ReliableSender.retryInterval_acknowledge _ _ _ _⟩
  | _ => exact ⟨rfl, rfl, rfl, rfl⟩

/-- A node activates when its timer says so, and not otherwise. -/
lemma Move.activations_eq {t t' : Turn} (h : Move n₀ v t t') (hv : v.call ≠ .timer .activate) :
    t'.node.counters.activations = t.node.counters.activations := by
  cases h with
  | count f h => exact h _
  | disarm => rw [Turn.node_disarm]
  | startFirst => rw [Turn.node_startFirst]
  | startAlone =>
    rw [Turn.startAlone, Turn.node_scheduleActivation]
    rfl
  | adopt =>
    rw [Turn.node_scheduleActivation]
    rfl
  | relax =>
    rw [Turn.node_scheduleActivation]
    rfl
  | activate hv' => exact absurd hv' hv
  | retransmit => exact Turn.activations_retransmit _ _ _
  | _ => rfl

lemma Moves.alike {t t' : Turn} (h : Moves n₀ v t t') : t.Alike t' :=
  h.induct (P := fun u => t.Alike u) (.refl t) fun _ _ ih m => ih.trans m.alike

namespace Moves

/-! ### The wavefront -/

lemma announceLater (t : Turn) : Moves n₀ v t t.announceLater := by
  simp only [Turn.announceLater]
  split
  · exact refl t
  · exact Move.disarm_arm t _ rfl (by decide)

lemma schedule_announceLater (t : Turn) :
    t.announceLater.node.schedule = t.node.schedule := by
  simp only [Turn.announceLater]
  split
  · rfl
  · show (t.disarm .intra).node.schedule = _
    rw [Turn.node_disarm]

lemma offers (hv : v.MayLaunch) (source : Vec2) (fs : List Forward) (acc : Turn × Duration) :
    Moves n₀ v acc.1 (fs.foldl (Turn.offer source) acc).1 :=
  foldl_fst fs (fun acc _ => (Move.advanceSeq acc.1).moves.tail (.offer _ _ _ _ _ _ _ hv)) acc

lemma schedule_offers (source : Vec2) (fs : List Forward) (acc : Turn × Duration) :
    (fs.foldl (Turn.offer source) acc).1.node.schedule = acc.1.node.schedule := by
  induction fs generalizing acc with
  | nil => rfl
  | cons f fs ih => exact ih _

/-- A wavefront is launched only for a start that lies ahead. -/
lemma launch (hv : v.MayLaunch) (t : Turn) (origin : NodeId) (incoming : Vec2)
    (h : t.now < t.node.schedule.firstStart) : Moves n₀ v t (t.launch origin incoming) := by
  simp only [Turn.launch]
  split
  · exact refl t
  · rename_i source _
    have hc : Moves n₀ v t (t.cancelKind .interCluster) := (Move.cancelOffers t).moves
    split
    · exact hc
    · rename_i plan _
      have ho := hc.trans (offers hv source plan.forwards (t.cancelKind .interCluster,
        t.node.settings.backoff))
      have hd := (ho.tail (.direction _ (some plan.direction))).trans (announceLater _)
      split
      · refine hd.tail (.startFirst _ ?_)
        have hs := schedule_offers source plan.forwards
          (t.cancelKind .interCluster, t.node.settings.backoff)
        rw [hd.alike.now, schedule_announceLater]
        exact Eq.subst (motive := fun s => t.now < s.firstStart) hs.symm h
      · exact hd

/-- A start is accepted, and the wavefront launched, only if it lies ahead and is an earlier one. -/
lemma launchIfEarlier (hv : v.MayLaunch) (t : Turn) {candidate : Timestamp} (origin : NodeId)
    (incoming : Vec2) (ho : Offered n₀ v candidate) :
    Moves n₀ v t
      (if (t.node.schedule.relaxFirstStart candidate origin t.now).2 then
        (t.setSchedule (t.node.schedule.relaxFirstStart candidate origin t.now).1).launch origin
          incoming
      else t) := by
  by_cases h : t.now < candidate ∧ candidate < t.node.schedule.firstStart
  · have hr : t.node.schedule.relaxFirstStart candidate origin t.now =
        ({ t.node.schedule with firstStart := candidate, firstNode := some origin }, true) :=
      if_pos h
    rw [hr, if_pos rfl]
    exact (Move.relaxFirst t origin ho h.1 h.2).moves.trans (launch hv _ _ _ h.1)
  · have hr : t.node.schedule.relaxFirstStart candidate origin t.now =
        (t.node.schedule, false) := if_neg h
    rw [hr, if_neg Bool.false_ne_true]
    exact refl t

lemma announce (t : Turn) (h : t.node.slots.get .intra = none) : Moves n₀ v t t.announce := by
  simp only [Turn.announce]
  split
  · exact refl t
  · rename_i starter _
    split
    · exact refl t
    · refine Moves.tail ?_ (.arm _ _ rfl (by decide) (.inl h))
      exact (Move.advanceSeq t).moves.tail (.announce _ _ starter _)

/-- A map for every foreign cluster is taken up. -/
lemma sendMaps (map : DensityMap) (peers : List NodeId) (acc : Turn × Duration)
    (hv : v.call = .timer .stop) : Moves n₀ v acc.1 (peers.foldl (Turn.sendMap map) acc).1 :=
  foldl_fst peers (fun acc _ => (Move.advanceSeq acc.1).moves.tail (.sendMap _ _ _ _ _ hv)) acc

lemma exchangeMaps (t : Turn) (hv : v.call = .timer .stop) : Moves n₀ v t t.exchangeMaps := by
  refine Moves.tail ?_ (.decideLater _ _ hv)
  refine Moves.tail ?_ (.ownMap _ _ hv)
  exact (Move.status t (s := .exchangeMaps) (by decide)).moves.trans (sendMaps _ _ (_, _) hv)

end Moves

/-- The turn in which clustering is over and no timer for it is armed. -/
def Turn.unclustered (t : Turn) : Turn :=
  (((t.edit fun n => { n with clustering := false }).disarm .upkeep).disarm .send).disarm .election

lemma Turn.node_unclustered (t : Turn) :
    t.unclustered.node =
      { t.node with
        clustering := false
        slots := ((t.node.slots.set none .upkeep).set none .send).set none .election } := by
  simp only [unclustered, node_disarm]
  rfl

namespace Moves

lemma unclustered (t : Turn) : Moves n₀ v t t.unclustered := by
  refine Moves.tail ?_ (.disarm _ (by decide))
  refine Moves.tail ?_ (.disarm _ (by decide))
  exact (Move.clustering t false).moves.tail (.disarm _ (by decide))

/-- At the end of clustering a starter that stands alone offers a start. -/
lemma endClustering (t : Turn) (hv : v.call = .timer .stop)
    (ho : t.node.record.isStandalone ∧ t.node.record.isStarter →
      n₀.origination? v = some (t.now + t.node.settings.startLead)) :
    Moves n₀ v t t.endClustering := by
  have hd : Moves n₀ v t t.unclustered := unclustered t
  simp only [Turn.endClustering]
  split
  · exact hd.trans (exchangeMaps t.unclustered hv)
  · exact hd
  · rename_i hdeg
    split
    · rename_i hst
      have hdeg : t.unclustered.node.record.degree = .standalone := hdeg
      have hst : t.unclustered.node.record.isStarter := hst
      rw [t.node_unclustered] at hdeg hst
      refine hd.tail (.startAlone t.unclustered hv ?_)
      rw [hd.alike.now, t.node_unclustered]
      exact ho ⟨beq_iff_eq.2 hdeg, hst⟩
    · exact hd

lemma starter?_velocity (n n' : Node) (hr : n'.registry = n.registry)
    (hs : n'.record.isStarter = n.record.isStarter) (hv : n'.record.velocity = n.record.velocity) :
    (Turn.starter? n').bind Record.velocity = (Turn.starter? n).bind Record.velocity := by
  simp only [Turn.starter?]
  rw [hr, hs]
  split
  · exact hv
  · rfl

end Moves

/-- The turn in which the exchange of maps is over and no message is pending. -/
def Turn.exchanged (t : Turn) : Turn :=
  (t.setStatus .decide).satisfyAll.edit fun n =>
    { n with neighborMaps := n.neighborMaps.filter fun c _ => n.registry.foreign.contains c }

namespace Moves

lemma exchanged (t : Turn) (hv : v.call = .timer .decide) : Moves n₀ v t t.exchanged := by
  refine Moves.tail ?_ (.forgetMaps _ fun c _ => t.node.registry.foreign.contains c)
  exact (Move.status t (by decide)).moves.tail (.satisfyAll _ hv)

/-- When the exchange is over, the start that is offered is that of the starter. -/
lemma decideLaunch (t : Turn) (hv : v.call = .timer .decide)
    (ho : n₀.origination? v = ((Turn.starter? t.node).bind Record.velocity).map
      fun _ => t.now + t.node.settings.startLead) :
    Moves n₀ v t.exchanged t.decideLaunch := by
  simp only [Turn.decideLaunch]
  split
  · exact refl _
  · rename_i starter hst
    split
    · exact refl _
    · rename_i velocity hvel
      refine launchIfEarlier (.inl hv) t.exchanged _ _ (.own ?_)
      have hb : (Turn.starter? t.node).bind Record.velocity = some velocity :=
        ((starter?_velocity t.node _ (by rfl) (by rfl) (by rfl)).symm.trans
          (congrArg (·.bind Record.velocity) hst)).trans hvel
      rw [ho, hb]
      rfl

/-! ### Messages -/

lemma merge (t : Turn) : Moves n₀ v t t.merge := by
  simp only [Turn.merge]
  split
  · exact refl t
  · rename_i head _
    split
    · exact (Move.join t head).moves.tail (.registry _ _)
    · exact refl t

lemma settle (t : Turn) : Moves n₀ v t t.settle := by
  simp only [Turn.settle]
  split
  · rename_i head _
    exact (Move.join t head).moves
  · refine Moves.trans ?_ (queueSend _ _)
    exact (Move.lead t).moves.tail (.status _ (by decide))

lemma weighNeighbor (t : Turn) (r : Record) : Moves n₀ v t (t.weighNeighbor r) := by
  have hn : Moves n₀ v t
      (if t.node.record.isStandalone then t.settle
      else if t.node.record.isHead && r.belongsTo t.node.id then
        t.setRegistry (t.node.registry.enrol r)
      else if t.node.registry.members.isEmpty then t.merge
      else t) := by
    split
    · exact settle t
    · split
      · exact (Move.registry t _).moves
      · split
        · exact merge t
        · exact refl t
  simp only [Turn.weighNeighbor]
  split
  · split
    · exact join t r.id
    · exact refl t
  · exact hn
  · exact hn
  · exact refl t

lemma noteForeign (t : Turn) (r : Record) : Moves n₀ v t (t.noteForeign r) := by
  simp only [Turn.noteForeign]
  split
  · exact refl t
  · split
    · exact (Move.registry t _).moves
    · exact refl t

lemma onClusterInfo (t : Turn) (r : Record) : Moves n₀ v t (t.onClusterInfo r) := by
  simp only [Turn.onClusterInfo]
  split
  · exact ((Move.registry t _).moves.trans (weighNeighbor _ r)).trans (noteForeign _ r)
  · exact refl t

lemma onInitiateCluster (t : Turn) (cluster : NodeId) (r : Record) :
    Moves n₀ v t (t.onInitiateCluster cluster r) := by
  simp only [Turn.onInitiateCluster]
  split
  · exact (Move.registry t _).moves.trans (join _ cluster)
  · exact refl t

lemma onFormCluster (t : Turn) (r : Record) : Moves n₀ v t (t.onFormCluster r) := by
  simp only [Turn.onFormCluster]
  split
  · have hr : Moves n₀ v t (t.setRegistry (t.node.registry.hear r)) := (Move.registry t _).moves
    split
    · exact hr.trans (join _ r.id)
    · exact hr
  · exact refl t

lemma onNeighborCluster (t : Turn) (cluster : NodeId) (r : Record) :
    Moves n₀ v t (t.onNeighborCluster cluster r) := by
  simp only [Turn.onNeighborCluster]
  split
  · split
    · exact refl t
    · split
      · exact (Move.registry t _).moves
      · exact refl t
  · exact refl t

lemma onDensityMap (t : Turn) {seq : UInt64} {cluster : NodeId} {r : Record} {map : DensityMap}
    (hm : v.Brings (.densityMap seq cluster r map)) {r' : Record} (hr : r'.id = r.id) :
    Moves n₀ v t (t.onDensityMap seq cluster r' map) := by
  simp only [Turn.onDensityMap]
  split
  · exact refl t
  · rename_i hc
    refine Moves.tail ?_ (.answer _ hm (congrArg some hr.symm) rfl)
    exact (Move.registry t _).moves.tail (.keepMap _ hm hc)

lemma exists_delay_of_arrival? {n : Node} {source place direction : Vec2}
    {startTime time : Timestamp}
    (h : Turn.arrival? n source place direction startTime = some time) :
    ∃ delay : Duration, time = startTime + delay := by
  simp only [Turn.arrival?, Option.bind_eq_bind, Option.bind_eq_some_iff, Option.some.injEq] at h
  obtain ⟨_, _, delay, _, rfl⟩ := h
  exact ⟨delay, rfl⟩

lemma considerOffer (t : Turn) {seq : UInt64} {cluster : NodeId}
    {source destination direction : Vec2} {startTime : Timestamp}
    (hm : v.Brings (.interCluster seq cluster source destination direction startTime)) :
    Moves n₀ v t (t.considerOffer source destination direction startTime) := by
  simp only [Turn.considerOffer]
  split
  · exact refl t
  · split
    · exact refl t
    · rename_i time ha
      obtain ⟨delay, rfl⟩ := exists_delay_of_arrival? ha
      exact launchIfEarlier (.inr ⟨_, hm, rfl⟩) t _ _ (.passedOn hm delay)

lemma onInterCluster (t : Turn) {seq : UInt64} {cluster : NodeId}
    {source destination direction : Vec2} {startTime : Timestamp}
    (hm : v.Brings (.interCluster seq cluster source destination direction startTime)) :
    Moves n₀ v t (t.onInterCluster seq cluster source destination direction startTime) := by
  have ha : Moves n₀ v t (t.send cluster (.ack seq t.node.ackName .interCluster)) :=
    (Move.answer t hm rfl rfl).moves
  simp only [Turn.onInterCluster]
  split
  · exact ha.trans (considerOffer _ hm)
  · exact ha

lemma onIntraCluster (t : Turn) {seq : UInt64} {cluster starter : NodeId} {startTime : Timestamp}
    {direction : Vec2} (hm : v.Brings (.intraCluster seq cluster starter startTime direction)) :
    Moves n₀ v t (t.onIntraCluster cluster starter startTime direction) := by
  have hd : Moves n₀ v t (t.setDirection (some direction)) := (Move.direction t _).moves
  have ha (t : Turn) : Moves n₀ v t
      (if (t.node.schedule.adoptStart startTime t.node.id t.now).2 then
        (t.setSchedule (t.node.schedule.adoptStart startTime t.node.id t.now).1).scheduleActivation
      else t) := by
    split
    · rename_i h
      by_cases hc : t.now < startTime ∧ startTime ≤ t.node.schedule.start
      · exact (Move.adopt t hm hc.1 hc.2).moves
      · rw [Schedule.adoptStart, if_neg hc] at h
        exact absurd h Bool.false_ne_true
    · exact refl t
  simp only [Turn.onIntraCluster]
  split
  · split
    · exact hd.trans (ha _)
    · exact hd
  · exact refl t

lemma onInterNode (t : Turn) {seq : UInt64} {cluster : Option NodeId} {sender incoming : Vec2}
    {startTime : Timestamp} (hm : v.Brings (.interNode seq cluster sender incoming startTime)) :
    Moves n₀ v t (t.onInterNode sender incoming startTime) := by
  simp only [Turn.onInterNode]
  split
  · split
    · exact refl t
    · rename_i travel _
      split
      · exact refl t
      · by_cases hc : t.now < startTime + travel ∧ startTime + travel < t.node.schedule.start
        · rw [Schedule.relaxStart, if_pos hc, if_pos rfl]
          exact (Move.relax t hm travel _ hc.1 hc.2).moves
        · rw [Schedule.relaxStart, if_neg hc, if_neg Bool.false_ne_true]
          exact refl t
  · exact refl t

lemma onOwnIncident (t : Turn) (timestamp : Timestamp) :
    Moves n₀ v t (t.onOwnIncident timestamp) := by
  simp only [Turn.onOwnIncident]
  split
  · exact (Move.lastIncident t none).moves.tail (.count _ _ fun _ => by rfl)
  · exact refl t

lemma onIncident (t : Turn) (sender origin : NodeId) (timestamp : Timestamp)
    (cluster : Option NodeId) (severity : Incident) :
    Moves n₀ v t (t.onIncident sender origin timestamp cluster severity) := by
  simp only [Turn.onIncident]
  split
  · exact onOwnIncident t timestamp
  · split
    · exact broadcast t (.incident _ _ _ _)
    · exact refl t

lemma onMessage (sender : NodeId) (t : Turn) {m : Message} (hm : v.Brings m) :
    Moves n₀ v t (t.onMessage sender m) := by
  cases m with
  | clusterInfo => exact onClusterInfo t _
  | initiateCluster => exact onInitiateCluster t _ _
  | formCluster => exact onFormCluster t _
  | neighborCluster => exact onNeighborCluster t _ _
  | densityMap => exact onDensityMap t hm rfl
  | interCluster => exact onInterCluster t hm
  | intraCluster => exact onIntraCluster t hm
  | interNode => exact onInterNode t hm
  | ack => exact (Move.acknowledged t hm).moves
  | incident => exact onIncident t _ _ _ _ _

lemma onPacket (t : Turn) {sender : NodeId} {packet : Packet}
    (hv : v.call = .packet sender packet) : Moves n₀ v t (t.onPacket sender packet) := by
  refine Moves.trans ?_ (noteRole _ _)
  refine Moves.trans ?_ (foldl (fun t m hm => ?_) _)
  · exact (Move.locate t).moves.tail (.count _ _ fun _ => by rfl)
  · exact onMessage sender t (Visit.brings_iff.2 ⟨_, _, hv, hm⟩)

/-! ### Timers -/

lemma onStart (t : Turn) (hv : v.call = .start) : Moves n₀ v t t.onStart := by
  have hs (delay : Duration) : Moves n₀ v t (t.locate.schedule delay .start) :=
    (Move.locate t).moves.tail (.lifecycle _ _ hv (.inl rfl))
  simp only [Turn.onStart]
  split <;> split
  · exact ((hs _).tail (.lifecycle _ _ hv (.inr rfl))).tail (.incidentLater _ _)
  · exact (hs _).tail (.incidentLater _ _)
  · exact (hs _).tail (.lifecycle _ _ hv (.inr rfl))
  · exact hs _

lemma originate (t : Turn) : Moves n₀ v t t.originate := by
  simp only [Turn.originate]
  split
  · exact refl t
  · refine Moves.tail ?_ (.incidentLater _ _)
    have hc : Moves n₀ v t ((t.edit fun n => { n with lastIncident := some t.now }).count
        fun c => { c with incidentsOriginated := c.incidentsOriginated + 1 }) :=
      (Move.lastIncident t (some t.now)).moves.tail (.count _ _ fun _ => by rfl)
    split
    · exact hc.tail (.send _ _ _ _ _ _)
    · exact hc.trans (broadcast _ (.incident _ _ _ _))

/-- What a timer sets off is a sequence of moves, if the turn has only been located so far. -/
lemma fire (t : Turn) (timer : Timer) (hv : v.call = .timer timer)
    (hr : t.node.reliable = n₀.reliable) (hs : t.node.slots = n₀.slots)
    (hstop : timer = .stop → t.node.record.isStandalone ∧ t.node.record.isStarter →
      n₀.origination? v = some (t.now + t.node.settings.startLead))
    (hdecide : timer = .decide → n₀.origination? v =
      ((Turn.starter? t.node).bind Record.velocity).map
        fun _ => t.now + t.node.settings.startLead) :
    Moves n₀ v t (t.fire timer) := by
  have free {slot : Slot} (h : slot.rings timer) : t.Free n₀ v slot :=
    .inr ⟨⟨timer, hv, h⟩, congrArg (fun s => s.get slot) hs⟩
  have forget {slot : Slot} (h : slot.rings timer) (hne : slot ≠ .activation) :
      Moves n₀ v t (t.setSlot slot none) := (Move.forget t hne (free h)).moves
  cases timer with
  | start => exact beginClustering t
  | stop => exact endClustering t hv (hstop rfl)
  | send => exact (forget rfl (by decide)).trans (transmit (t.setSlot .send none) hv)
  | electionCheck =>
    exact (forget rfl (by decide)).trans (checkElection (t.setSlot .election none))
  | upkeep => exact (forget rfl (by decide)).trans (upkeep (t.setSlot .upkeep none) rfl)
  | decide => exact (exchanged t hv).trans (decideLaunch t hv (hdecide rfl))
  | retransmit peer kind => exact (Move.retransmit t hv hr).moves
  | intraBroadcast => exact (forget rfl (by decide)).trans (announce (t.setSlot .intra none) rfl)
  | activate => exact (Move.activate t hv (free rfl)).moves
  | complete => exact (Move.status t (by decide)).moves
  | dutyActive =>
    exact (Move.status t (by decide)).moves.tail (.arm _ _ rfl (by decide) (free rfl))
  | dutyInactive =>
    exact (Move.status t (by decide)).moves.tail (.arm _ _ rfl (by decide) (free rfl))
  | incident => exact originate t

end Moves

/-- The visit in which a message arrives by itself. -/
def Turn.hearing (t : Turn) (sender : NodeId) (m : Message) : Visit :=
  ⟨t.now, t.position, 0, .packet sender (Packet.single m)⟩

/-- A message is handled as if it arrived by itself. -/
lemma Turn.moves_onMessage (t : Turn) (sender : NodeId) (m : Message) :
    Moves t.node (t.hearing sender m) t (t.onMessage sender m) :=
  .onMessage sender t (List.mem_singleton.2 rfl)

/-- A visit is a sequence of moves, from the turn in which nothing has been done yet. -/
theorem moves_visit (n : Node) (v : Visit) :
    Moves n v (Turn.start n v.now v.position v.nextHandle) (n.visit v) := by
  simp only [Node.visit]
  cases hc : v.call with
  | start => exact Moves.onStart _ hc
  | formCluster => exact Moves.formCluster _
  | packet sender packet => exact Moves.onPacket _ hc
  | timer timer =>
    refine Moves.trans (Move.locate _).moves (Moves.trans (Moves.fire _ timer hc rfl rfl ?_ ?_)
      (Moves.noteRole _ _))
    · rintro rfl h
      simp only [Node.origination?]
      rw [hc]
      exact if_pos h
    · rintro rfl
      rw [Moves.starter?_velocity n _ (by rfl) (by rfl) (by rfl)]
      simp only [Node.origination?]
      rw [hc]
      rfl

end ClusterWave
