import ClusterWave.Proofs.Node.Pace

/-!
# Every visit keeps pace

The handlers of messages and timers keep pace with the call that they handle, up to `pace_visit` for
a visit as a whole.
-/

namespace ClusterWave

variable {b : Nat}

open Outbox (Step Steps)

namespace Turn.Pace

/-! ### Messages -/

lemma merge (t : Turn) : Pace b t t.merge := by
  simp only [Turn.merge]
  split
  · exact refl t
  · rename_i head _
    split
    · exact (join_record t head).trans (setRegistry _ _)
    · exact refl t

lemma settle (t : Turn) (hs : t.node.settings.Steady) : Pace b t t.settle := by
  simp only [Turn.settle]
  split
  · rename_i head _
    exact join_record t head
  · exact ((lead t).trans (decided _ rfl)).trans (queueSend _ (.inl hs.slot))

lemma weighNeighbor (t : Turn) (r : Record) (hs : t.node.settings.Steady) :
    Pace b t (t.weighNeighbor r) := by
  have hn : Pace b t
      (if t.node.record.isStandalone then t.settle
      else if t.node.record.isHead && r.belongsTo t.node.id then
        t.setRegistry (t.node.registry.enrol r)
      else if t.node.registry.members.isEmpty then t.merge
      else t) := by
    split
    · exact settle t hs
    · split
      · exact setRegistry t _
      · split
        · exact merge t
        · exact refl t
  simp only [Turn.weighNeighbor]
  split
  · rename_i hi
    split
    · apply join t r.id
      rw [Node.isUndecided, hi]
      rfl
    · exact refl t
  · exact hn
  · exact hn
  · exact refl t

lemma noteForeign (t : Turn) (r : Record) : Pace b t (t.noteForeign r) := by
  simp only [Turn.noteForeign]
  split
  · exact refl t
  · split
    · exact setRegistry t _
    · exact refl t

lemma onClusterInfo (t : Turn) (r : Record) (hs : t.node.settings.Steady) :
    Pace b t (t.onClusterInfo r) := by
  simp only [Turn.onClusterInfo]
  split
  · have hh : Pace b t (t.setRegistry (t.node.registry.hear r)) := setRegistry t _
    exact (hh.trans (weighNeighbor _ r hs)).trans (noteForeign _ r)
  · exact refl t

lemma onInitiateCluster (t : Turn) (cluster : NodeId) (r : Record) :
    Pace b t (t.onInitiateCluster cluster r) := by
  simp only [Turn.onInitiateCluster]
  split
  · rename_i h
    refine (setRegistry t (t.node.registry.hear r)).trans (join _ cluster ?_)
    show t.node.status.isUndecided
    rw [h.1]
    rfl
  · exact refl t

lemma onFormCluster (t : Turn) (r : Record) : Pace b t (t.onFormCluster r) := by
  have hh : Pace b t (t.setRegistry (t.node.registry.hear r)) := setRegistry t _
  simp only [Turn.onFormCluster]
  split
  · split
    · rename_i h
      refine hh.trans (join _ r.id ?_)
      rw [Node.isUndecided]
      rcases h with h | h <;> rw [h] <;> rfl
    · exact hh
  · exact refl t

lemma onNeighborCluster (t : Turn) (cluster : NodeId) (r : Record) :
    Pace b t (t.onNeighborCluster cluster r) := by
  simp only [Turn.onNeighborCluster]
  split
  · split
    · exact refl t
    · split
      · exact setRegistry t _
      · exact refl t
  · exact refl t

/-- An acknowledgment asks for nothing, so that any other message may be answered. -/
lemma sendAck (t : Turn) (peer : NodeId) (seq : UInt64) (cluster : NodeId) (kind : MessageKind)
    (h : 0 < b) : Pace b t (t.send peer (.ack seq cluster kind)) := by
  apply send
  rwa [dataLevel_single _ (by trivial)]

lemma onDensityMap (t : Turn) (seq : UInt64) (cluster : NodeId) (r : Record) (map : DensityMap)
    (h : 0 < b) : Pace b t (t.onDensityMap seq cluster r map) := by
  have hk (u : Turn) : Pace b u
      (u.edit fun n => { n with neighborMaps := n.neighborMaps.insert cluster map }) :=
    same ⟨rfl, rfl, rfl, rfl⟩ rfl rfl rfl
  simp only [Turn.onDensityMap]
  split
  · exact refl t
  · exact ((setRegistry t _).trans (hk _)).trans (sendAck _ _ _ _ _ h)

lemma considerOffer (t : Turn) (source destination direction : Vec2) (startTime : Timestamp)
    (hs : t.node.settings.Steady) :
    Pace b t (t.considerOffer source destination direction startTime) := by
  simp only [Turn.considerOffer]
  split
  · exact refl t
  · split
    · exact refl t
    · split
      · refine (setSchedule t ?_).trans (launch _ _ _ hs)
        exact (Schedule.Ratchet.relaxFirstStart _ _ _ t.now).start
      · exact refl t

lemma onInterCluster (t : Turn) (seq : UInt64) (cluster : NodeId)
    (source destination direction : Vec2) (startTime : Timestamp)
    (hs : t.node.settings.Steady) (h : 0 < b) :
    Pace b t (t.onInterCluster seq cluster source destination direction startTime) := by
  have ha : Pace b t (t.send cluster (.ack seq t.node.ackName .interCluster)) :=
    sendAck t _ _ _ _ h
  simp only [Turn.onInterCluster]
  split
  · exact ha.trans (considerOffer _ _ _ _ _ hs)
  · exact ha

/-- A start that is not earlier than the own one is taken over again, so an announcement ranks above
the activation. -/
lemma onIntraCluster (t : Turn) (cluster starter : NodeId) (startTime : Timestamp)
    (direction : Vec2) (h : 2 < b) :
    Pace b t (t.onIntraCluster cluster starter startTime direction) := by
  have hd : Pace b t (t.setDirection (some direction)) := setDirection t _
  simp only [Turn.onIntraCluster]
  split
  · split
    · split
      · refine (hd.trans (setSchedule _ ?_)).trans (scheduleActivation _ h)
        exact (Schedule.Ratchet.adoptStart _ _ _ t.now).start
      · exact hd
    · exact hd
  · exact refl t

lemma onInterNode (t : Turn) (sender incoming : Vec2) (startTime : Timestamp) :
    Pace b t (t.onInterNode sender incoming startTime) := by
  simp only [Turn.onInterNode]
  split
  · split
    · exact refl t
    · rename_i travel _
      split
      · exact refl t
      · by_cases h : t.now < startTime + travel ∧ startTime + travel < t.node.schedule.start
        · rw [Schedule.relaxStart, if_pos h, if_pos rfl]
          exact startEarlier t h.2
        · rw [Schedule.relaxStart, if_neg h, if_neg Bool.false_ne_true]
          exact refl t
  · exact refl t

lemma onAck (t : Turn) (peer : NodeId) (kind : MessageKind) : Pace b t (t.onAck peer kind) := by
  refine quiet ⟨rfl, rfl, rfl, ReliableSender.retryInterval_acknowledge _ _ _ _⟩ rfl .inl ?_
  show Steps _ t.outbox (t.node.reliable.acknowledge t.outbox peer kind).2.1
  simp only [ReliableSender.acknowledge]
  split
  · exact .refl _
  · exact (Step.cancel _ _).steps

/-- A head relays an incident that comes from its origin, and then it does not any more. -/
lemma onIncident (t : Turn) (sender origin : NodeId) (timestamp : Timestamp)
    (cluster : Option NodeId) (severity : Incident) :
    Pace (Message.level sender (.incident origin timestamp cluster severity)) t
      (t.onIncident sender origin timestamp cluster severity) := by
  simp only [Turn.onIncident, Turn.onOwnIncident]
  split
  · split
    · exact (lastIncident t none).trans (count _ _)
    · exact refl t
  · rename_i hne
    split
    · rename_i h
      apply broadcastPacket
      rw [dataLevel_single _ (by trivial), Message.level, Message.level, if_neg hne,
        if_pos h.2.2.symm]
      exact Nat.zero_lt_one
    · exact refl t

lemma onMessage (sender : NodeId) (t : Turn) (m : Message) (hs : t.node.settings.Steady) :
    Pace (m.level sender) t (t.onMessage sender m) := by
  cases m with
  | clusterInfo => exact onClusterInfo t _ hs
  | initiateCluster => exact onInitiateCluster t _ _
  | formCluster => exact onFormCluster t _
  | neighborCluster => exact onNeighborCluster t _ _
  | densityMap => exact onDensityMap t _ _ _ _ Nat.zero_lt_one
  | interCluster => exact onInterCluster t _ _ _ _ _ _ hs Nat.zero_lt_one
  | intraCluster => exact onIntraCluster t _ _ _ _ (Nat.lt_succ_self 2)
  | interNode => exact onInterNode t _ _ _
  | ack => exact onAck t _ _
  | incident => exact onIncident t _ _ _ _ _

lemma locate (t : Turn) : Pace b t t.locate := same ⟨rfl, rfl, rfl, rfl⟩ rfl rfl rfl

lemma onPacket (t : Turn) (sender : NodeId) (packet : Packet) (hs : t.node.settings.Steady) :
    Pace (packet.level sender) t (t.onPacket sender packet) := by
  refine Pace.trans ?_ (noteRole _ _)
  refine List.foldlRecOn (motive := fun u => Pace (packet.level sender) t u) _ _
    ((locate t).trans (count _ _)) ?_
  intro u hu m hm
  exact hu.trans ((onMessage sender u m (hu.alike.steady hs)).mono (Packet.level_le_of_mem hm))

/-! ### Timers -/

lemma onStart (t : Turn) : Pace 7 t t.onStart := by
  have hs (u : Turn) (delay : Duration) {timer : Timer} (hd : timer.isDuty = false)
      (hl : timer.level u.node.settings < 7) : Pace 7 u (u.schedule delay timer) :=
    schedule u (Timer.fits_of_not_isDuty hd) (.inr hl)
  have hstart (delay : Duration) : Pace 7 t (t.locate.schedule delay .start) :=
    (locate t).trans (hs _ delay rfl (by decide : 6 < 7))
  have hstop (u : Turn) (delay : Duration) : Pace 7 u (u.schedule delay .stop) :=
    hs u delay rfl (by decide : 5 < 7)
  have hincident (u : Turn) (delay : Duration) : Pace 7 u (u.schedule delay .incident) :=
    hs u delay rfl (by decide : 4 < 7)
  simp only [Turn.onStart]
  split <;> split
  · exact ((hstart _).trans (hstop _ _)).trans (hincident _ _)
  · exact (hstart _).trans (hincident _ _)
  · exact (hstart _).trans (hstop _ _)
  · exact hstart _

lemma retransmit (t : Turn) (peer : NodeId) (kind : MessageKind)
    (h : t.node.reliable.retryInterval.Lasts) : Pace 4 t (t.retransmit peer kind) := by
  refine quiet (.of_node (now_retransmit t _ _) (node_retransmit t _ _) rfl rfl
    (ReliableSender.retryInterval_transmit _ _ _ _)) ?_ ?_ ?_
  · rw [node_retransmit]
  · rw [node_retransmit]
    exact .inl
  · rw [outbox_retransmit]
    simp only [ReliableSender.transmit]
    split
    · exact .refl _
    · refine (Step.send _ ?_).steps.tail (.schedule _ ⟨Timer.fits_of_not_isDuty rfl, .inl h⟩)
      exact Nat.lt_of_le_of_lt (dataLevel_le _ _) (by decide)

lemma originate (t : Turn) (hs : t.node.settings.Steady) : Pace 4 t t.originate := by
  have hl (u : Turn) (data : List UInt8) : dataLevel u.node.id data < 4 :=
    Nat.lt_succ_of_le (dataLevel_le _ _)
  have hc (f : Counters → Counters) : Pace 4 t
      ((t.edit fun n => { n with lastIncident := some t.now }).count f) :=
    (lastIncident t _).trans (count _ f)
  simp only [Turn.originate]
  split
  · exact refl t
  · rename_i interval hi
    refine Pace.trans ?_
      (schedule _ (Timer.fits_of_not_isDuty rfl) (.inl (hs.incidentInterval interval hi)))
    split
    · exact (hc _).trans (send _ _ (hl _ _))
    · exact (hc _).trans (broadcastPacket _ (hl _ _))

/-- A window of a duty cycle begins, and its end is armed. -/
lemma duty (t : Turn) {s : Status} {window : Duration} {timer : Timer}
    (hst : s.isUndecided = false) (hf : timer.Fits t.node.settings)
    (h : window.Lasts ∨ timer.level t.node.settings < b) :
    Pace b t ((t.setStatus s).arm .duty window timer) := (decided t hst).trans (arm _ .duty hf h)

lemma fire (t : Turn) (timer : Timer) (hs : t.node.settings.Steady)
    (hr : t.node.reliable.retryInterval.Lasts) (hf : timer.Fits t.node.settings) :
    Pace (timer.level t.node.settings) t (t.fire timer) := by
  cases timer with
  | start => exact beginClustering t hs (Nat.le_refl 6)
  | stop => exact endClustering t (Nat.lt_succ_self 4)
  | send => exact (setSlot t .send none).trans (transmit _ hs (Nat.le_refl 4))
  | electionCheck => exact (setSlot t .election none).trans (checkElection _ hs)
  | upkeep => exact (setSlot t .upkeep none).trans (upkeep _ hs (Nat.le_refl 6))
  | decide => exact decideLaunch t hs
  | retransmit peer kind => exact retransmit t peer kind hr
  | intraBroadcast => exact (setSlot t .intra none).trans (announce _ hs (Nat.le_refl 4))
  | activate => exact (setSlot t .activation none).trans (activate _ (Nat.le_refl 2))
  | complete => exact decided t rfl
  | dutyActive =>
    refine duty t rfl hf ?_
    have hd := hs.duty (hf rfl)
    simp only [Timer.level]
    grind
  | dutyInactive =>
    refine duty t rfl hf ?_
    have hd := hs.duty (hf rfl)
    simp only [Timer.level]
    grind
  | incident => exact originate t hs

end Turn.Pace

/-- Whatever a node is called for, what it asks for is of a lower level if it is due at once, unless
the node decides or gets an earlier start. -/
theorem pace_visit (n : Node) (v : Visit) (hs : n.settings.Steady)
    (hr : n.reliable.retryInterval.Lasts) (hf : v.call.Fits n.settings) :
    Turn.Pace (v.call.level n.settings) (Turn.start n v.now v.position v.nextHandle)
      (n.visit v) := by
  simp only [Node.visit]
  cases hc : v.call with
  | start => exact Turn.Pace.onStart _
  | formCluster => exact Turn.Pace.formCluster _ (Nat.lt_succ_self 4)
  | packet sender packet => exact Turn.Pace.onPacket _ sender packet hs
  | timer timer =>
    rw [hc] at hf
    have hl := Turn.Pace.fire (Turn.start n v.now v.position v.nextHandle).locate timer hs hr hf
    exact ((Turn.Pace.locate _).trans hl).trans (Turn.Pace.noteRole _ _)

end ClusterWave
