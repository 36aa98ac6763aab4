import ClusterWave.Proofs.Node.Handle

/-!
# What a node writes down about itself

A node counts the packets that reach it and the changes of its role. It does so at the beginning and
at the end of a visit only: no handler of a timer or of a message touches these two counters,
however often it changes the role on the way. So a visit counts one packet if it brings one, and one
change of role if the role at its end is another one than at its beginning.
-/

namespace ClusterWave

namespace Turn

/-- How many packets have reached the node, and how often it has changed its role. -/
def books (t : Turn) : Nat × Nat :=
  (t.node.counters.packetsReceived, t.node.counters.roleChanges)

/-! ### Shared steps -/

@[simp] lemma books_locate (t : Turn) : t.locate.books = t.books := rfl

@[simp] lemma books_setStatus (t : Turn) (s : Status) : (t.setStatus s).books = t.books := rfl

@[simp] lemma books_setRecord (t : Turn) (r : Record) : (t.setRecord r).books = t.books := rfl

@[simp] lemma books_setRegistry (t : Turn) (g : Registry) : (t.setRegistry g).books = t.books := rfl

@[simp] lemma books_setSchedule (t : Turn) (s : Schedule) : (t.setSchedule s).books = t.books := rfl

@[simp] lemma books_setDirection (t : Turn) (d : Option Vec2) :
    (t.setDirection d).books = t.books := rfl

@[simp] lemma books_advanceSeq (t : Turn) : t.advanceSeq.books = t.books := rfl

@[simp] lemma books_schedule (t : Turn) (d : Duration) (timer : Timer) :
    (t.schedule d timer).books = t.books := rfl

@[simp] lemma books_setSlot (t : Turn) (slot : Slot) (handle : Option TimerHandle) :
    (t.setSlot slot handle).books = t.books := rfl

@[simp] lemma books_arm (t : Turn) (slot : Slot) (d : Duration) (timer : Timer) :
    (t.arm slot d timer).books = t.books := rfl

@[simp] lemma books_disarm (t : Turn) (slot : Slot) : (t.disarm slot).books = t.books := by
  rw [books, node_disarm]
  rfl

@[simp] lemma books_queueSend (t : Turn) (d : Duration) : (t.queueSend d).books = t.books := by
  rw [books, node_queueSend]
  rfl

@[simp] lemma books_broadcastPacket (t : Turn) (p : Packet) :
    (t.broadcastPacket p).books = t.books := rfl

@[simp] lemma books_broadcast (t : Turn) (m : Message) : (t.broadcast m).books = t.books := rfl

@[simp] lemma books_send (t : Turn) (peer : NodeId) (m : Message) :
    (t.send peer m).books = t.books := rfl

@[simp] lemma books_sendReliably (t : Turn) (peer : NodeId) (m : Message) (d : Duration) :
    (t.sendReliably peer m d).books = t.books := rfl

@[simp] lemma books_cancelKind (t : Turn) (kind : MessageKind) :
    (t.cancelKind kind).books = t.books := rfl

@[simp] lemma books_satisfyAll (t : Turn) : t.satisfyAll.books = t.books := rfl

lemma books_foldl {α : Type} {f : Turn → α → Turn} (h : ∀ t a, (f t a).books = t.books)
    (as : List α) (t : Turn) : (as.foldl f t).books = t.books := by
  induction as generalizing t with
  | nil => rfl
  | cons a as ih => rw [List.foldl_cons, ih, h]

/-- A loop that carries a value besides the turn. -/
lemma books_foldl_fst {α β : Type} {f : Turn × β → α → Turn × β}
    (h : ∀ acc a, (f acc a).1.books = acc.1.books) (as : List α) (acc : Turn × β) :
    (as.foldl f acc).1.books = acc.1.books := by
  induction as generalizing acc with
  | nil => rfl
  | cons a as ih => rw [List.foldl_cons, ih, h]

/-! ### Clusters -/

@[simp] lemma books_beginClustering (t : Turn) : t.beginClustering.books = t.books := by
  simp only [beginClustering, books_arm, books_disarm, books_queueSend]
  rfl

@[simp] lemma books_formCluster (t : Turn) : t.formCluster.books = t.books := by
  simp [formCluster]

@[simp] lemma books_join (t : Turn) (head : NodeId) : (t.join head).books = t.books := by
  simp [join]

@[simp] lemma books_sendGreeting (t : Turn) : t.sendGreeting.books = t.books := by
  simp [sendGreeting]

@[simp] lemma books_clusterFormed (t : Turn) (d : Duration) :
    (t.clusterFormed d).books = t.books := by
  simp only [clusterFormed, books_queueSend]
  rfl

@[simp] lemma books_sendCandidacy (t : Turn) : t.sendCandidacy.books = t.books := by
  simp [sendCandidacy]

@[simp] lemma books_sendFormation (t : Turn) : t.sendFormation.books = t.books := by
  simp [sendFormation]

@[simp] lemma books_updateMessages (t : Turn) : t.updateMessages.1.books = t.books := by
  simp only [updateMessages]
  split
  · rfl
  · exact books_foldl_fst (fun _ _ => by rfl) _ _

@[simp] lemma books_sendUpdate (t : Turn) : t.sendUpdate.books = t.books := by
  simp only [sendUpdate, books_queueSend]
  rw [books_foldl books_broadcastPacket, books_updateMessages]

@[simp] lemma books_transmit (t : Turn) : t.transmit.books = t.books := by
  simp only [transmit]
  split
  · simp
  · simp
  · simp
  · split <;> simp
  · rfl

@[simp] lemma books_checkElection (t : Turn) : t.checkElection.books = t.books := by
  simp only [checkElection]
  split
  · rfl
  · split
    · simp
    · split <;> simp

@[simp] lemma books_afterUpkeep (t : Turn) (u : Upkeep) : (t.afterUpkeep u).books = t.books := by
  simp only [afterUpkeep]
  split
  · simp
  · split <;> simp

@[simp] lemma books_upkeep (t : Turn) : t.upkeep.books = t.books := by
  simp only [upkeep]
  split <;> simp

/-! ### The wavefront -/

@[simp] lemma books_scheduleActivation (t : Turn) : t.scheduleActivation.books = t.books := by
  rw [books, node_scheduleActivation]
  rfl

@[simp] lemma books_startFirst (t : Turn) : t.startFirst.books = t.books := by
  rw [books, node_startFirst]
  rfl

@[simp] lemma books_activate (t : Turn) : t.activate.books = t.books := by
  simp only [activate]
  split
  · rw [books_arm, books_disarm]
    rfl
  · rfl

@[simp] lemma books_announceLater (t : Turn) : t.announceLater.books = t.books := by
  simp only [announceLater]
  split <;> simp

@[simp] lemma books_offers (source : Vec2) (fs : List Forward) (acc : Turn × Duration) :
    (fs.foldl (offer source) acc).1.books = acc.1.books :=
  books_foldl_fst (fun _ _ => by rfl) fs acc

@[simp] lemma books_launch (t : Turn) (origin : NodeId) (incoming : Vec2) :
    (t.launch origin incoming).books = t.books := by
  simp only [launch]
  split
  · rfl
  · split
    · simp
    · split <;> simp

@[simp] lemma books_announce (t : Turn) : t.announce.books = t.books := by
  simp only [announce]
  split
  · rfl
  · split <;> simp

@[simp] lemma books_exchangeMaps (t : Turn) : t.exchangeMaps.books = t.books :=
  books_foldl_fst (fun _ _ => by rfl) _ (t.setStatus .exchangeMaps, Duration.zero)

@[simp] lemma books_startAlone (t : Turn) : t.startAlone.books = t.books := by
  simp [startAlone]

@[simp] lemma books_endClustering (t : Turn) : t.endClustering.books = t.books := by
  have hu : t.unclustered.books = t.books := by
    rw [books, node_unclustered]
    rfl
  simp only [endClustering]
  split
  · exact (books_exchangeMaps t.unclustered).trans hu
  · exact hu
  · split
    · exact (books_startAlone t.unclustered).trans hu
    · exact hu

@[simp] lemma books_decideLaunch (t : Turn) : t.decideLaunch.books = t.books := by
  simp only [decideLaunch]
  split
  · rfl
  · split
    · rfl
    · split
      · rw [books_launch]
        rfl
      · rfl

@[simp] lemma books_retransmit (t : Turn) (peer : NodeId) (kind : MessageKind) :
    (t.retransmit peer kind).books = t.books := by
  simp only [retransmit]
  split
  · rfl
  · split <;> rfl

@[simp] lemma books_originate (t : Turn) : t.originate.books = t.books := by
  simp only [originate]
  split
  · rfl
  · split <;> rfl

/-! ### Timers and messages -/

/-- No timer touches the books. -/
lemma books_fire (t : Turn) (timer : Timer) : (t.fire timer).books = t.books := by
  cases timer <;> simp [fire]

lemma books_merge (t : Turn) : t.merge.books = t.books := by
  simp only [merge]
  split
  · rfl
  · split <;> rfl

lemma books_settle (t : Turn) : t.settle.books = t.books := by
  simp only [settle]
  split <;> simp

lemma books_weighNeighbor (t : Turn) (r : Record) : (t.weighNeighbor r).books = t.books := by
  have hn : (if t.node.record.isStandalone then t.settle
      else if t.node.record.isHead && r.belongsTo t.node.id then
        t.setRegistry (t.node.registry.enrol r)
      else if t.node.registry.members.isEmpty then t.merge
      else t).books = t.books := by
    split
    · exact books_settle t
    · split
      · rfl
      · split
        · exact books_merge t
        · rfl
  simp only [weighNeighbor]
  split
  · split <;> simp
  · exact hn
  · exact hn
  · rfl

lemma books_noteForeign (t : Turn) (r : Record) : (t.noteForeign r).books = t.books := by
  simp only [noteForeign]
  split
  · rfl
  · split <;> rfl

lemma books_considerOffer (t : Turn) (source destination direction : Vec2)
    (startTime : Timestamp) :
    (t.considerOffer source destination direction startTime).books = t.books := by
  simp only [considerOffer]
  split
  · rfl
  · split
    · rfl
    · split <;> simp

/-- No message touches the books. -/
lemma books_onMessage (sender : NodeId) (t : Turn) (m : Message) :
    (t.onMessage sender m).books = t.books := by
  cases m with
  | clusterInfo _ r =>
    simp only [onMessage, onClusterInfo]
    split
    · rw [books_noteForeign, books_weighNeighbor, books_setRegistry]
    · rfl
  | initiateCluster _ cluster r =>
    simp only [onMessage, onInitiateCluster]
    split <;> simp
  | formCluster _ r =>
    simp only [onMessage, onFormCluster]
    split
    · split <;> simp
    · rfl
  | neighborCluster _ cluster r =>
    simp only [onMessage, onNeighborCluster]
    split
    · split
      · rfl
      · split <;> rfl
    · rfl
  | densityMap seq cluster r map =>
    simp only [onMessage, onDensityMap]
    split <;> rfl
  | interCluster seq cluster source destination direction startTime =>
    simp only [onMessage, onInterCluster]
    split
    · rw [books_considerOffer, books_send]
    · rfl
  | intraCluster _ cluster starter startTime direction =>
    simp only [onMessage, onIntraCluster]
    split
    · split
      · split <;> simp
      · rfl
    · rfl
  | interNode _ _ position direction startTime =>
    simp only [onMessage, onInterNode]
    split
    · split
      · rfl
      · split
        · rfl
        · split <;> simp
    · rfl
  | ack _ cluster kind => rfl
  | incident origin timestamp cluster severity =>
    simp only [onMessage, onIncident, onOwnIncident]
    split
    · split <;> rfl
    · split <;> rfl

/-! ### Visits -/

/-- A change of role is taken down if there is one. -/
lemma books_noteRole (t : Turn) (before : Degree × Option NodeId) :
    (t.noteRole before).books =
      (t.books.1, t.books.2 + if t.node.record.role = before then 0 else 1) := by
  simp only [noteRole]
  split <;> rfl

@[simp] lemma record_noteRole (t : Turn) (before : Degree × Option NodeId) :
    (t.noteRole before).node.record = t.node.record := by
  rw [node_noteRole]

lemma books_onStart (t : Turn) : t.onStart.books = t.books := by
  simp only [onStart]
  split <;> split <;> rfl

lemma role_onStart (t : Turn) : t.onStart.node.record.role = t.node.record.role := by
  simp only [onStart]
  split <;> split <;> rfl

lemma role_formCluster (t : Turn) : t.formCluster.node.record.role = t.node.record.role := by
  simp only [formCluster]
  rw [node_queueSend]
  show (t.disarm .election).node.record.role = _
  rw [node_disarm]

end Turn

/-- Whether a node is called because a packet has arrived. -/
def Call.isPacket : Call → Bool
  | .packet _ _ => true
  | _ => false

/-- A visit counts the packet that it brings, and a change of role from its beginning to its end. -/
theorem Node.books_visit (n : Node) (v : Visit) :
    (n.visit v).books =
      (n.counters.packetsReceived + (if v.call.isPacket then 1 else 0),
        n.counters.roleChanges +
          if (n.visit v).node.record.role = n.record.role then 0 else 1) := by
  cases hc : v.call with
  | start =>
    rw [Node.visit_of_start n hc, Turn.books_onStart, Turn.role_onStart]
    simp [Turn.books, Turn.start, Call.isPacket]
  | formCluster =>
    have hv : n.visit v = (Turn.start n v.now v.position v.nextHandle).formCluster := by
      rw [Node.visit, hc]
      rfl
    rw [hv, Turn.books_formCluster, Turn.role_formCluster]
    simp [Turn.books, Turn.start, Call.isPacket]
  | timer timer =>
    rw [Node.visit_timer n hc, Turn.books_noteRole, Turn.books_fire, Turn.record_noteRole]
    rfl
  | packet sender packet =>
    rw [Node.visit_of_packet n hc, Turn.books_noteRole,
      Turn.books_foldl (Turn.books_onMessage sender), Turn.record_noteRole]
    rfl

end ClusterWave
