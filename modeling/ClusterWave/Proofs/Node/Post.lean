import ClusterWave.Proofs.Node.Asked
import ClusterWave.Proofs.Node.Pace

/-!
# What a node sends

A packet leaves a node as a broadcast, in a batch of updates, to a single peer, or as a pending
message that is sent again; and each of these is counted by hand where it is done. `Posting` lists
all the ways in which something is sent, taken up, given up or counted in a visit, and under which
condition; `Postings` is a sequence of them, and `postings_visit` says that every visit is one. The
messages of a packet that has arrived are read one by one on the way, so that it can be told which
of them a node has passed on.
-/

namespace ClusterWave

/-! ### Messages and effects -/

namespace Message

/-- Whether a message starts or forms a cluster. -/
def isFormation : Message → Bool
  | .initiateCluster .. | .formCluster .. => true
  | _ => false

/-- Whether a message passes a wavefront on. -/
def isWave : Message → Bool
  | .interNode .. => true
  | _ => false

/-- The origin of an incident. -/
def origin? : Message → Option NodeId
  | .incident origin _ _ _ => some origin
  | _ => none

/-- Whether nothing is counted about a message but the packet in which it is. -/
def isUncounted : Message → Bool
  | .initiateCluster .. | .formCluster .. | .interNode .. | .incident .. => false
  | _ => true

end Message

/-- Whether an effect sends a packet. -/
def Effect.isPacket : Effect → Bool
  | .broadcast _ | .send _ _ => true
  | _ => false

/-- Whether an effect sends a packet, or arms a timer to do so for a pending message. -/
def Effect.isPosted : Effect → Bool
  | .broadcast _ | .send _ _ | .schedule _ _ (.retransmit _ _) => true
  | _ => false

/-- The pending message that is to be sent again in a visit. -/
def Visit.resends? (v : Visit) : Option (NodeId × MessageKind) :=
  match v.call with
  | .timer (.retransmit peer kind) => some (peer, kind)
  | _ => none

/-! ### Posts -/

/-- What a node has sent in a visit so far, what it still has to read and what it has counted. -/
structure Post where
  id : NodeId
  /-- The messages that are not read yet. -/
  inbox : List Message
  pending : Table (NodeId × MessageKind) Pending
  /-- The packets that were sent and the timers that were armed for pending messages. -/
  effects : List Effect
  packetsSent : Nat
  retransmissions : Nat
  formationMessages : Nat
  activations : Nat
  originated : Nat
  returned : Nat
  lastIncident : Option Timestamp

namespace Post

/-- A packet is sent. -/
def put (p : Post) (e : Effect) : Post :=
  { p with effects := p.effects ++ [e], packetsSent := p.packetsSent + 1 }

end Post

/-- What sends, takes up or counts something in the visit `v`. -/
inductive Posting (v : Visit) : Post → Post → Prop where
  /-- Most packets are just counted. -/
  | send (p : Post) {e : Effect} (he : e.isPacket) (hm : ∀ m ∈ e.messages, m.isUncounted)
      (hv : v.resends? = none) : Posting v p (p.put e)
  | form (p : Post) {m : Message} (hm : m.isFormation) :
      Posting v p { p.put (.broadcast (Packet.single m)) with
        formationMessages := p.formationMessages + 1 }
  | activate (p : Post) {m : Message} (hm : m.isWave) :
      Posting v p { p.put (.broadcast (Packet.single m)) with activations := p.activations + 1 }
  -- Incidents
  | originate (p : Post) {e : Effect} {timestamp : Timestamp} {cluster : Option NodeId}
      {severity : Incident} (he : e.isPacket)
      (hm : e.messages = [.incident p.id timestamp cluster severity]) (hv : v.resends? = none) :
      Posting v p { p.put e with originated := p.originated + 1, lastIncident := some timestamp }
  /-- A head passes on what one of its members tells about itself. -/
  | relay (p : Post) {origin : NodeId} {timestamp : Timestamp} {severity : Incident}
      {packet : Packet} {rest : List Message} (hv : v.call = .packet origin packet)
      (hne : origin ≠ p.id)
      (hi : p.inbox = .incident origin timestamp (some p.id) severity :: rest) :
      Posting v p { p.put (.broadcast (Packet.single
        (.incident origin timestamp (some p.id) severity))) with inbox := rest }
  | heardBack (p : Post) {timestamp : Timestamp} (h : p.lastIncident = some timestamp) :
      Posting v p { p with returned := p.returned + 1, lastIncident := none }
  | read (p : Post) {m : Message} {rest : List Message} (hi : p.inbox = m :: rest) :
      Posting v p { p with inbox := rest }
  -- Reliable delivery
  | take (p : Post) {m : Message} (peer : NodeId) (handle : TimerHandle) (delay : Duration)
      (hm : m.isUncounted) (hv : v.resends? = none) :
      Posting v p { p with
        pending := p.pending.insert (peer, m.kind) ⟨m, 0, handle⟩
        effects := p.effects ++ [.schedule handle delay (.retransmit peer m.kind)] }
  | drop (p : Post) (keep : NodeId × MessageKind → Pending → Bool) :
      Posting v p { p with pending := p.pending.filter keep }
  | resend (p : Post) {peer : NodeId} {kind : MessageKind} {q : Pending} (handle : TimerHandle)
      (delay : Duration) (hv : v.resends? = some (peer, kind))
      (hq : p.pending.get? (peer, kind) = some q) :
      Posting v p { p.put (.send peer (Packet.single q.message)) with
        pending :=
          p.pending.insert (peer, kind) { q with attempts := q.attempts + 1, timer := handle }
        effects := p.effects ++ [.send peer (Packet.single q.message),
          .schedule handle delay (.retransmit peer kind)]
        retransmissions := p.retransmissions + if 0 < q.attempts then 1 else 0 }

/-- A sequence of such steps. -/
def Postings (v : Visit) : Post → Post → Prop := Relation.ReflTransGen (Posting v)

/-- What the node has sent so far in a turn. -/
def Turn.post (t : Turn) (inbox : List Message) : Post where
  id := t.node.id
  inbox := inbox
  pending := t.node.reliable.pending
  effects := t.outbox.effects.filter Effect.isPosted
  packetsSent := t.node.counters.packetsSent
  retransmissions := t.node.counters.retransmissions
  formationMessages := t.node.counters.formationMessages
  activations := t.node.counters.activations
  originated := t.node.counters.incidentsOriginated
  returned := t.node.counters.incidentsReturned
  lastIncident := t.node.lastIncident

namespace Turn

/-! ### Steps that send nothing -/

@[simp] lemma post_locate (t : Turn) : t.locate.post = t.post := rfl

@[simp] lemma post_setStatus (t : Turn) (s : Status) : (t.setStatus s).post = t.post := rfl

lemma post_setRecord (t : Turn) {r : Record} (h : r.id = t.node.id) :
    (t.setRecord r).post = t.post := by
  funext inbox
  simp only [post, setRecord, edit, Node.id, h]

@[simp] lemma post_becomeHead (t : Turn) :
    (t.setRecord t.node.record.becomeHead).post = t.post := rfl

@[simp] lemma post_setRecord_join (t : Turn) (head : NodeId) :
    (t.setRecord (t.node.record.join head)).post = t.post :=
  t.post_setRecord (Record.id_join _ _)

@[simp] lemma post_setRegistry (t : Turn) (g : Registry) : (t.setRegistry g).post = t.post := rfl

@[simp] lemma post_setSchedule (t : Turn) (s : Schedule) : (t.setSchedule s).post = t.post := rfl

@[simp] lemma post_setDirection (t : Turn) (d : Option Vec2) :
    (t.setDirection d).post = t.post := rfl

@[simp] lemma post_advanceSeq (t : Turn) : t.advanceSeq.post = t.post := rfl

@[simp] lemma post_noteRole (t : Turn) (before : Degree × Option NodeId) :
    (t.noteRole before).post = t.post := by
  simp only [noteRole]
  split <;> rfl

/-- Nothing but timers that have nothing to do with pending messages is asked for. -/
lemma post_congr {t t' : Turn} (hid : t'.node.id = t.node.id)
    (hreliable : t'.node.reliable = t.node.reliable)
    (hcounters : t'.node.counters = t.node.counters)
    (hlast : t'.node.lastIncident = t.node.lastIncident)
    (ho : t'.outbox.effects.filter Effect.isPosted = t.outbox.effects.filter Effect.isPosted) :
    t'.post = t.post := by
  funext inbox
  simp only [post, hid, hreliable, hcounters, hlast, ho]

lemma filter_isPosted_add {e : Effect} (h : e.isPosted = false) (es : List Effect) :
    (es ++ [e]).filter Effect.isPosted = es.filter Effect.isPosted := by
  simp [List.filter_append, h]

lemma post_schedule (t : Turn) (d : Duration) {timer : Timer}
    (h : (Effect.schedule t.outbox.handle d timer).isPosted = false) :
    (t.schedule d timer).post = t.post :=
  post_congr rfl rfl rfl rfl (filter_isPosted_add h _)

@[simp] lemma post_setSlot (t : Turn) (slot : Slot) (handle : Option TimerHandle) :
    (t.setSlot slot handle).post = t.post := rfl

/-- The timers under slots have nothing to do with pending messages. -/
lemma post_arm (t : Turn) {slot : Slot} (d : Duration) {timer : Timer} (h : slot.rings timer) :
    (t.arm slot d timer).post = t.post := by
  refine (post_schedule _ d ?_).trans (t.post_setSlot slot _)
  cases timer with
  | retransmit => cases slot <;> cases h
  | _ => rfl

@[simp] lemma post_disarm (t : Turn) (slot : Slot) : (t.disarm slot).post = t.post := by
  simp only [disarm]
  split
  · rfl
  · exact post_congr rfl rfl rfl rfl (filter_isPosted_add rfl _)

@[simp] lemma post_queueSend (t : Turn) (d : Duration) : (t.queueSend d).post = t.post := by
  simp only [queueSend]
  split
  · exact t.post_arm d rfl
  · rfl

@[simp] lemma post_beginClustering (t : Turn) : t.beginClustering.post = t.post := by
  simp only [beginClustering]
  rw [post_arm _ _ rfl, post_disarm, post_queueSend]
  rfl

@[simp] lemma post_formCluster (t : Turn) : t.formCluster.post = t.post := by
  simp [formCluster]

@[simp] lemma post_join (t : Turn) (head : NodeId) : (t.join head).post = t.post := by
  simp only [join, post_queueSend, post_setStatus, post_setRegistry, post_setRecord_join,
    post_disarm]

@[simp] lemma post_checkElection (t : Turn) : t.checkElection.post = t.post := by
  simp only [checkElection]
  split
  · rfl
  · split
    · simp
    · split <;> simp

@[simp] lemma post_afterUpkeep (t : Turn) (u : Upkeep) : (t.afterUpkeep u).post = t.post := by
  simp only [afterUpkeep]
  split
  · simp
  · split <;> simp

@[simp] lemma post_upkeep (t : Turn) : t.upkeep.post = t.post := by
  simp only [upkeep]
  split
  · rw [post_arm _ _ rfl, post_afterUpkeep, post_setRecord, post_setRegistry]
    exact Registry.id_maintain _ _ _ _
  · rfl

@[simp] lemma post_scheduleActivation (t : Turn) : t.scheduleActivation.post = t.post := by
  simp only [scheduleActivation]
  split
  · rfl
  · rw [post_arm _ _ rfl, post_disarm, post_setStatus]

@[simp] lemma post_startFirst (t : Turn) : t.startFirst.post = t.post := by
  simp only [startFirst]
  split <;> simp

@[simp] lemma post_startAlone (t : Turn) : t.startAlone.post = t.post := by
  simp [startAlone]

@[simp] lemma post_announceLater (t : Turn) : t.announceLater.post = t.post := by
  simp only [announceLater]
  split
  · rfl
  · rw [post_arm _ _ rfl, post_disarm]

@[simp] lemma post_unclustered (t : Turn) : t.unclustered.post = t.post := by
  simp only [unclustered, post_disarm]
  rfl

lemma post_onStart (t : Turn) : t.onStart.post = t.post := by
  have hstart (t : Turn) (d : Duration) : (t.schedule d .start).post = t.post :=
    post_schedule t d rfl
  have hstop (t : Turn) (d : Duration) : (t.schedule d .stop).post = t.post :=
    post_schedule t d rfl
  have hincident (t : Turn) (d : Duration) : (t.schedule d .incident).post = t.post :=
    post_schedule t d rfl
  simp only [onStart]
  split <;> split <;> simp only [hstart, hstop, hincident, post_locate]

/-! ### Messages about clusters -/

lemma post_merge (t : Turn) : t.merge.post = t.post := by
  simp only [merge]
  split
  · rfl
  · split <;> simp

lemma post_settle (t : Turn) : t.settle.post = t.post := by
  simp only [settle]
  split <;> simp

lemma post_weighNeighbor (t : Turn) (r : Record) : (t.weighNeighbor r).post = t.post := by
  have hn : (if t.node.record.isStandalone then t.settle
      else if t.node.record.isHead && r.belongsTo t.node.id then
        t.setRegistry (t.node.registry.enrol r)
      else if t.node.registry.members.isEmpty then t.merge
      else t).post = t.post := by
    split
    · exact post_settle t
    · split
      · rfl
      · split
        · exact post_merge t
        · rfl
  simp only [weighNeighbor]
  split
  · split <;> simp
  · exact hn
  · exact hn
  · rfl

lemma post_noteForeign (t : Turn) (r : Record) : (t.noteForeign r).post = t.post := by
  simp only [noteForeign]
  split
  · rfl
  · split <;> rfl

lemma post_onClusterInfo (t : Turn) (r : Record) : (t.onClusterInfo r).post = t.post := by
  simp only [onClusterInfo]
  split
  · rw [post_noteForeign, post_weighNeighbor, post_setRegistry]
  · rfl

lemma post_onInitiateCluster (t : Turn) (cluster : NodeId) (r : Record) :
    (t.onInitiateCluster cluster r).post = t.post := by
  simp only [onInitiateCluster]
  split <;> simp

lemma post_onFormCluster (t : Turn) (r : Record) : (t.onFormCluster r).post = t.post := by
  simp only [onFormCluster]
  split
  · split <;> simp
  · rfl

lemma post_onNeighborCluster (t : Turn) (cluster : NodeId) (r : Record) :
    (t.onNeighborCluster cluster r).post = t.post := by
  simp only [onNeighborCluster]
  split
  · split
    · rfl
    · split <;> rfl
  · rfl

lemma post_onIntraCluster (t : Turn) (cluster starter : NodeId) (startTime : Timestamp)
    (direction : Vec2) : (t.onIntraCluster cluster starter startTime direction).post = t.post := by
  simp only [onIntraCluster]
  split
  · split
    · split <;> simp
    · rfl
  · rfl

lemma post_onInterNode (t : Turn) (sender incoming : Vec2) (startTime : Timestamp) :
    (t.onInterNode sender incoming startTime).post = t.post := by
  simp only [onInterNode]
  split
  · split
    · rfl
    · split
      · rfl
      · split <;> simp
  · rfl

/-! ### Packets and pending messages -/

/-- Posting a packet. -/
lemma post_broadcastPacket (t : Turn) (p : Packet) (inbox : List Message) :
    (t.broadcastPacket p).post inbox = (t.post inbox).put (.broadcast p) := by
  simp [post, broadcastPacket, Post.put, Outbox.broadcast, Outbox.add, countPacket, count, edit,
    Node.id, List.filter_append, Effect.isPosted]

lemma post_broadcast (t : Turn) (m : Message) (inbox : List Message) :
    (t.broadcast m).post inbox = (t.post inbox).put (.broadcast (Packet.single m)) :=
  t.post_broadcastPacket _ inbox

lemma post_send (t : Turn) (peer : NodeId) (m : Message) (inbox : List Message) :
    (t.send peer m).post inbox = (t.post inbox).put (.send peer (Packet.single m)) := by
  simp [post, send, Post.put, Outbox.send, Outbox.add, countPacket, count, edit, Node.id,
    List.filter_append, Effect.isPosted]

lemma filter_isPosted_silence (o : Outbox) (p : Option Pending) :
    (ReliableSender.silence o p).effects.filter Effect.isPosted =
      o.effects.filter Effect.isPosted := by
  cases p with
  | none => rfl
  | some p => exact filter_isPosted_add rfl _

lemma filter_isPosted_cancels (ps : List Pending) (o : Outbox) :
    (ps.foldl (fun o p => o.cancel p.timer) o).effects.filter Effect.isPosted =
      o.effects.filter Effect.isPosted := by
  induction ps generalizing o with
  | nil => rfl
  | cons p ps ih => exact (ih _).trans (filter_isPosted_add rfl _)

lemma post_sendReliably (t : Turn) (peer : NodeId) (m : Message) (d : Duration)
    (inbox : List Message) :
    (t.sendReliably peer m d).post inbox = { t.post inbox with
      pending := t.node.reliable.pending.insert (peer, m.kind) ⟨m, 0, t.outbox.handle⟩
      effects := (t.post inbox).effects ++
        [.schedule t.outbox.handle d (.retransmit peer m.kind)] } := by
  have ho : (t.sendReliably peer m d).outbox.effects.filter Effect.isPosted =
      t.outbox.effects.filter Effect.isPosted ++
        [.schedule t.outbox.handle d (.retransmit peer m.kind)] := by
    refine (filter_isPosted_silence _ _).trans ?_
    simp [Outbox.schedule, List.filter_append, Effect.isPosted]
  simp only [post, ho]
  rfl

/-- Some pending messages are given up. -/
lemma post_giveUp (t : Turn) (test : NodeId × MessageKind → Bool) (inbox : List Message) :
    ({ t.edit fun n => { n with reliable := (t.node.reliable.giveUp t.outbox test).1 } with
        outbox := (t.node.reliable.giveUp t.outbox test).2.1 } : Turn).post inbox =
      { t.post inbox with
        pending := t.node.reliable.pending.filter fun key _ => !test key } := by
  simp only [post, ReliableSender.giveUp, filter_isPosted_cancels]
  rfl

/-! ### Handlers -/

variable {v : Visit} {t t' t'' : Turn}

/-- From one turn to the other the node posts something, and reads nothing. -/
def Posts (v : Visit) (t t' : Turn) : Prop := ∀ inbox, Postings v (t.post inbox) (t'.post inbox)

namespace Posts

lemma of_eq (h : t'.post = t.post) : Posts v t t' := by
  intro inbox
  rw [h]
  exact .refl

lemma refl (t : Turn) : Posts v t t := of_eq rfl

lemma trans (h : Posts v t t') (h' : Posts v t' t'') : Posts v t t'' :=
  fun inbox => (h inbox).trans (h' inbox)

lemma single (h : ∀ inbox, Posting v (t.post inbox) (t'.post inbox)) : Posts v t t' :=
  fun inbox => .single (h inbox)

/-- A loop over a list. -/
lemma foldl {α : Type} {f : Turn → α → Turn} {as : List α}
    (h : ∀ t, ∀ a ∈ as, Posts v t (f t a)) (t : Turn) : Posts v t (as.foldl f t) :=
  List.foldlRecOn (motive := fun t' => Posts v t t') _ _ (refl t)
    fun t' ht a ha => ht.trans (h t' a ha)

/-- A loop that carries a value besides the turn. -/
lemma foldl_fst {α β : Type} {f : Turn × β → α → Turn × β}
    (h : ∀ acc a, Posts v acc.1 (f acc a).1) (as : List α) (acc : Turn × β) :
    Posts v acc.1 (as.foldl f acc).1 :=
  List.foldlRecOn (motive := fun acc' : Turn × β => Posts v acc.1 acc'.1) _ _ (refl acc.1)
    fun acc' ht a _ => ht.trans (h acc' a)

lemma broadcast (hv : v.resends? = none) (t : Turn) {m : Message} (hm : m.isUncounted) :
    Posts v t (t.broadcast m) := by
  refine single fun inbox => ?_
  rw [post_broadcast]
  refine .send _ rfl ?_ hv
  intro m' hm'
  rwa [List.mem_singleton.1 hm']

lemma send (hv : v.resends? = none) (t : Turn) (peer : NodeId) {m : Message}
    (hm : m.isUncounted) :
    Posts v t (t.send peer m) := by
  refine single fun inbox => ?_
  rw [post_send]
  refine .send _ rfl ?_ hv
  intro m' hm'
  rwa [List.mem_singleton.1 hm']

lemma sendReliably (hv : v.resends? = none) (t : Turn) (peer : NodeId) {m : Message} (d : Duration)
    (hm : m.isUncounted) : Posts v t (t.sendReliably peer m d) := by
  refine single fun inbox => ?_
  rw [post_sendReliably]
  exact .take _ peer _ d hm hv

lemma cancelKind (t : Turn) (kind : MessageKind) : Posts v t (t.cancelKind kind) := by
  refine single fun inbox => ?_
  rw [show (t.cancelKind kind).post inbox = _ from t.post_giveUp (fun key => key.2 == kind) inbox]
  exact .drop _ _

lemma satisfyAll (t : Turn) : Posts v t t.satisfyAll := by
  refine single fun inbox => ?_
  rw [show t.satisfyAll.post inbox = _ from t.post_giveUp (fun _ => true) inbox]
  exact .drop _ _

/-! ### Transmissions -/

lemma sendGreeting (hv : v.resends? = none) (t : Turn) : Posts v t t.sendGreeting := by
  have hsend := broadcast hv t.advanceSeq
    (m := .clusterInfo t.advanceSeq.node.seq t.advanceSeq.node.record) rfl
  exact hsend.trans (of_eq ((post_arm _ _ rfl).trans (post_disarm _ _)))

/-- The message is sent and counted. -/
lemma formation (t : Turn) {m : Message} (hm : m.isFormation) (d : Duration) :
    Posts v t ((t.broadcast m).clusterFormed d) := by
  refine single fun inbox => ?_
  have hpost : ((t.broadcast m).clusterFormed d).post inbox =
      { (t.post inbox).put (.broadcast (Packet.single m)) with
        formationMessages := t.node.counters.formationMessages + 1 } := by
    rw [← post_broadcast, clusterFormed, post_queueSend]
    rfl
  rw [hpost]
  exact .form _ hm

lemma sendCandidacy (t : Turn) : Posts v t t.sendCandidacy :=
  formation (t.setRecord t.node.record.becomeHead).advanceSeq (m := .initiateCluster _ _ _) rfl _

lemma sendFormation (t : Turn) : Posts v t t.sendFormation :=
  formation (t.setRecord t.node.record.becomeHead).advanceSeq (m := .formCluster _ _) rfl _

lemma updateMessages (t : Turn) :
    t.updateMessages.1.post = t.post ∧ ∀ m ∈ t.updateMessages.2, m.isUncounted := by
  have hown : ∀ m ∈ [Message.clusterInfo t.advanceSeq.node.seq t.advanceSeq.node.record],
      m.isUncounted := by
    intro m hm
    rw [List.mem_singleton.1 hm]
    rfl
  simp only [Turn.updateMessages]
  split
  · exact ⟨rfl, hown⟩
  · refine List.foldlRecOn (motive := fun acc : Turn × List Message =>
      acc.1.post = t.post ∧ ∀ m ∈ acc.2, m.isUncounted) _ _ ⟨rfl, hown⟩ ?_
    rintro acc ⟨hpost, hm⟩ foreign -
    refine ⟨hpost, ?_⟩
    intro m hmem
    rcases List.mem_append.1 hmem with hmem | hmem
    · exact hm m hmem
    · rw [List.mem_singleton.1 hmem]
      rfl

lemma sendUpdate (hv : v.resends? = none) (t : Turn) : Posts v t t.sendUpdate := by
  obtain ⟨hpost, hm⟩ := updateMessages t
  simp only [Turn.sendUpdate]
  refine (of_eq hpost).trans ((foldl ?_ _).trans (of_eq (post_queueSend _ _)))
  intro t' p hp
  refine single fun inbox => ?_
  rw [post_broadcastPacket]
  exact .send _ rfl (fun m hmem => hm m (Packet.mem_of_mem_batch hp hmem)) hv

lemma transmit (hv : v.resends? = none) (t : Turn) : Posts v t t.transmit := by
  simp only [Turn.transmit]
  split
  · exact sendGreeting hv t
  · exact sendCandidacy t
  · exact sendFormation t
  · split
    · exact sendUpdate hv t
    · exact refl t
  · exact refl t

/-! ### The wavefront -/

lemma activate (t : Turn) : Posts v t t.activate := by
  have hsend (t : Turn) {m : Message} (hm : m.isWave) :
      Posts v t (((t.setStatus .running).count fun c =>
        { c with activations := c.activations + 1 }).advanceSeq.broadcast m) := by
    refine single fun inbox => ?_
    rw [post_broadcast]
    exact .activate _ hm
  simp only [Turn.activate]
  split
  · exact (hsend t (m := .interNode _ _ _ _ _) rfl).trans
      (of_eq ((post_arm _ _ rfl).trans (post_disarm _ _)))
  · exact (hsend t (m := .interNode _ _ _ _ _) rfl).trans (of_eq (post_schedule _ _ rfl))

lemma offers (hv : v.resends? = none) (source : Vec2) (fs : List Forward)
    (acc : Turn × Duration) : Posts v acc.1 (fs.foldl (offer source) acc).1 :=
  foldl_fst (fun acc f => sendReliably hv acc.1.advanceSeq f.cluster
    (m := .interCluster _ _ _ _ _ _) acc.2 rfl) fs acc

lemma launch (hv : v.resends? = none) (t : Turn) (origin : NodeId) (incoming : Vec2) :
    Posts v t (t.launch origin incoming) := by
  simp only [Turn.launch]
  split
  · exact refl t
  · rename_i source _
    have hc : Posts v t (t.cancelKind .interCluster) := cancelKind t .interCluster
    split
    · exact hc
    · rename_i plan _
      have ho := hc.trans (offers hv source plan.forwards (t.cancelKind .interCluster,
        t.node.settings.backoff))
      split
      · exact ho.trans (of_eq ((post_startFirst _).trans (post_announceLater _)))
      · exact ho.trans (of_eq (post_announceLater _))

lemma announce (hv : v.resends? = none) (t : Turn) : Posts v t t.announce := by
  simp only [Turn.announce]
  split
  · exact refl t
  · split
    · exact refl t
    · exact (broadcast hv t.advanceSeq (m := .intraCluster _ _ _ _ _) rfl).trans
        (of_eq (post_arm _ _ rfl))

lemma sendMaps (hv : v.resends? = none) (map : DensityMap) (peers : List NodeId)
    (acc : Turn × Duration) : Posts v acc.1 (peers.foldl (sendMap map) acc).1 :=
  foldl_fst (fun acc peer => sendReliably hv acc.1.advanceSeq peer
    (m := .densityMap _ _ _ map) _ rfl) peers acc

lemma exchangeMaps (hv : v.resends? = none) (t : Turn) : Posts v t t.exchangeMaps := by
  have hs : Posts v t (t.setStatus .exchangeMaps) := of_eq rfl
  have hm := hs.trans (sendMaps hv (DensityMap.estimate t.node.settings.grid (memberOffsets t.node))
    t.node.registry.foreign.keys (_, Duration.zero))
  exact hm.trans (of_eq (post_schedule _ _ rfl))

lemma endClustering (hv : v.resends? = none) (t : Turn) : Posts v t t.endClustering := by
  have hu : Posts v t t.unclustered := of_eq (post_unclustered t)
  simp only [Turn.endClustering]
  split
  · exact hu.trans (exchangeMaps hv t.unclustered)
  · exact hu
  · split
    · exact hu.trans (of_eq (post_startAlone t.unclustered))
    · exact hu

lemma decideLaunch (hv : v.resends? = none) (t : Turn) : Posts v t t.decideLaunch := by
  have hs : Posts v t t.exchanged := satisfyAll (t.setStatus .decide)
  simp only [Turn.decideLaunch]
  split
  · exact hs
  · split
    · exact hs
    · split
      · exact (hs.trans (of_eq (post_setSchedule _ _))).trans (launch hv _ _ _)
      · exact hs

/-! ### Timers -/

/-- The pending message, if there is one, is sent again and counted from the second time on. -/
lemma retransmit (t : Turn) {peer : NodeId} {kind : MessageKind}
    (hv : v.resends? = some (peer, kind)) : Posts v t (t.retransmit peer kind) := by
  cases hq : t.node.reliable.pending.get? (peer, kind) with
  | none =>
    refine of_eq ?_
    simp only [Turn.retransmit, ReliableSender.transmit, hq]
    rfl
  | some q =>
    refine single fun inbox => ?_
    have hpost : (t.retransmit peer kind).post inbox =
        { (t.post inbox).put (.send peer (Packet.single q.message)) with
          pending := t.node.reliable.pending.insert (peer, kind)
            { q with attempts := q.attempts + 1, timer := t.outbox.handle }
          effects := (t.post inbox).effects ++ [.send peer (Packet.single q.message),
            .schedule t.outbox.handle t.node.reliable.retryInterval (.retransmit peer kind)]
          retransmissions :=
            t.node.counters.retransmissions + if 0 < q.attempts then 1 else 0 } := by
      simp only [Turn.retransmit, ReliableSender.transmit, hq]
      split
      · rename_i hattempts
        rw [if_pos (Nat.lt_of_succ_lt_succ hattempts)]
        simp [post, Outbox.schedule, Outbox.send, Outbox.add, Outbox.handle, List.filter_append,
          Effect.isPosted, countPacket, count, edit, Node.id, Post.put]
      · rename_i hattempts
        rw [if_neg (fun h => hattempts (Nat.succ_lt_succ h))]
        simp [post, Outbox.schedule, Outbox.send, Outbox.add, Outbox.handle, List.filter_append,
          Effect.isPosted, countPacket, count, edit, Node.id, Post.put]
    rw [hpost]
    exact .resend _ _ _ hv hq

/-- An incident is sent to the head or to everyone, and counted. -/
lemma originate (hv : v.resends? = none) (t : Turn) : Posts v t t.originate := by
  cases hi : t.node.settings.incidentInterval with
  | none =>
    simp only [Turn.originate, hi]
    exact refl t
  | some interval =>
    simp only [Turn.originate, hi]
    refine trans ?_ (of_eq (post_schedule _ _ rfl))
    refine single fun inbox => ?_
    split
    · rw [post_send]
      exact .originate _ rfl rfl hv
    · rw [post_broadcast]
      exact .originate _ rfl rfl hv

lemma fire (t : Turn) {timer : Timer} (hv : v.call = .timer timer) : Posts v t (t.fire timer) := by
  by_cases hr : ∃ peer kind, timer = .retransmit peer kind
  · obtain ⟨peer, kind, rfl⟩ := hr
    refine retransmit t ?_
    rw [Visit.resends?, hv]
  · have hnone : v.resends? = none := by
      rw [Visit.resends?, hv]
      cases timer with
      | retransmit peer kind => exact absurd ⟨peer, kind, rfl⟩ hr
      | _ => rfl
    cases timer with
    | start => exact of_eq (post_beginClustering t)
    | stop => exact endClustering hnone t
    | send => exact transmit hnone (t.setSlot .send none)
    | electionCheck => exact of_eq (post_checkElection (t.setSlot .election none))
    | upkeep => exact of_eq (post_upkeep (t.setSlot .upkeep none))
    | decide => exact decideLaunch hnone t
    | retransmit peer kind => exact absurd ⟨peer, kind, rfl⟩ hr
    | intraBroadcast => exact announce hnone (t.setSlot .intra none)
    | activate => exact activate (t.setSlot .activation none)
    | complete => exact of_eq rfl
    | dutyActive => exact of_eq (post_arm (t.setStatus .active) _ rfl)
    | dutyInactive => exact of_eq (post_arm (t.setStatus .complete) _ rfl)
    | incident => exact originate hnone t

/-! ### Messages -/

lemma considerOffer (hv : v.resends? = none) (t : Turn) (source destination direction : Vec2)
    (startTime : Timestamp) :
    Posts v t (t.considerOffer source destination direction startTime) := by
  simp only [Turn.considerOffer]
  split
  · exact refl t
  · split
    · exact refl t
    · split
      · exact (of_eq (post_setSchedule _ _)).trans (launch hv _ _ _)
      · exact refl t

lemma onDensityMap (hv : v.resends? = none) (t : Turn) (seq : UInt64) (cluster : NodeId)
    (r : Record) (map : DensityMap) : Posts v t (t.onDensityMap seq cluster r map) := by
  simp only [Turn.onDensityMap]
  split
  · exact refl t
  · exact (of_eq (by rfl)).trans (send hv _ r.id (m := .ack _ _ _) rfl)

lemma onInterCluster (hv : v.resends? = none) (t : Turn) (seq : UInt64) (cluster : NodeId)
    (source destination direction : Vec2) (startTime : Timestamp) :
    Posts v t (t.onInterCluster seq cluster source destination direction startTime) := by
  have hack := send hv t cluster (m := .ack seq t.node.ackName .interCluster) rfl
  simp only [Turn.onInterCluster]
  split
  · exact hack.trans (considerOffer hv _ _ _ _ _)
  · exact hack

lemma onAck (t : Turn) (peer : NodeId) (kind : MessageKind) : Posts v t (t.onAck peer kind) := by
  cases hq : t.node.reliable.pending.get? (peer, kind) with
  | none =>
    refine of_eq ?_
    simp only [Turn.onAck, ReliableSender.acknowledge, hq]
    rfl
  | some q =>
    refine single fun inbox => ?_
    have hpost : (t.onAck peer kind).post inbox =
        { t.post inbox with pending := t.node.reliable.pending.erase (peer, kind) } := by
      simp only [Turn.onAck, ReliableSender.acknowledge, hq, post, Outbox.cancel, Outbox.add,
        filter_isPosted_add (e := .cancel q.timer) rfl]
      rfl
    rw [hpost]
    exact .drop _ _

lemma onOwnIncident (t : Turn) (timestamp : Timestamp) :
    Posts v t (t.onOwnIncident timestamp) := by
  simp only [Turn.onOwnIncident]
  split
  · rename_i hlast
    exact single fun inbox => .heardBack _ hlast
  · exact refl t

/-- A message that is read when the rest is done. -/
lemma read (h : Posts v t t') (m : Message) (rest : List Message) :
    Postings v (t.post (m :: rest)) (t'.post rest) :=
  (h (m :: rest)).tail (.read (t'.post (m :: rest)) rfl)

/-- A node reads a message, and passes it on if it is an incident of one of its members. -/
lemma onMessage {sender : NodeId} {packet : Packet} (hv : v.call = .packet sender packet)
    (t : Turn) (m : Message) (rest : List Message) :
    Postings v (t.post (m :: rest)) ((t.onMessage sender m).post rest) := by
  have hnone : v.resends? = none := by rw [Visit.resends?, hv]
  cases m with
  | clusterInfo _ r => exact read (of_eq (post_onClusterInfo _ _)) _ _
  | initiateCluster _ cluster r => exact read (of_eq (post_onInitiateCluster _ _ _)) _ _
  | formCluster _ r => exact read (of_eq (post_onFormCluster _ _)) _ _
  | neighborCluster _ cluster r => exact read (of_eq (post_onNeighborCluster _ _ _)) _ _
  | densityMap seq cluster r map => exact read (onDensityMap hnone _ _ _ _ _) _ _
  | interCluster seq cluster source destination direction startTime =>
    exact read (onInterCluster hnone _ _ _ _ _ _ _) _ _
  | intraCluster _ cluster starter startTime direction =>
    exact read (of_eq (post_onIntraCluster _ _ _ _ _)) _ _
  | interNode _ _ position direction startTime =>
    exact read (of_eq (post_onInterNode _ _ _ _)) _ _
  | ack _ cluster kind => exact read (onAck _ _ _) _ _
  | incident origin timestamp cluster severity =>
    simp only [Turn.onMessage, onIncident]
    split
    · exact read (onOwnIncident _ _) _ _
    · rename_i hne
      split
      · rename_i hrelay
        obtain ⟨-, rfl, rfl⟩ := hrelay
        refine .single ?_
        rw [post_broadcast]
        exact .relay (t.post _) hv hne rfl
      · exact read (refl t) _ _

lemma onMessages {sender : NodeId} {packet : Packet} (hv : v.call = .packet sender packet)
    (ms : List Message) (t : Turn) :
    Postings v (t.post ms) ((ms.foldl (Turn.onMessage sender) t).post []) := by
  induction ms generalizing t with
  | nil => exact .refl
  | cons m ms ih => exact (onMessage hv t m ms).trans (ih _)

end Posts

end Turn

/-- Whatever a node sends, takes up, gives up or counts in a visit, it does in one of these ways,
and it reads every message that it is brought. -/
theorem postings_visit (n : Node) (v : Visit) :
    Postings v ((Turn.start n v.now v.position v.nextHandle).post v.messages)
      ((n.visit v).post []) := by
  cases hc : v.call with
  | start =>
    rw [Node.visit_of_start n hc, Visit.messages, hc]
    exact Turn.Posts.of_eq (Turn.post_onStart _) []
  | formCluster =>
    have hv : n.visit v = (Turn.start n v.now v.position v.nextHandle).formCluster := by
      rw [Node.visit, hc]
      rfl
    rw [hv, Visit.messages, hc]
    exact Turn.Posts.of_eq (Turn.post_formCluster _) []
  | timer timer =>
    rw [Node.visit_timer n hc, Turn.post_noteRole, Visit.messages, hc]
    exact Turn.Posts.fire (Turn.locate _) hc []
  | packet sender packet =>
    rw [Node.visit_of_packet n hc, Turn.post_noteRole, Visit.messages, hc]
    exact Turn.Posts.onMessages hc packet.messages (Turn.receive _)

end ClusterWave
