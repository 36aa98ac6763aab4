import ClusterWave.Proofs.Node.Books
import ClusterWave.Proofs.Node.Post
import Mathlib.Algebra.BigOperators.Group.List.Basic
import Mathlib.Algebra.Group.Prod
import Mathlib.Algebra.Order.Ring.Nat

/-!
# Counters and what was sent

What a node has counted can be told from what it has asked its surroundings for. Packets, messages
about clusters, activations and own incidents are counted as they are sent. Of a message that is
sent reliably every transmission but the first one since it was taken up is a retransmission, which
shows in the order in which timers are armed and packets are sent for its peer and its kind.
-/

namespace ClusterWave

variable {v : Visit}

/-! ### Reliable messages -/

/-- What is done about the reliable message of a kind to a peer. -/
inductive Dispatch where
  /-- A message is taken up, in place of another one if there is one. -/
  | taken (key : NodeId × MessageKind)
  /-- The message that was taken up last is sent. -/
  | sent (key : NodeId × MessageKind)
deriving DecidableEq

namespace Dispatch

def key : Dispatch → NodeId × MessageKind
  | .taken key | .sent key => key

/-- Whether a message is sent that was sent before since it was taken up, given what was done about
messages before that, last first. -/
def isRepeated (past : List Dispatch) : Dispatch → Bool
  | .taken _ => false
  | .sent key => past.find? (·.key == key) == some (.sent key)

/-- How many messages were sent again, given what was done about messages, last first. -/
def repetitions : List Dispatch → Nat
  | [] => 0
  | d :: past => repetitions past + if d.isRepeated past then 1 else 0

end Dispatch

/-- What an effect of a visit does about a reliable message: when its timer goes off it is sent and
the timer is armed anew, and in all other visits a timer is armed for a message that is taken up. -/
def Visit.dispatch? (v : Visit) (e : Effect) : Option Dispatch :=
  match v.resends?, e with
  | some key, .send _ _ => some (.sent key)
  | none, .schedule _ _ (.retransmit peer kind) => some (.taken (peer, kind))
  | _, _ => none

namespace Node

/-- What a node asks for in some visits, in order. -/
def requests (n : Node) : List Visit → List Effect
  | [] => []
  | v :: vs => (n.visit v).outbox.effects ++ (n.visit v).node.requests vs

/-- What a node does about reliable messages in some visits, in order. -/
def dispatches (n : Node) : List Visit → List Dispatch
  | [] => []
  | v :: vs => (n.visit v).outbox.effects.filterMap v.dispatch? ++ (n.visit v).node.dispatches vs

end Node

/-! ### The ledger -/

namespace Effect

/-- What an effect adds to the counters of the node `id`: packets, messages that start or form a
cluster, activations and own incidents. -/
def toll (id : NodeId) (e : Effect) : Nat × Nat × Nat × Nat :=
  (if e.isPacket then 1 else 0, e.messages.countP Message.isFormation,
    e.messages.countP Message.isWave, e.messages.countP (·.origin? == some id))

lemma toll_of_isUncounted (id : NodeId) {e : Effect} (he : e.isPacket)
    (hm : ∀ m ∈ e.messages, m.isUncounted) : e.toll id = (1, 0, 0, 0) := by
  have hzero (test : Message → Bool) (h : ∀ m : Message, m.isUncounted → test m = false) :
      e.messages.countP test = 0 := by
    rw [List.countP_eq_zero]
    intro m hmem
    rw [h m (hm m hmem)]
    exact Bool.false_ne_true
  have hf (m : Message) (h : m.isUncounted) : m.isFormation = false ∧ m.isWave = false ∧
      m.origin? = none := by
    cases m <;> first | exact ⟨rfl, rfl, rfl⟩ | cases h
  rw [toll, if_pos he, hzero _ fun m h => (hf m h).1, hzero _ fun m h => (hf m h).2.1,
    hzero _ fun m h => by rw [(hf m h).2.2]; rfl]

lemma toll_of_isFormation (id : NodeId) {m : Message} (h : m.isFormation) :
    (broadcast (Packet.single m)).toll id = (1, 1, 0, 0) := by
  cases m with
  | initiateCluster => rfl
  | formCluster => rfl
  | _ => simp [Message.isFormation] at h

lemma toll_of_isWave (id : NodeId) {m : Message} (h : m.isWave) :
    (broadcast (Packet.single m)).toll id = (1, 0, 1, 0) := by
  cases m with
  | interNode => rfl
  | _ => simp [Message.isWave] at h

lemma toll_of_incident (id : NodeId) {e : Effect} (he : e.isPacket) {origin : NodeId}
    {timestamp : Timestamp} {cluster : Option NodeId} {severity : Incident}
    (hm : e.messages = [.incident origin timestamp cluster severity]) :
    e.toll id = (1, 0, 0, if origin = id then 1 else 0) := by
  rw [toll, if_pos he, hm]
  simp [Message.isFormation, Message.isWave, Message.origin?]

lemma sum_toll (id : NodeId) (es : List Effect) : (es.map (toll id)).sum =
    (es.countP isPacket, (es.flatMap messages).countP Message.isFormation,
      (es.flatMap messages).countP Message.isWave,
      (es.flatMap messages).countP (·.origin? == some id)) := by
  induction es with
  | nil => rfl
  | cons e es ih =>
    rw [List.map_cons, List.sum_cons, ih, List.flatMap_cons, List.countP_append,
      List.countP_append, List.countP_append, List.countP_cons]
    simp only [toll, Prod.mk_add_mk, Nat.add_comm]

end Effect

namespace Post

/-- What is counted about messages as they are sent. -/
def sums (p : Post) : Nat × Nat × Nat × Nat :=
  (p.packetsSent, p.formationMessages, p.activations, p.originated)

/-- The counters agree with what was asked for and with what was done about reliable messages, last
first. The last thing that was done about a pending message was to send it, if it was sent at all,
or else to take it up. -/
structure Ledger (es : List Effect) (past : List Dispatch) (p : Post) : Prop where
  sums : p.sums = (es.map (Effect.toll p.id)).sum
  retransmissions : p.retransmissions = Dispatch.repetitions past
  uncounted : ∀ key q, p.pending.get? key = some q → q.message.isUncounted
  last : ∀ key q, p.pending.get? key = some q →
    past.find? (·.key == key) = some (if q.attempts = 0 then .taken key else .sent key)

variable {es : List Effect} {past : List Dispatch} {p p' : Post}

/-- What has been posted between two posts joins the ledger. -/
def Enters (v : Visit) (es : List Effect) (past : List Dispatch) (p p' : Post) : Prop :=
  ∃ new, p'.effects = p.effects ++ new ∧
    p'.Ledger (es ++ new) ((new.filterMap v.dispatch?).reverse ++ past)

lemma Ledger.sums_append (h : p.Ledger es past) {new : List Effect} (hid : p'.id = p.id)
    (hsums : p'.sums = p.sums + (new.map (Effect.toll p.id)).sum) :
    p'.sums = ((es ++ new).map (Effect.toll p'.id)).sum := by
  rw [hsums, h.sums, hid, List.map_append, List.sum_append]

/-- Nothing is sent. -/
lemma Ledger.keep (h : p.Ledger es past) (heffects : p'.effects = p.effects)
    (hsums : p'.sums = p.sums) (hid : p'.id = p.id)
    (hre : p'.retransmissions = p.retransmissions)
    (hpending : ∀ key q, p'.pending.get? key = some q → p.pending.get? key = some q) :
    Enters v es past p p' := by
  refine ⟨[], by rw [heffects, List.append_nil], h.sums_append hid hsums,
    hre.trans h.retransmissions, fun key q hq => h.uncounted key q (hpending key q hq),
    fun key q hq => h.last key q (hpending key q hq)⟩

/-- A packet is sent that has nothing to do with pending messages. -/
lemma Ledger.put (h : p.Ledger es past) {e : Effect} (hv : v.dispatch? e = none)
    (heffects : p'.effects = p.effects ++ [e]) (hsums : p'.sums = p.sums + e.toll p.id)
    (hid : p'.id = p.id) (hre : p'.retransmissions = p.retransmissions)
    (hpending : p'.pending = p.pending) : Enters v es past p p' := by
  refine ⟨[e], heffects, ?_⟩
  rw [List.filterMap_cons_none hv]
  refine ⟨h.sums_append hid ?_, hre.trans h.retransmissions, hpending ▸ h.uncounted,
    hpending ▸ h.last⟩
  rw [hsums, List.map_singleton, List.sum_singleton]

/-- The last thing that was done about a message is the one that is done now. -/
lemma Ledger.last_insert (h : p.Ledger es past) (d : Dispatch) (q : Pending)
    (hd : d = if q.attempts = 0 then .taken d.key else .sent d.key) (key : NodeId × MessageKind)
    (q' : Pending) (hq : (p.pending.insert d.key q).get? key = some q') :
    (d :: past).find? (·.key == key) =
      some (if q'.attempts = 0 then .taken key else .sent key) := by
  rcases Table.of_get?_insert hq with ⟨rfl, rfl⟩ | ⟨hne, hq⟩
  · simp only [List.find?_cons, beq_self_eq_true, ← hd]
  · rw [List.find?_cons_of_neg (by simpa using hne.symm)]
    exact h.last key q' hq

lemma Ledger.uncounted_insert (h : p.Ledger es past) {key : NodeId × MessageKind} {q : Pending}
    (hm : q.message.isUncounted) (key' : NodeId × MessageKind) (q' : Pending)
    (hq : (p.pending.insert key q).get? key' = some q') : q'.message.isUncounted := by
  rcases Table.of_get?_insert hq with ⟨-, rfl⟩ | ⟨-, hq⟩
  · exact hm
  · exact h.uncounted key' q' hq

end Post

lemma Visit.dispatch?_broadcast (v : Visit) (packet : Packet) :
    v.dispatch? (.broadcast packet) = none := by
  simp only [dispatch?]
  split <;> simp_all

lemma Visit.dispatch?_of_isPacket (hv : v.resends? = none) {e : Effect} (he : e.isPacket) :
    v.dispatch? e = none := by
  cases e with
  | broadcast packet => exact v.dispatch?_broadcast packet
  | send peer packet => simp only [dispatch?, hv]
  | _ => cases he

/-- Every step enters the ledger. -/
lemma Posting.enters {es : List Effect} {past : List Dispatch} {p p' : Post} (s : Posting v p p')
    (h : p.Ledger es past) : p.Enters v es past p' := by
  cases s with
  | send he hm hv =>
    refine h.put (Visit.dispatch?_of_isPacket hv he) rfl ?_ rfl rfl rfl
    rw [Effect.toll_of_isUncounted p.id he hm]
    rfl
  | @form m hm =>
    refine h.put (v.dispatch?_broadcast _) rfl ?_ rfl rfl rfl
    rw [Effect.toll_of_isFormation p.id hm]
    rfl
  | @activate m hm =>
    refine h.put (v.dispatch?_broadcast _) rfl ?_ rfl rfl rfl
    rw [Effect.toll_of_isWave p.id hm]
    rfl
  | @originate e timestamp cluster severity he hm hv =>
    refine h.put (Visit.dispatch?_of_isPacket hv he) rfl ?_ rfl rfl rfl
    rw [Effect.toll_of_incident p.id he hm, if_pos rfl]
    rfl
  | @relay origin timestamp severity packet rest hv hne hi =>
    refine h.put (v.dispatch?_broadcast _) rfl ?_ rfl rfl rfl
    rw [Effect.toll_of_incident p.id rfl rfl, if_neg hne]
    rfl
  | heardBack => exact h.keep rfl rfl rfl rfl fun _ _ hq => hq
  | read => exact h.keep rfl rfl rfl rfl fun _ _ hq => hq
  | @take m peer handle delay hm hv =>
    refine ⟨_, rfl, ?_⟩
    have hd : [Effect.schedule handle delay (.retransmit peer m.kind)].filterMap v.dispatch? =
        [.taken (peer, m.kind)] := by
      simp [Visit.dispatch?, hv]
    rw [hd]
    exact ⟨h.sums_append rfl rfl, h.retransmissions, h.uncounted_insert hm,
      h.last_insert (.taken (peer, m.kind)) ⟨m, 0, handle⟩ rfl⟩
  | drop keep =>
    refine h.keep rfl rfl rfl rfl fun key q hq => ?_
    rw [Table.get?_filter, Option.filter_eq_some_iff] at hq
    exact hq.1
  | @resend peer kind q handle delay hv hq =>
    have hm := h.uncounted _ q hq
    refine ⟨_, rfl, ?_⟩
    have hd : [Effect.send peer (Packet.single q.message),
        .schedule handle delay (.retransmit peer kind)].filterMap v.dispatch? =
        [.sent (peer, kind)] := by
      simp [Visit.dispatch?, hv]
    rw [hd]
    refine ⟨h.sums_append rfl ?_, ?_, h.uncounted_insert hm,
      h.last_insert (.sent (peer, kind)) ⟨q.message, q.attempts + 1, handle⟩ rfl⟩
    · have htoll : (Effect.send peer (Packet.single q.message)).toll p.id = (1, 0, 0, 0) :=
        Effect.toll_of_isUncounted p.id rfl fun m hmem => by rwa [List.mem_singleton.1 hmem]
      rw [List.map_cons, List.sum_cons, htoll]
      rfl
    · -- the message was sent before just if it was sent since it was taken up
      have hrepeated : (Dispatch.sent (peer, kind)).isRepeated past = decide (0 < q.attempts) := by
        rw [Dispatch.isRepeated, h.last _ q hq]
        by_cases hzero : q.attempts = 0
        · simp [hzero]
        · simp [hzero, Nat.pos_of_ne_zero hzero]
      have hre : Dispatch.repetitions (.sent (peer, kind) :: past) =
          Dispatch.repetitions past + if 0 < q.attempts then 1 else 0 := by
        rw [Dispatch.repetitions, hrepeated]
        simp
      exact (congrArg (· + if 0 < q.attempts then 1 else 0) h.retransmissions).trans hre.symm

lemma Postings.enters {es : List Effect} {past : List Dispatch} {p p' : Post}
    (s : Postings v p p') (h : p.Ledger es past) : p.Enters v es past p' := by
  induction s with
  | refl => exact h.keep rfl rfl rfl rfl fun _ _ hq => hq
  | tail _ s ih =>
    obtain ⟨new, heffects, hledger⟩ := ih
    obtain ⟨new', heffects', hledger'⟩ := s.enters hledger
    refine ⟨new ++ new', ?_, ?_⟩
    · rw [heffects', heffects, List.append_assoc]
    · rwa [List.filterMap_append, List.reverse_append, List.append_assoc, ← List.append_assoc es]

/-! ### Runs -/

lemma Effect.flatMap_messages_filter (es : List Effect) :
    (es.filter isPosted).flatMap messages = es.flatMap messages := by
  induction es with
  | nil => rfl
  | cons e es ih =>
    cases he : e.isPosted with
    | true => rw [List.filter_cons_of_pos he, List.flatMap_cons, List.flatMap_cons, ih]
    | false =>
      have hnone : e.messages = [] := by
        cases e with
        | broadcast => cases he
        | send => cases he
        | _ => rfl
      rw [List.filter_cons_of_neg (Bool.eq_false_iff.1 he), ih, List.flatMap_cons, hnone,
        List.nil_append]

/-- Effects that are not posted do not show in the ledger. -/
lemma Effect.sum_toll_filter (id : NodeId) (es : List Effect) :
    ((es.filter isPosted).map (toll id)).sum = (es.map (toll id)).sum := by
  have hpacket (e : Effect) : (e.isPacket && e.isPosted) = e.isPacket := by
    cases e <;> rfl
  simp only [sum_toll, flatMap_messages_filter, List.countP_filter, hpacket]

lemma Visit.filterMap_dispatch?_filter (v : Visit) (es : List Effect) :
    (es.filter Effect.isPosted).filterMap v.dispatch? = es.filterMap v.dispatch? := by
  induction es with
  | nil => rfl
  | cons e es ih =>
    cases he : e.isPosted with
    | true => rw [List.filter_cons_of_pos he, List.filterMap_cons, List.filterMap_cons, ih]
    | false =>
      have hnone : v.dispatch? e = none := by
        simp only [dispatch?]
        split
        · cases he
        · cases he
        · rfl
      rw [List.filter_cons_of_neg (Bool.eq_false_iff.1 he), List.filterMap_cons_none hnone, ih]

namespace Node

variable {n : Node} {es : List Effect} {past : List Dispatch}

/-- The counters of a node between two visits agree with what it has done. -/
def Ledger (es : List Effect) (past : List Dispatch) (n : Node) : Prop :=
  ((Turn.start n Timestamp.start Vec3.zero 0).post []).Ledger es past

lemma IsNew.ledger (h : n.IsNew) : n.Ledger [] [] := by
  obtain ⟨-, hp, hc, -⟩ := h.blank
  have hnone (key : NodeId × MessageKind) (q : Pending) :
      n.reliable.pending.get? key ≠ some q := by
    rw [hp, Table.get?_empty]
    exact (Option.some_ne_none q).symm
  refine ⟨?_, ?_, fun key q hq => absurd hq (hnone key q), fun key q hq => absurd hq (hnone key q)⟩
  · simp only [Post.sums, Turn.post, Turn.start, hc]
    rfl
  · simp only [Turn.post, Turn.start, hc]
    rfl

lemma Ledger.start (h : n.Ledger es past) (v : Visit) :
    ((Turn.start n v.now v.position v.nextHandle).post v.messages).Ledger es past :=
  ⟨h.sums, h.retransmissions, h.uncounted, h.last⟩

lemma Ledger.visit (h : n.Ledger es past) (v : Visit) :
    (n.visit v).node.Ledger (es ++ (n.visit v).outbox.effects)
      (((n.visit v).outbox.effects.filterMap v.dispatch?).reverse ++ past) := by
  obtain ⟨new, heffects, hledger⟩ := (postings_visit n v).enters (h.start v)
  obtain rfl : (n.visit v).outbox.effects.filter Effect.isPosted = new := heffects
  rw [v.filterMap_dispatch?_filter] at hledger
  refine ⟨?_, hledger.retransmissions, hledger.uncounted, hledger.last⟩
  have hsums := hledger.sums
  rw [List.map_append, List.sum_append, Effect.sum_toll_filter] at hsums
  rw [List.map_append, List.sum_append]
  exact hsums

lemma Ledger.after (h : n.Ledger es past) (vs : List Visit) :
    (n.after vs).Ledger (es ++ n.requests vs) ((n.dispatches vs).reverse ++ past) := by
  induction vs generalizing n es past with
  | nil => simpa [requests, dispatches] using h
  | cons v vs ih =>
    have hvs := ih (h.visit v)
    rwa [List.append_assoc, ← List.append_assoc (List.reverse _), ← List.reverse_append] at hvs

/-- A node has counted the incidents that it told of as its own. -/
lemma Ledger.originated (h : n.Ledger es past) : n.counters.incidentsOriginated =
    (es.flatMap Effect.messages).countP (·.origin? == some n.id) := by
  have hsums := h.sums
  rw [Effect.sum_toll] at hsums
  exact congrArg (·.2.2.2) hsums

lemma id_after (n : Node) (vs : List Visit) : (n.after vs).id = n.id := by
  induction vs generalizing n with
  | nil => rfl
  | cons v vs ih => exact (ih _).trans (moves_visit n v).alike.id

lemma packetsReceived_after (n : Node) (vs : List Visit) :
    (n.after vs).counters.packetsReceived =
      n.counters.packetsReceived + vs.countP (·.call.isPacket) := by
  induction vs generalizing n with
  | nil => rfl
  | cons v vs ih =>
    have hv : (n.visit v).node.counters.packetsReceived =
        n.counters.packetsReceived + if v.call.isPacket then 1 else 0 :=
      congrArg Prod.fst (n.books_visit v)
    rw [after_cons, ih, hv, List.countP_cons, Nat.add_assoc, Nat.add_comm (vs.countP _)]

/-- The counters of a node that starts afresh agree with what it has asked for in any visits. It has
counted every packet that it has sent and every packet that it was handed, every message that starts
or forms a cluster, every activation and every incident of its own that it has sent, and every time
that a reliable message was sent again since it was taken up. -/
theorem counters_agree_with_requests (hn : n.IsNew) (vs : List Visit) :
    (n.after vs).counters.packetsSent = (n.requests vs).countP Effect.isPacket ∧
      (n.after vs).counters.packetsReceived = vs.countP (·.call.isPacket) ∧
      (n.after vs).counters.formationMessages =
        ((n.requests vs).flatMap Effect.messages).countP Message.isFormation ∧
      (n.after vs).counters.activations =
        ((n.requests vs).flatMap Effect.messages).countP Message.isWave ∧
      (n.after vs).counters.incidentsOriginated =
        ((n.requests vs).flatMap Effect.messages).countP (·.origin? == some n.id) ∧
      (n.after vs).counters.retransmissions =
        Dispatch.repetitions (n.dispatches vs).reverse := by
  have hledger := hn.ledger.after vs
  rw [List.nil_append, List.append_nil] at hledger
  have hsums := hledger.sums
  rw [Effect.sum_toll] at hsums
  simp only [Post.sums, Prod.mk.injEq] at hsums
  obtain ⟨hpackets, hformation, hactivations, horiginated⟩ := hsums
  have hid : (n.after vs).id = n.id := n.id_after vs
  have hreceived := n.packetsReceived_after vs
  obtain ⟨-, -, hc, -⟩ := hn.blank
  rw [hc] at hreceived
  refine ⟨hpackets, hreceived.trans (Nat.zero_add _), hformation, hactivations, ?_,
    hledger.retransmissions⟩
  rw [← hid]
  exact horiginated

/-- The settings of a node that ends clustering after two seconds and tells of an incident every
second. -/
def busySettings : Settings :=
  { Settings.standard with
    gridSize := 2
    clusteringStop := some (.ofSecs 2)
    incidentInterval := some (.ofSecs 1) }

/-- The visits of a node that forms a cluster, hears of another one, tells of an incident, sends its
map twice and activates. -/
def busyVisits : List Visit :=
  [⟨.start, Vec3.zero, 1, .start⟩, ⟨.start, Vec3.zero, 4, .formCluster⟩,
    ⟨.start, Vec3.zero, 5, .timer .send⟩,
    ⟨.ofSecs 1, Vec3.zero, 6, .packet ⟨10⟩
      (Packet.single (.clusterInfo 1 (Record.lone ⟨10⟩ Vec3.zero .start).becomeHead))⟩,
    ⟨.ofSecs 1, Vec3.zero, 6, .timer .incident⟩, ⟨.ofSecs 2, Vec3.zero, 7, .timer .stop⟩,
    ⟨.ofSecs 2, Vec3.zero, 9, .timer (.retransmit ⟨10⟩ .densityMap)⟩,
    ⟨.ofSecs 3, Vec3.zero, 10, .timer (.retransmit ⟨10⟩ .densityMap)⟩,
    ⟨.ofSecs 4, Vec3.zero, 11, .timer .activate⟩]

/-- A head counts something of everything. -/
theorem busy_counters_agree : ∃ n : Node, n.IsNew ∧
    (n.after busyVisits).counters.packetsSent = (n.requests busyVisits).countP Effect.isPacket ∧
    (n.after busyVisits).counters.packetsReceived = busyVisits.countP (·.call.isPacket) ∧
    (n.after busyVisits).counters.formationMessages =
      ((n.requests busyVisits).flatMap Effect.messages).countP Message.isFormation ∧
    (n.after busyVisits).counters.activations =
      ((n.requests busyVisits).flatMap Effect.messages).countP Message.isWave ∧
    (n.after busyVisits).counters.incidentsOriginated =
      ((n.requests busyVisits).flatMap Effect.messages).countP (·.origin? == some n.id) ∧
    (n.after busyVisits).counters.retransmissions =
      Dispatch.repetitions (n.dispatches busyVisits).reverse ∧
    (n.after busyVisits).counters.packetsSent = 5 ∧
    (n.after busyVisits).counters.retransmissions = 1 := by
  have hrun : ((Node.create ⟨20⟩ busySettings false none).toOption.any fun n =>
      decide ((n.after busyVisits).counters.packetsSent = 5 ∧
        (n.after busyVisits).counters.retransmissions = 1)) = true := by decide +kernel
  simp only [Option.any_eq_true, decide_eq_true_eq] at hrun
  obtain ⟨n, hn, hsent, hagain⟩ := hrun
  have hnew : n.IsNew := .of_toOption hn
  obtain ⟨hpackets, hreceived, hformation, hwaves, hincidents, hrepeated⟩ :=
    counters_agree_with_requests hnew busyVisits
  exact ⟨n, hnew, hpackets, hreceived, hformation, hwaves, hincidents, hrepeated, hsent, hagain⟩

end Node

end ClusterWave
