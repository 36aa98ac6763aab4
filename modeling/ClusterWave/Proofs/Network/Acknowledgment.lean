import ClusterWave.Proofs.Network.Basic
import ClusterWave.Proofs.Node.Pending

/-!
# What an acknowledgment tells

An acknowledgment names a peer and a kind of message, and its number is not looked at. So it may
come late, for a message in the place of which another one is pending by now. But it always answers
some message that was pending for this peer and was handled by it, and if that is the one that is
pending now, then the peer has indeed handled what it acknowledges.
-/

namespace ClusterWave

/-- Pending messages are kept under their kind, and their acknowledgments go to the node itself. -/
structure Node.Signs (n : Node) : Prop where
  kind : ∀ key p, n.reliable.pending.get? key = some p → key.2 = p.message.kind
  replyTo? : ∀ key p, n.reliable.pending.get? key = some p → p.message.replyTo? = some n.id

section

variable {n : Node} {v : Visit} {t t' : Turn}

lemma Awaited.signs {key : NodeId × MessageKind} {m : Message} (h : Awaited v t key m)
    (ht : t.node.Signs) : key.2 = m.kind ∧ m.replyTo? = some t.node.id := by
  cases h with
  | kept h => exact ⟨ht.kind _ _ h, ht.replyTo? _ _ h⟩
  | offer => exact ⟨rfl, rfl⟩
  | map => exact ⟨rfl, rfl⟩

/-- At a new node nothing is pending. -/
lemma Node.Signs.of_isNew (h : n.IsNew) : n.Signs := by
  obtain ⟨-, hp, -⟩ := h.blank
  refine ⟨fun key p hk => ?_, fun key p hk => ?_⟩ <;>
  · rw [hp] at hk
    cases hk

lemma Move.signs (m : Move n v t t') (h : t.node.Signs) : t'.node.Signs :=
  ⟨fun _ _ hp => ((m.awaited hp).signs h).1,
    fun _ _ hp => m.alike.id ▸ ((m.awaited hp).signs h).2⟩

lemma Node.Signs.visit (h : n.Signs) (v : Visit) : (n.visit v).node.Signs :=
  (moves_visit n v).induct (P := fun t => t.node.Signs) h fun _ _ h m => m.signs h

lemma Node.id_visit (n : Node) (v : Visit) : (n.visit v).node.id = n.id :=
  (moves_visit n v).induct (P := fun t => t.node.id = n.id) rfl fun _ _ h m => m.alike.id.trans h

/-- An acknowledgment takes one entry away, or none if there is no such entry. -/
lemma ReliableSender.pending_acknowledge (s : ReliableSender) (o : Outbox) (peer : NodeId)
    (kind : MessageKind) :
    (s.acknowledge o peer kind).1.pending = s.pending.erase (peer, kind) := by
  simp only [ReliableSender.acknowledge]
  split
  · rename_i hnone
    apply Table.ext_get?
    intro key
    by_cases hk : key = (peer, kind)
    · rw [hk, hnone, Table.get?_erase_self]
    · rw [Table.get?_erase_of_ne _ hk]
  · rfl

/-- Whatever is pending for the name and the kind of an acknowledgment is taken as arrived, and
nothing else is. -/
lemma Node.erase_visit_ack (n : Node) {sender name : NodeId} {packet : Packet} {seq : UInt64}
    {kind : MessageKind} (hv : v.call = .packet sender packet)
    (hp : packet.messages = [.ack seq name kind]) :
    (n.visit v).node.reliable.pending = n.reliable.pending.erase (name, kind) := by
  rw [Node.visit, hv]
  show (Turn.onPacket _ sender packet).node.reliable.pending = _
  rw [Turn.onPacket, Turn.node_noteRole, hp]
  exact ReliableSender.pending_acknowledge _ _ name kind

lemma Node.pending_visit_ack (n : Node) {sender name : NodeId} {packet : Packet} {seq : UInt64}
    {kind : MessageKind} (hv : v.call = .packet sender packet)
    (hp : packet.messages = [.ack seq name kind]) :
    (n.visit v).node.reliable.pending.get? (name, kind) = none := by
  rw [n.erase_visit_ack hv hp]
  exact Table.get?_erase_self _ _

/-- Acknowledgments are never pending. -/
lemma Node.Signs.ne_ack (h : n.Signs) {key : NodeId × MessageKind} {p : Pending}
    (hp : n.reliable.pending.get? key = some p) (seq : UInt64) (name : NodeId)
    (kind : MessageKind) : p.message ≠ .ack seq name kind := by
  intro he
  have hr := h.replyTo? _ _ hp
  rw [he] at hr
  cases hr

end

namespace Network

/-- A node has handled a message. -/
def Handled (net : Network) (id : NodeId) (m : Message) : Prop :=
  ∃ d ∈ net.log, d.id = id ∧ d.visit.Brings m

instance (net : Network) (id : NodeId) (m : Message) : Decidable (net.Handled id m) :=
  inferInstanceAs (Decidable (∃ d ∈ net.log, d.id = id ∧ d.visit.Brings m))

/-- A message was pending at a node for a peer when the node was visited. -/
def Held (net : Network) (id peer : NodeId) (m : Message) : Prop :=
  ∃ d ∈ net.log, d.id = id ∧
    ∃ p, d.before.reliable.pending.get? (peer, m.kind) = some p ∧ p.message = m

/-- Messages that ask for an acknowledgment come from the node that holds them for the one that
they go to, and acknowledgments come from a node that has handled such a message. -/
structure Accountable (net : Network) : Prop where
  nodes : ∀ id b, net.benches.get? id = some b → b.node.id = id ∧ b.node.Signs
  requests : ∀ p ∈ net.flying, ∀ m ∈ p.packet.messages, ∀ id, m.replyTo? = some id →
    net.Held id p.receiver m
  acks : ∀ p ∈ net.flying, ∀ seq name kind, .ack seq name kind ∈ p.packet.messages →
    p.packet.messages = [.ack seq name kind] ∧ ∃ m, net.Handled p.sender m ∧
      m.replyTo? = some p.receiver ∧ m.seq? = some seq ∧ m.kind = kind
  handled : ∀ id m, net.Handled id m → ∀ peer, m.replyTo? = some peer → net.Held peer id m

variable {net net' : Network} {id peer : NodeId} {b b' : Bench} {v : Visit} {m : Message}

lemma Handled.mono (h : net.Handled id m) (hs : ∀ d ∈ net.log, d ∈ net'.log) :
    net'.Handled id m := by
  obtain ⟨d, hd, h⟩ := h
  exact ⟨d, hs d hd, h⟩

lemma Held.mono (h : net.Held id peer m) (hs : ∀ d ∈ net.log, d ∈ net'.log) :
    net'.Held id peer m := by
  obtain ⟨d, hd, h⟩ := h
  exact ⟨d, hs d hd, h⟩

lemma IsNew.accountable (h : net.IsNew) : net.Accountable := by
  obtain ⟨hn, hf, hl⟩ := h
  refine ⟨fun id b hb => ?_, ?_, ?_, ?_⟩
  · obtain ⟨hnew, hid, -⟩ := hn id b hb
    exact ⟨hid, .of_isNew hnew⟩
  · rw [hf]
    exact List.forall_mem_nil _
  · rw [hf]
    exact List.forall_mem_nil _
  · rintro id m ⟨d, hd, -⟩
    rw [hl] at hd
    cases hd

lemma Accountable.lose (h : net.Accountable) (hb : net'.benches = net.benches)
    (hl : net'.log = net.log) (hf : ∀ p ∈ net'.flying, p ∈ net.flying) : net'.Accountable := by
  have hs : ∀ d ∈ net.log, d ∈ net'.log := fun d hd => hl ▸ hd
  refine ⟨hb ▸ h.nodes, fun p hp m hm id hr => (h.requests p (hf p hp) m hm id hr).mono hs,
    fun p hp seq name kind hm => ?_, fun id m hh peer hr => ?_⟩
  · obtain ⟨hsingle, m, hh, hr⟩ := h.acks p (hf p hp) seq name kind hm
    exact ⟨hsingle, m, hh.mono hs, hr⟩
  · exact (h.handled id m (hh.mono fun d hd => hl ▸ hd) peer hr).mono hs

lemma Accountable.visit (h : net.Accountable) (hv : net.Visited id b b' v net') :
    net'.Accountable := by
  obtain ⟨hid, hsig⟩ := h.nodes id b hv.bench
  have hlog : ∀ d ∈ net.log, d ∈ net'.log := fun d hd => hv.log ▸ List.mem_cons_of_mem _ hd
  have hnow : ⟨id, b.node, v⟩ ∈ net'.log := hv.log ▸ List.mem_cons_self
  refine ⟨fun id' c hc => ?_, fun p hp m hm s hr => ?_, fun p hp seq name kind hm => ?_,
    fun id' m hh peer hr => ?_⟩
  · rcases hv.get? hc with ⟨hc, -⟩ | ⟨rfl, rfl⟩
    · exact h.nodes id' c hc
    · rw [hv.attended.node]
      exact ⟨(b.node.id_visit v).trans hid, hsig.visit v⟩
  · rcases hv.flying p hp with hp | hp
    · exact (h.requests p hp m hm s hr).mono hlog
    · -- what is sent was pending before the visit
      obtain ⟨-, e, he, hms, hto⟩ := mem_sent hp
      rw [← hms] at hm
      obtain ⟨t, -, hask⟩ := asked_of_mem he hm
      obtain ⟨peer, kind, q, rfl, hq, rfl⟩ :=
        hask.pending_of_replyTo? hm (hr ▸ rfl : m.replyTo?.isSome)
      have hs : s = id := Option.some.inj (hr.symm.trans ((hsig.replyTo? _ _ hq).trans
        (congrArg some hid)))
      have hk : kind = q.message.kind := hsig.kind _ _ hq
      refine ⟨_, hnow, hs.symm, q, ?_, rfl⟩
      rw [← hto peer _ rfl, ← hk]
      exact hq
  · rcases hv.flying p hp with hp | hp
    · obtain ⟨hsingle, m, hh, hr⟩ := h.acks p hp seq name kind hm
      exact ⟨hsingle, m, hh.mono hlog, hr⟩
    · -- what is acknowledged is handled in the visit
      obtain ⟨hps, e, he, hms, hto⟩ := mem_sent hp
      rw [← hms] at hm
      obtain ⟨t, -, hask⟩ := asked_of_mem he hm
      rcases hask.answers hm with ⟨peer, m, rfl, hbr, hr, hsk⟩ | ⟨key, q, hq, hqa⟩
      · rw [hto peer _ rfl] at hr
        exact ⟨hms.symm, m, ⟨_, hnow, hps.symm, hbr⟩, hr, hsk⟩
      · exact absurd hqa (hsig.ne_ack hq _ _ _)
  · obtain ⟨d, hd, rfl, hbr⟩ := hh
    rw [hv.log] at hd
    rcases List.mem_cons.1 hd with rfl | hd
    · obtain ⟨sender, packet, hc, hm⟩ := Visit.brings_iff.1 hbr
      exact (h.requests _ (hv.arrived sender packet hc) m hm peer hr).mono hlog
    · exact (h.handled _ m ⟨d, hd, rfl, hbr⟩ peer hr).mono hlog

lemma IsNew.accountable_run {net₀ : Network} {acts : List Act} (hn : net₀.IsNew)
    (h : net₀.run? acts = some net) : net.Accountable :=
  run?_induct (P := Accountable) h hn.accountable (fun _ _ h hb hl hf => h.lose hb hl hf)
    fun _ _ _ _ _ _ h hv => h.visit hv

/-- An acknowledgment from a peer takes away what is pending for this peer and kind, whatever its
number is. By then the peer has handled a message of the kind that was pending for it and has the
number; so if the pending message is the only one of this number, the peer has handled it. -/
theorem acknowledged_was_handled {net₀ : Network} {acts : List Act} {packet : Packet}
    {seq : UInt64} {kind : MessageKind} (hn : net₀.IsNew) (h : net₀.run? acts = some net)
    (hs : net.step? (.visit id v) = some net') (hv : v.call = .packet peer packet)
    (ha : .ack seq peer kind ∈ packet.messages) :
    (∀ b', net'.benches.get? id = some b' →
      b'.node.reliable.pending.get? (peer, kind) = none) ∧
      (∃ m, net.Held id peer m ∧ net.Handled peer m ∧ m.kind = kind ∧ m.seq? = some seq) ∧
      ∀ b p, net.benches.get? id = some b →
        b.node.reliable.pending.get? (peer, kind) = some p →
        (∀ m, net.Held id peer m → m.kind = kind → m.seq? = some seq → m = p.message) →
        net.Handled peer p.message := by
  have hacc := hn.accountable_run h
  obtain ⟨c, c', hvis⟩ := visited hs
  obtain ⟨hsingle, m, hh, hr, hsq, hk⟩ :=
    hacc.acks _ (hvis.arrived peer packet hv) seq peer kind ha
  have hheld := hacc.handled peer m hh id hr
  refine ⟨fun b' hb' => ?_, ⟨m, hheld, hh, hk, hsq⟩, fun b p hb hp hq => ?_⟩
  · rcases hvis.get? hb' with ⟨-, hne⟩ | ⟨-, rfl⟩
    · exact absurd rfl hne
    · rw [hvis.attended.node]
      exact Node.pending_visit_ack _ hv hsingle
  · exact hq m hheld hk hsq ▸ hh

/-! ### An exchange of maps -/

/-- Settings under which a head takes its time. -/
def slowSettings : Settings :=
  { Settings.standard with
    slot := .ofSecs 1
    gridSize := 2
    sendWindow := .zero
    interval := .ofSecs 10
    exchangeGrace := .ofSecs 60 }

/-- Settings under which a head exchanges maps before clustering begins. -/
def exchangeSettings : Settings :=
  { slowSettings with
    clusteringStart := .ofSecs 60
    clusteringStop := some (.ofSecs 15)
    interval := .ofSecs 60 }

/-- The acknowledgment of the first map that node 2 sends to node 1. -/
def mapAck : Packet := ⟨[.ack 2 ⟨1⟩ .densityMap]⟩

/-- Nodes 1 and 2 lead clusters of their own, node 2 hears of node 1 and sends its map, and node 1
handles it. -/
def exchange : List Act :=
  [ .visit ⟨2⟩ ⟨.start, Vec3.zero, 1, .start⟩,
    .visit ⟨2⟩ ⟨.start, Vec3.zero, 3, .formCluster⟩,
    .visit ⟨2⟩ ⟨.start, Vec3.zero, 4, .timer .send⟩,
    .visit ⟨1⟩ ⟨.start, Vec3.zero, 1, .start⟩,
    .visit ⟨1⟩ ⟨.start, Vec3.zero, 2, .timer .start⟩,
    .visit ⟨1⟩ ⟨.start, Vec3.zero, 4, .formCluster⟩,
    .visit ⟨1⟩ ⟨.start, Vec3.zero, 4, .timer .send⟩,
    .visit ⟨1⟩ ⟨.ofSecs 10, Vec3.zero, 5, .timer .send⟩,
    .visit ⟨2⟩ ⟨.ofSecs 10, Vec3.zero, 5, .packet ⟨1⟩
      ⟨[.clusterInfo 2 (Record.lone ⟨1⟩ Vec3.zero (.ofSecs 10)).becomeHead]⟩⟩,
    .visit ⟨2⟩ ⟨.ofSecs 15, Vec3.zero, 5, .timer .stop⟩,
    .visit ⟨2⟩ ⟨.ofSecs 18, Vec3.zero, 7, .timer (.retransmit ⟨1⟩ .densityMap)⟩,
    .visit ⟨1⟩ ⟨.ofSecs 18, Vec3.zero, 6, .packet ⟨2⟩
      ⟨[.densityMap 2 ⟨2⟩ (Record.lone ⟨2⟩ Vec3.zero (.ofSecs 15)).becomeHead
        (.lone slowSettings.grid)]⟩⟩ ]

/-- A head sends its map to another head, which acknowledges it. -/
theorem acknowledged_map_was_handled : ∃ (net₀ net net' : Network) (acts : List Act) (v : Visit),
    net₀.IsNew ∧ net₀.run? acts = some net ∧ net.step? (.visit ⟨2⟩ v) = some net' ∧
      v.call = .packet ⟨1⟩ mapAck ∧
      (net.benches.get? ⟨2⟩).any (fun b => b.node.reliable.isPending ⟨1⟩ .densityMap) ∧
      (∀ b', net'.benches.get? ⟨2⟩ = some b' →
        b'.node.reliable.pending.get? (⟨1⟩, .densityMap) = none) ∧
      (∃ m, net.Held ⟨2⟩ ⟨1⟩ m ∧ net.Handled ⟨1⟩ m ∧ m.kind = .densityMap ∧ m.seq? = some 2) ∧
      ∀ b p, net.benches.get? ⟨2⟩ = some b →
        b.node.reliable.pending.get? (⟨1⟩, .densityMap) = some p →
        (∀ m, net.Held ⟨2⟩ ⟨1⟩ m → m.kind = .densityMap → m.seq? = some 2 → m = p.message) →
        net.Handled ⟨1⟩ p.message := by
  let v : Visit := ⟨.ofSecs 18, Vec3.zero, 8, .packet ⟨1⟩ mapAck⟩
  have hrun : ((Node.create ⟨1⟩ slowSettings false none).toOption.any fun n =>
      (Node.create ⟨2⟩ exchangeSettings false none).toOption.any fun n' =>
        ((setUp [n, n']).run? exchange).any fun net =>
          (net.benches.get? ⟨2⟩).any (fun b => b.node.reliable.isPending ⟨1⟩ .densityMap) &&
            (net.step? (.visit ⟨2⟩ v)).isSome) = true := by decide +kernel
  simp only [Option.any_eq_true, Bool.and_eq_true, Option.isSome_iff_exists] at hrun
  obtain ⟨n, hn, n', hn', net, hnet, hpending, net', hstep⟩ := hrun
  have hnew := isNew_pair hn hn'
  exact ⟨_, net, net', exchange, v, hnew, hnet, hstep, rfl, (Option.any_eq_true _ _).2 hpending,
    acknowledged_was_handled hnew hnet hstep rfl List.mem_cons_self⟩

/-- The acknowledgment of a map comes late, when another map has taken its place. It takes the new
map away, and the other head has never handled that. -/
theorem late_acknowledgment_misleads : ∃ (net₀ net net' : Network) (acts : List Act) (v : Visit)
    (b b' : Bench) (p : Pending),
    net₀.IsNew ∧ net₀.run? acts = some net ∧ net.step? (.visit ⟨2⟩ v) = some net' ∧
      v.call = .packet ⟨1⟩ mapAck ∧ net.benches.get? ⟨2⟩ = some b ∧
      b.node.reliable.pending.get? (⟨1⟩, .densityMap) = some p ∧
      net'.benches.get? ⟨2⟩ = some b' ∧
      b'.node.reliable.pending.get? (⟨1⟩, .densityMap) = none ∧
      ¬ net.Handled ⟨1⟩ p.message := by
  let again : List Act :=
    [ .visit ⟨2⟩ ⟨.ofSecs 19, Vec3.zero, 8, .start⟩,
      .visit ⟨2⟩ ⟨.ofSecs 19, Vec3.zero, 10, .timer .stop⟩ ]
  let v : Visit := ⟨.ofSecs 20, Vec3.zero, 12, .packet ⟨1⟩ mapAck⟩
  have hrun : ((Node.create ⟨1⟩ slowSettings false none).toOption.any fun n =>
      (Node.create ⟨2⟩ exchangeSettings false none).toOption.any fun n' =>
        ((setUp [n, n']).run? (exchange ++ again)).any fun net =>
          (net.benches.get? ⟨2⟩).any fun b =>
            (b.node.reliable.pending.get? (⟨1⟩, .densityMap)).any fun p =>
              (net.step? (.visit ⟨2⟩ v)).any fun net' =>
                (net'.benches.get? ⟨2⟩).any fun b' =>
                  decide (b'.node.reliable.pending.get? (⟨1⟩, .densityMap) = none) &&
                    decide (¬ net.Handled ⟨1⟩ p.message)) = true := by decide +kernel
  simp only [Option.any_eq_true, Bool.and_eq_true, decide_eq_true_eq] at hrun
  obtain ⟨n, hn, n', hn', net, hnet, b, hb, p, hp, net', hstep, b', hb', hnone, hnot⟩ := hrun
  exact ⟨_, net, net', _, v, b, b', p, isNew_pair hn hn', hnet, hstep, rfl, hb, hp, hb', hnone,
    hnot⟩

end Network

end ClusterWave
