import ClusterWave.Proofs.Network.Acknowledgment
import ClusterWave.Proofs.Node.Trace
import Mathlib.Data.List.Flatten
import Mathlib.Data.List.Nodup
import Mathlib.Data.List.Perm.Subperm

/-!
# Incidents in a network

A member tells its head of an incident, and the head passes this on for everyone to hear. It listens
to the member itself only, and so nobody passes on what a head has passed on. In a network in which
packets arrive once at most, under the name of who sent them, no incident is passed on more often
than it was originated, however late packets come, however many of them get lost and whatever roles
change in between.
-/

namespace ClusterWave

variable {n : Node} {v : Visit} {p p' : Post} {es : List Effect} {past : List Dispatch}

/-! ### Reports -/

namespace Message

/-- Whether the node `origin` reports an incident of its own to the head `head`. -/
def reports (origin head : NodeId) : Message → Bool
  | .incident o _ cluster _ => o == origin && cluster == some head
  | _ => false

/-- Whether a message that the node `id` sends is about an incident of another node. -/
def isRelay (id : NodeId) (m : Message) : Bool := m.origin?.any (· != id)

lemma origin?_of_reports {origin head : NodeId} {m : Message} (h : m.reports origin head) :
    m.origin? = some origin := by
  cases m with
  | incident o timestamp cluster severity =>
    rw [reports, Bool.and_eq_true, beq_iff_eq] at h
    exact congrArg some h.1
  | _ => cases h

/-- An incident is reported to a single head. -/
lemma eq_of_reports {origin head head' : NodeId} {m : Message} (h : m.reports origin head)
    (h' : m.reports origin head') : head = head' := by
  cases m with
  | incident o timestamp cluster severity =>
    rw [reports, Bool.and_eq_true, beq_iff_eq, beq_iff_eq] at h h'
    exact Option.some.inj (h.2.symm.trans h'.2)
  | _ => cases h

lemma isRelay_of_origin? {id : NodeId} {m : Message} (h : ∀ origin ∈ m.origin?, origin = id) :
    m.isRelay id = false := by
  rw [isRelay, Option.any_eq_false]
  intro origin ho
  simp [h origin ho]

/-- No other message is about an incident. -/
lemma origin?_eq_none {m : Message} (h : m.isUncounted ∨ m.isFormation ∨ m.isWave) :
    m.origin? = none := by
  cases m with
  | incident => simp [isUncounted, isFormation, isWave] at h
  | _ => rfl

end Message

/-- The incidents of its sender that a parcel brings to the head of its sender's cluster. -/
def Parcel.reports (p : Parcel) : List Message :=
  p.packet.messages.filter (Message.reports p.sender p.receiver)

/-- The reports that the node `id` is brought in a visit. -/
def Visit.reports (v : Visit) (id : NodeId) : List Message :=
  match v.call with
  | .packet sender packet => Parcel.reports ⟨sender, id, packet⟩
  | _ => []

lemma Visit.mem_reports {id : NodeId} {m : Message} (h : m ∈ v.reports id) :
    ∃ sender packet, v.call = .packet sender packet ∧ m ∈ packet.messages ∧
      m.reports sender id := by
  simp only [reports] at h
  split at h
  · rename_i sender packet hv
    exact ⟨sender, packet, hv, List.mem_filter.1 h⟩
  · cases h

/-! ### What a node relays -/

namespace Post

/-- The incidents of other nodes that a node has passed on. -/
def relays (p : Post) : List Message :=
  (p.effects.flatMap Effect.messages).filter (Message.isRelay p.id)

/-- The reports that it still has to read. -/
def due (v : Visit) (p : Post) : List Message :=
  match v.call with
  | .packet sender _ => p.inbox.filter (Message.reports sender p.id)
  | _ => []

/-- A node passes nothing on. -/
lemma keeps_relays (new : List Effect) (hid : p'.id = p.id) (hinbox : p'.inbox = p.inbox)
    (heffects : p'.effects = p.effects ++ new)
    (hm : ∀ m ∈ new.flatMap Effect.messages, m.isRelay p.id = false) :
    (p'.relays ++ p'.due v).Sublist (p.relays ++ p.due v) := by
  have hrelays : p'.relays = p.relays := by
    rw [relays, heffects, hid, List.flatMap_append, List.filter_append,
      List.filter_eq_nil_iff.2 fun m h => Bool.eq_false_iff.1 (hm m h), List.append_nil, relays]
  have hdue : p'.due v = p.due v := by
    rw [due, due, hinbox, hid]
  rw [hrelays, hdue]

end Post

/-- Every report that is passed on is taken from those that are to be read. -/
lemma Posting.relays (s : Posting v p p') (h : p.Ledger es past) :
    (p'.relays ++ p'.due v).Sublist (p.relays ++ p.due v) := by
  have hother {m : Message} (h : m.isUncounted ∨ m.isFormation ∨ m.isWave) :
      m.isRelay p.id = false := by
    rw [Message.isRelay, Message.origin?_eq_none h]
    rfl
  cases s with
  | @send e he hm hv =>
    refine Post.keeps_relays [e] rfl rfl rfl fun m hmem => ?_
    rw [List.flatMap_singleton] at hmem
    exact hother (.inl (hm m hmem))
  | @form m hm =>
    refine Post.keeps_relays _ rfl rfl rfl fun m' hmem => ?_
    rw [List.mem_singleton.1 hmem]
    exact hother (.inr (.inl hm))
  | @activate m hm =>
    refine Post.keeps_relays _ rfl rfl rfl fun m' hmem => ?_
    rw [List.mem_singleton.1 hmem]
    exact hother (.inr (.inr hm))
  | @originate e timestamp cluster severity he hm hv =>
    refine Post.keeps_relays [e] rfl rfl rfl fun m hmem => ?_
    rw [List.flatMap_singleton, hm, List.mem_singleton] at hmem
    rw [hmem]
    exact Message.isRelay_of_origin? fun origin ho => (Option.some.inj ho).symm
  | @relay origin timestamp severity packet rest hv hne hi =>
    have hreports :
        (Message.incident origin timestamp (some p.id) severity).reports origin p.id := by
      simp [Message.reports]
    have hrelay : (Message.incident origin timestamp (some p.id) severity).isRelay p.id := by
      simpa [Message.isRelay, Message.origin?] using hne
    -- the report is read just as it is passed on
    simp only [Post.relays, Post.due, Post.put, hv, hi, List.flatMap_append, List.filter_append,
      List.flatMap_singleton, Effect.messages, Packet.single, List.filter_cons_of_pos hrelay,
      List.filter_cons_of_pos hreports, List.filter_nil, List.append_assoc, List.singleton_append]
    exact List.Sublist.refl _
  | heardBack h =>
    exact Post.keeps_relays [] rfl rfl (List.append_nil _).symm (List.forall_mem_nil _)
  | @read m rest hi =>
    refine (List.Sublist.refl _).append ?_
    simp only [Post.due, hi]
    split
    · exact (List.sublist_cons_self m rest).filter _
    · exact List.Sublist.refl _
  | take => exact Post.keeps_relays _ rfl rfl rfl (List.forall_mem_nil _)
  | drop => exact Post.keeps_relays [] rfl rfl (List.append_nil _).symm (List.forall_mem_nil _)
  | @resend peer kind q handle delay hv hq =>
    refine Post.keeps_relays _ rfl rfl rfl fun m hmem => ?_
    rw [List.mem_singleton.1 hmem]
    exact hother (.inl (h.uncounted _ q hq))

lemma Postings.relays (s : Postings v p p') (h : p.Ledger es past) :
    (p'.relays ++ p'.due v).Sublist (p.relays ++ p.due v) := by
  induction s with
  | refl => exact List.Sublist.refl _
  | tail s s' ih =>
    obtain ⟨new, -, hledger⟩ := Postings.enters s h
    exact (s'.relays hledger).trans ih

namespace Node

/-- What a node passes on in a visit was reported to it in the visit, one for one. -/
lemma Ledger.relays_visit (h : n.Ledger es past) (v : Visit) :
    (((n.visit v).outbox.effects.flatMap Effect.messages).filter
      (Message.isRelay n.id)).Sublist (v.reports n.id) := by
  have hend : ((n.visit v).post []).relays =
      ((n.visit v).outbox.effects.flatMap Effect.messages).filter (Message.isRelay n.id) := by
    rw [← n.id_visit v, ← Effect.flatMap_messages_filter]
    rfl
  have hstart : ((Turn.start n v.now v.position v.nextHandle).post v.messages).due v =
      v.reports n.id := by
    cases hc : v.call with
    | packet sender packet =>
      simp only [Post.due, Visit.reports, Visit.messages, hc]
      rfl
    | _ => simp only [Post.due, Visit.reports, hc]
  have hs := (postings_visit n v).relays (h.start v)
  rw [hend, hstart] at hs
  exact (List.sublist_append_left _ _).trans hs

end Node

/-! ### What a node hears back -/

/-- Every incident that was heard back was originated, and so was the last one that was not heard
back so far. -/
def Post.Returns (p : Post) : Prop := p.returned + p.lastIncident.toList.length ≤ p.originated

lemma Posting.returns (s : Posting v p p') (h : p.Returns) : p'.Returns := by
  cases s with
  | originate =>
    exact Nat.succ_le_succ (Nat.le_trans (Nat.le_add_right _ _) h)
  | @heardBack timestamp hlast =>
    rw [Post.Returns, hlast] at h
    exact h
  | _ => exact h

/-- Every incident that a node has heard back is one that it has originated. -/
def Node.Returns (n : Node) : Prop :=
  n.counters.incidentsReturned + n.lastIncident.toList.length ≤ n.counters.incidentsOriginated

namespace Node

lemma IsNew.returns (h : n.IsNew) : n.Returns := by
  obtain ⟨id, settings, isStarter, velocity, h⟩ := h
  simp only [Node.create] at h
  split at h
  · cases h
  · cases h
    exact Nat.le_refl 0

lemma Returns.visit (h : n.Returns) (v : Visit) : (n.visit v).node.Returns := by
  have hreturns {p p' : Post} (hs : Postings v p p') (h : p.Returns) : p'.Returns := by
    induction hs with
    | refl => exact h
    | tail _ s ih => exact s.returns ih
  exact hreturns (postings_visit n v) h

lemma Returns.after (h : n.Returns) (vs : List Visit) : (n.after vs).Returns := by
  induction vs generalizing n with
  | nil => exact h
  | cons v vs ih => exact ih (h.visit v)

end Node

/-! ### What takes place -/

namespace Deed

/-- What the node says in a visit. -/
def said (d : Deed) : List Message :=
  (d.before.visit d.visit).outbox.effects.flatMap Effect.messages

/-- The incidents of its own that the node tells of. -/
def originals (d : Deed) : List Message := d.said.filter (·.origin? == some d.id)

/-- The incidents of other nodes that the node passes on. -/
def relays (d : Deed) : List Message := d.said.filter (Message.isRelay d.id)

end Deed

namespace Network

/-- What a visit makes of a network in which packets arrive once at most and nodes are visited at
any time for any timer. -/
structure Delivers (net : Network) (id : NodeId) (b b' : Bench) (v : Visit) (left : List Parcel)
    (net' : Network) : Prop where
  bench : net.benches.get? id = some b
  node : b'.node = (b.node.visit v).node
  arrived : net.arrive? id v = some left
  benches : net'.benches = net.benches.insert id b'
  flying : net'.flying.Subperm (left ++ net.sent id b.node v)
  log : net'.log = ⟨id, b.node, v⟩ :: net.log

/-- The networks that come about as nodes are visited one after the other, in any order. Packets
may get lost at any time. -/
inductive Evolves (net₀ : Network) : Network → Prop where
  | refl : Evolves net₀ net₀
  | lose {net net' : Network} (h : Evolves net₀ net) (hb : net'.benches = net.benches)
      (hl : net'.log = net.log) (hf : net'.flying.Subperm net.flying) : Evolves net₀ net'
  | visit {net net' : Network} {id : NodeId} {b b' : Bench} {v : Visit} {left : List Parcel}
      (h : Evolves net₀ net) (hv : net.Delivers id b b' v left net') : Evolves net₀ net'

/-- The incidents that were originated. -/
def originated (net : Network) : List Message := net.log.flatMap Deed.originals

/-- The incidents that were passed on. -/
def relayed (net : Network) : List Message := net.log.flatMap Deed.relays

variable {net net' net₀ : Network} {id : NodeId} {b b' : Bench} {left : List Parcel}

lemma delivers (h : net.step? (.visit id v) = some net') :
    ∃ b b' left, net.Delivers id b b' v left net' := by
  simp only [step?, Option.bind_eq_bind, Option.bind_eq_some_iff, Option.some.injEq] at h
  obtain ⟨b, hb, left, hf, b', hb', rfl⟩ := h
  exact ⟨b, b', left, hb, (Bench.attended hb').node, hf, rfl, List.Subperm.refl _, rfl⟩

/-- A network with punctual benches is among them. -/
lemma Evolves.of_run? {acts : List Act} (h : net.run? acts = some net') : net.Evolves net' := by
  refine run?_preserves h .refl fun mid mid' a hr hs => ?_
  cases a with
  | lose p =>
    obtain ⟨-, rfl⟩ := lost hs
    exact .lose hr rfl rfl (List.erase_subperm p mid.flying)
  | visit id v =>
    obtain ⟨b, b', left, hv⟩ := delivers hs
    exact .visit hr hv

/-! ### Parcels -/

lemma reports_subperm {ps qs : List Parcel} (h : ps.Subperm qs) :
    (ps.flatMap Parcel.reports).Subperm (qs.flatMap Parcel.reports) := by
  obtain ⟨rs, hperm, hsub⟩ := h
  exact ⟨_, hperm.flatMap_right _, hsub.flatMap _⟩

/-- What a visit is brought has been on its way. -/
lemma reports_of_arrive? (h : net.arrive? id v = some left) :
    (net.flying.flatMap Parcel.reports).Perm (v.reports id ++ left.flatMap Parcel.reports) := by
  simp only [arrive?] at h
  split at h
  · rename_i sender packet hv
    split at h
    · rename_i hm
      cases h
      have hreports : v.reports id = Parcel.reports ⟨sender, id, packet⟩ := by
        rw [Visit.reports, hv]
      rw [hreports]
      exact (List.perm_cons_erase hm).flatMap_right Parcel.reports
    · cases h
  · rename_i hv
    cases h
    have hreports : v.reports id = [] := by
      rw [Visit.reports]
      split
      · rename_i sender packet hv'
        exact absurd hv' (hv sender packet)
      · rfl
    rw [hreports, List.nil_append]

/-- However many nodes a message goes to, it is a report to one of them only. -/
lemma count_reports_le {ids : List NodeId} (hids : ids.Nodup) (sender : NodeId)
    (ms : List Message) (m : Message) :
    (ids.flatMap fun id => ms.filter (Message.reports sender id)).count m ≤
      (ms.filter (·.origin? == some sender)).count m := by
  induction ids with
  | nil => exact Nat.zero_le _
  | cons id ids ih =>
    obtain ⟨hnot, hids⟩ := List.nodup_cons.1 hids
    rw [List.flatMap_cons, List.count_append]
    by_cases hm : m.reports sender id
    · have hrest : (ids.flatMap fun id => ms.filter (Message.reports sender id)).count m = 0 := by
        rw [List.count_eq_zero]
        intro hmem
        obtain ⟨id', hid', hm'⟩ := List.mem_flatMap.1 hmem
        exact hnot (Message.eq_of_reports hm (List.mem_filter.1 hm').2 ▸ hid')
      rw [hrest, Nat.add_zero, List.count_filter hm, List.count_filter]
      exact beq_iff_eq.2 (Message.origin?_of_reports hm)
    · have hhere : (ms.filter (Message.reports sender id)).count m = 0 := by
        rw [List.count_eq_zero]
        exact fun hmem => hm (List.mem_filter.1 hmem).2
      rw [hhere, Nat.zero_add]
      exact ih hids

/-- A parcel that is sent off is a report only if the sender tells of an incident of its own. -/
lemma subperm_sent (net : Network) (id : NodeId) (n : Node) (v : Visit) :
    ((net.sent id n v).flatMap Parcel.reports).Subperm (Deed.originals ⟨id, n, v⟩) := by
  have heffect (e : Effect) : ((e.parcels id net.benches.keys).flatMap Parcel.reports).Subperm
      (e.messages.filter (·.origin? == some id)) := by
    rw [List.subperm_ext_iff]
    rintro m -
    cases e with
    | broadcast packet =>
      rw [Effect.parcels, List.flatMap_map]
      exact count_reports_le (net.benches.nodup_keys.filter _) id packet.messages m
    | send peer packet =>
      exact count_reports_le (List.nodup_singleton peer) id packet.messages m
    | schedule => exact Nat.le_refl 0
    | cancel => exact Nat.le_refl 0
  rw [sent, List.flatMap_assoc, Deed.originals, Deed.said, List.filter_flatMap]
  induction (n.visit v).outbox.effects with
  | nil => exact List.Subperm.refl _
  | cons e es ih =>
    rw [List.flatMap_cons, List.flatMap_cons]
    exact (heffect e).append ih

/-! ### The account -/

/-- The number of incidents that the nodes have counted as their own. -/
def incidentsOriginated (net : Network) : Nat :=
  (net.benches.values.map (·.node.counters.incidentsOriginated)).sum

/-- Whatever is passed on in the visit was heard from its origin, which said it before. -/
def Traces (d : Deed) (earlier : List Deed) : Prop :=
  ∀ m ∈ d.relays, ∃ origin packet, origin ≠ d.id ∧ m.origin? = some origin ∧
    d.visit.call = .packet origin packet ∧ m ∈ packet.messages ∧
    ∃ d' ∈ earlier, d'.id = origin ∧ m ∈ d'.originals

/-- Incidents that were passed on or may still be are among those that were originated. -/
structure Tallies (net : Network) : Prop where
  ids : ∀ id b, net.benches.get? id = some b → b.node.id = id
  ledgers : ∀ id b, net.benches.get? id = some b → ∃ es past, b.node.Ledger es past
  said : ∀ p ∈ net.flying, ∃ d ∈ net.log, d.id = p.sender ∧ ∀ m ∈ p.packet.messages, m ∈ d.said
  reported : (net.flying.flatMap Parcel.reports ++ net.relayed).Subperm net.originated
  counted : net.originated.length ≤ net.incidentsOriginated
  traced : ∀ later d earlier, net.log = later ++ d :: earlier → Traces d earlier

lemma IsNew.tallies (h : net.IsNew) : net.Tallies := by
  obtain ⟨hn, hf, hl⟩ := h
  constructor
  · intro id b hb
    exact (hn id b hb).2.1
  · intro id b hb
    exact ⟨[], [], (hn id b hb).1.ledger⟩
  · rw [hf]
    exact List.forall_mem_nil _
  · rw [hf, relayed, originated, hl]
    exact List.Subperm.refl _
  · rw [originated, hl]
    exact Nat.zero_le _
  · intro later d earlier he
    rw [hl] at he
    exact absurd he.symm (List.append_ne_nil_of_right_ne_nil _ (List.cons_ne_nil _ _))

lemma Tallies.lose (h : net.Tallies) (hb : net'.benches = net.benches) (hl : net'.log = net.log)
    (hf : net'.flying.Subperm net.flying) : net'.Tallies := by
  obtain ⟨hids, hledgers, hsaid, hreported, hcounted, htraced⟩ := h
  refine ⟨hb ▸ hids, hb ▸ hledgers, fun p hp => hl ▸ hsaid p (hf.subset hp), ?_, ?_, hl ▸ htraced⟩
  · rw [relayed, originated, hl]
    exact ((reports_subperm hf).append (List.Subperm.refl _)).trans hreported
  · rw [originated, incidentsOriginated, hl, hb]
    exact hcounted

lemma Delivers.get? {c : Bench} (h : net.Delivers id b b' v left net') {id' : NodeId}
    (hc : net'.benches.get? id' = some c) :
    net.benches.get? id' = some c ∨ id' = id ∧ c = b' := by
  rw [h.benches] at hc
  rcases Table.of_get?_insert hc with ⟨he, rfl⟩ | ⟨-, hc⟩
  · exact .inr ⟨he, rfl⟩
  · exact .inl hc

lemma Delivers.originated (h : net.Delivers id b b' v left net') :
    net'.originated = Deed.originals ⟨id, b.node, v⟩ ++ net.originated := by
  rw [Network.originated, h.log, List.flatMap_cons]
  rfl

lemma Delivers.relayed (h : net.Delivers id b b' v left net') :
    net'.relayed = Deed.relays ⟨id, b.node, v⟩ ++ net.relayed := by
  rw [Network.relayed, h.log, List.flatMap_cons]
  rfl

/-- The counters keep pace with what is originated. -/
lemma Delivers.incidentsOriginated (h : net.Delivers id b b' v left net') (hid : b.node.id = id)
    (hledger : b.node.Ledger es past) :
    net'.incidentsOriginated =
      net.incidentsOriginated + (Deed.originals ⟨id, b.node, v⟩).length := by
  subst hid
  obtain ⟨l, r, hvalues, hvalues'⟩ := Table.exists_values h.bench
  have hb := hledger.originated
  have hb' := (hledger.visit v).originated
  rw [List.flatMap_append, List.countP_append, b.node.id_visit, ← hb, ← h.node] at hb'
  simp only [Network.incidentsOriginated, h.benches, hvalues, hvalues', List.map_append,
    List.map_cons, List.sum_append, List.sum_cons, hb', Deed.originals, Deed.said,
    ← List.countP_eq_length_filter]
  omega

/-- The reports that are brought in a visit make room for the ones that are passed on. -/
lemma Tallies.reported_visit (h : net.Tallies) (hv : net.Delivers id b b' v left net') :
    (net'.flying.flatMap Parcel.reports ++ net'.relayed).Subperm net'.originated := by
  obtain rfl : b.node.id = id := h.ids id b hv.bench
  obtain ⟨es, past, hledger⟩ := h.ledgers _ b hv.bench
  rw [List.subperm_ext_iff]
  rintro m -
  have hbrought := (reports_of_arrive? hv.arrived).count_eq m
  have hrelays : (Deed.relays ⟨b.node.id, b.node, v⟩).count m ≤ (v.reports b.node.id).count m :=
    (hledger.relays_visit v).count_le m
  have hsent := (subperm_sent net b.node.id b.node v).count_le m
  have hflying := (reports_subperm hv.flying).count_le m
  have hreported := h.reported.count_le m
  rw [List.flatMap_append] at hflying
  rw [hv.relayed, hv.originated]
  simp only [List.count_append] at hbrought hflying hreported ⊢
  omega

lemma Tallies.traces (h : net.Tallies) (hv : net.Delivers id b b' v left net') :
    Traces ⟨id, b.node, v⟩ net.log := by
  obtain rfl : b.node.id = id := h.ids id b hv.bench
  obtain ⟨es, past, hledger⟩ := h.ledgers _ b hv.bench
  intro m hm
  obtain ⟨origin, packet, hc, hmem, hreports⟩ :=
    Visit.mem_reports ((hledger.relays_visit v).subset hm)
  have ho := Message.origin?_of_reports hreports
  have hne : origin ≠ b.node.id := by
    have hrelay := (List.mem_filter.1 hm).2
    simpa [Message.isRelay, ho] using hrelay
  obtain ⟨d, hd, hid, hsaid⟩ := h.said _ ((mem_arrive? hv.arrived).2 origin packet hc)
  refine ⟨origin, packet, hne, ho, hc, hmem, d, hd, hid, List.mem_filter.2 ⟨hsaid m hmem, ?_⟩⟩
  rw [hid, ho]
  exact beq_self_eq_true _

lemma Tallies.visit (h : net.Tallies) (hv : net.Delivers id b b' v left net') :
    net'.Tallies := by
  have hid : b.node.id = id := h.ids id b hv.bench
  obtain ⟨es, past, hledger⟩ := h.ledgers id b hv.bench
  constructor
  · intro id' c hc
    rcases hv.get? hc with hc | ⟨rfl, rfl⟩
    · exact h.ids id' c hc
    · rw [hv.node, b.node.id_visit, hid]
  · intro id' c hc
    rcases hv.get? hc with hc | ⟨rfl, rfl⟩
    · exact h.ledgers id' c hc
    · rw [hv.node]
      exact ⟨_, _, hledger.visit v⟩
  · intro p hp
    rw [hv.log]
    rcases List.mem_append.1 (hv.flying.subset hp) with hp | hp
    · obtain ⟨d, hd, hsaid⟩ := h.said p ((mem_arrive? hv.arrived).1 p hp)
      exact ⟨d, List.mem_cons_of_mem _ hd, hsaid⟩
    · obtain ⟨hs, e, he, hms, -⟩ := mem_sent hp
      refine ⟨_, List.mem_cons_self, hs.symm, fun m hm => ?_⟩
      exact List.mem_flatMap.2 ⟨e, he, hms ▸ hm⟩
  · exact h.reported_visit hv
  · rw [hv.originated, hv.incidentsOriginated hid hledger, List.length_append, Nat.add_comm]
    exact Nat.add_le_add_right h.counted _
  · intro later d earlier he
    rw [hv.log] at he
    rcases List.cons_eq_append_iff.1 he with ⟨-, hd⟩ | ⟨later, -, hd⟩
    · obtain ⟨rfl, rfl⟩ := List.cons.inj hd
      exact h.traces hv
    · exact h.traced later d earlier hd

lemma Evolves.tallies (hn : net₀.IsNew) (h : net₀.Evolves net) : net.Tallies := by
  induction h with
  | refl => exact hn.tallies
  | lose _ hb hl hf ih => exact ih.lose hb hl hf
  | visit _ hv ih => exact ih.visit hv

/-- Incidents are passed on at most once. Any number of nodes are visited in any order, with any
timers, and packets arrive once at most, as they were sent. Then no incident was passed on more
often than it was originated, and no more incidents were passed on than the nodes have counted as
their own. A node has passed an incident on only when it came from its origin, which had told of it
before, and so never when another node passed it on. And whatever a node is brought, it hears no
more incidents back than it has originated. -/
theorem incidents_relayed_once (hn : net₀.IsNew) (h : net₀.Evolves net) :
    (∀ m, net.relayed.count m ≤ net.originated.count m) ∧
    net.relayed.length ≤ (net.benches.values.map (·.node.counters.incidentsOriginated)).sum ∧
    (∀ later d earlier, net.log = later ++ d :: earlier → ∀ m ∈ d.relays,
      ∃ origin packet, origin ≠ d.id ∧ m.origin? = some origin ∧
        d.visit.call = .packet origin packet ∧ m ∈ packet.messages ∧
        ∃ d' ∈ earlier, d'.id = origin ∧ m ∈ d'.originals) ∧
    ∀ n : Node, n.IsNew → ∀ vs : List Visit,
      (n.after vs).counters.incidentsReturned ≤ (n.after vs).counters.incidentsOriginated := by
  have htallies := h.tallies hn
  have hrelayed : net.relayed.Subperm net.originated :=
    (List.sublist_append_right _ _).subperm.trans htallies.reported
  refine ⟨hrelayed.count_le, hrelayed.length_le.trans htallies.counted, htallies.traced, ?_⟩
  intro n hnew vs
  exact Nat.le_trans (Nat.le_add_right _ _) (hnew.returns.after vs)

/-- Settings under which a node tells of an incident every second, long before clustering begins. -/
def incidentSettings : Settings :=
  { Settings.standard with
    interval := .ofSecs 5
    sendWindow := .ofSecs 5
    clusteringStart := .ofSecs 60
    incidentInterval := some (.ofSecs 1) }

/-- The incident of which node 1 tells its head. -/
def report : Message := .incident ⟨1⟩ (.ofSecs 1) (some ⟨9⟩) .emergency

/-- Node 1 joins the cluster of node 9 and reports an incident, and hears it back. -/
def reporting : List Act :=
  [ .visit ⟨9⟩ ⟨.start, Vec3.zero, 1, .start⟩,
    .visit ⟨9⟩ ⟨.start, Vec3.zero, 3, .formCluster⟩,
    .visit ⟨9⟩ ⟨.start, Vec3.zero, 4, .timer .send⟩,
    .visit ⟨1⟩ ⟨.start, Vec3.zero, 1, .start⟩,
    .visit ⟨1⟩ ⟨.start, Vec3.zero, 3, .packet ⟨9⟩ (Packet.single
      (.formCluster 1 (Record.lone ⟨9⟩ Vec3.zero .start).becomeHead))⟩,
    .visit ⟨1⟩ ⟨.ofSecs 1, Vec3.zero, 4, .timer .incident⟩,
    .visit ⟨9⟩ ⟨.ofSecs 1, Vec3.zero, 5, .packet ⟨1⟩ (Packet.single report)⟩,
    .visit ⟨1⟩ ⟨.ofSecs 1, Vec3.zero, 5, .packet ⟨9⟩ (Packet.single report)⟩ ]

/-- An incident is reported to a head, passed on and heard back. -/
theorem report_is_relayed_once : ∃ net₀ net : Network, net₀.IsNew ∧ net₀.Evolves net ∧
    net.relayed = [report] ∧
    (net.benches.get? ⟨1⟩).any (fun b => b.node.counters.incidentsReturned == 1) ∧
    (∀ m, net.relayed.count m ≤ net.originated.count m) ∧
    net.relayed.length ≤ (net.benches.values.map (·.node.counters.incidentsOriginated)).sum ∧
    (∀ later d earlier, net.log = later ++ d :: earlier → ∀ m ∈ d.relays,
      ∃ origin packet, origin ≠ d.id ∧ m.origin? = some origin ∧
        d.visit.call = .packet origin packet ∧ m ∈ packet.messages ∧
        ∃ d' ∈ earlier, d'.id = origin ∧ m ∈ d'.originals) ∧
    ∀ n : Node, n.IsNew → ∀ vs : List Visit,
      (n.after vs).counters.incidentsReturned ≤ (n.after vs).counters.incidentsOriginated := by
  have hrun : ((Node.create ⟨1⟩ incidentSettings false none).toOption.any fun n =>
      (Node.create ⟨9⟩ incidentSettings false none).toOption.any fun n' =>
        ((setUp [n, n']).run? reporting).any fun net =>
          decide (net.relayed = [report]) && (net.benches.get? ⟨1⟩).any fun b =>
            b.node.counters.incidentsReturned == 1) = true := by
    decide +kernel
  simp only [Option.any_eq_true, Bool.and_eq_true, decide_eq_true_eq] at hrun
  obtain ⟨n, hn, n', hn', net, hnet, hrelayed, b, hb, hreturned⟩ := hrun
  have hnew := isNew_pair hn hn'
  have hevolves := Evolves.of_run? hnet
  exact ⟨_, net, hnew, hevolves, hrelayed, (Option.any_eq_true _ _).2 ⟨b, hb, hreturned⟩,
    incidents_relayed_once hnew hevolves⟩

end Network

end ClusterWave
