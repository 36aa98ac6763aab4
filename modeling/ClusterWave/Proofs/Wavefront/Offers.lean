import ClusterWave.Proofs.Bench.Errand
import ClusterWave.Proofs.Clustering.Revision
import ClusterWave.Proofs.Peer.Upkeep
import ClusterWave.Proofs.Wavefront.Launch
import ClusterWave.Proofs.Wavefront.Nearest
import Mathlib.Data.List.Induction
import Mathlib.Order.Bounds.Defs

/-!
# Offers in any order

Other clusters offer a wavefront to a head. The head takes an offer whose wave arrives earlier than
what it knows of: it plans anew, from the node of its cluster that the wave reaches, and gives up
the offers that it has made itself. So the last offer that is taken is the one that arrives first,
and nothing is left of those before. As long as no two offers arrive at the same time, the order in
which they are heard of does not matter.
-/

namespace ClusterWave

/-! ### Offers -/

/-- An offer of a wavefront. -/
structure Offer where
  source : Vec2
  destination : Vec2
  direction : Vec2
  startTime : Timestamp
deriving DecidableEq

/-- The offer that a message makes. -/
def Message.offer? : Message → Option Offer
  | .interCluster _ _ source destination direction startTime =>
    some ⟨source, destination, direction, startTime⟩
  | _ => none

lemma Message.eq_of_offer? {m : Message} {o : Offer} (h : m.offer? = some o) :
    ∃ seq cluster, m =
      .interCluster seq cluster o.source o.destination o.direction o.startTime := by
  cases m with
  | interCluster seq cluster =>
    cases h
    exact ⟨seq, cluster, rfl⟩
  | _ => cases h

lemma Message.exists_offer {m : Message} (h : m.kind = .interCluster) :
    ∃ o, m.offer? = some o := by
  cases m with
  | interCluster => exact ⟨_, rfl⟩
  | _ => cases h

/-- The offers that arrive with a visit, in order. -/
def Visit.offers (v : Visit) : List Offer := v.messages.filterMap Message.offer?

/-- A visit at a given time and place in which a packet of offers arrives. -/
structure Visit.Delivers (v : Visit) (now : Timestamp) (position : Vec3) : Prop where
  now : v.now = now
  position : v.position = position
  packet : ∃ sender packet, v.call = .packet sender packet
  offers : ∀ m ∈ v.messages, m.kind = .interCluster

namespace Node

/-- The node with time and place in its record. -/
def located (n : Node) (now : Timestamp) (position : Vec3) : Node :=
  { n with record := { n.record with position, timestamp := now } }

/-- When the wave of an offer arrives at the node of the cluster that it reaches. -/
def arrival? (n : Node) (o : Offer) : Option Timestamp :=
  (Turn.candidate? n o.destination).bind fun c =>
    Turn.arrival? n o.source c.place o.direction o.startTime

/-- Whether an offer is taken at a given time: its wave arrives later than that and earlier than the
first start that is known of. -/
def Takes (n : Node) (now : Timestamp) (o : Offer) : Prop :=
  ∃ time, n.arrival? o = some time ∧ now < time ∧ time < n.schedule.firstStart

end Node

/-- An offer without its sequence number. -/
def Message.unnumbered : Message → Message
  | .interCluster _ cluster source destination direction startTime =>
    .interCluster 0 cluster source destination direction startTime
  | m => m

/-- What a head knows of the wave in its cluster, and the offers that it makes to others itself: the
messages without their numbers, and how often they were sent. -/
structure Front where
  firstStart : Timestamp
  firstNode : Option NodeId
  direction : Option Vec2
  offers : NodeId → Option (Message × Nat)

namespace Node

/-- The pending offer to a peer. -/
def offer? (n : Node) (peer : NodeId) : Option (Message × Nat) :=
  (n.reliable.pending.get? (peer, .interCluster)).map fun p => (p.message.unnumbered, p.attempts)

def front (n : Node) : Front :=
  ⟨n.schedule.firstStart, n.schedule.firstNode, n.schedule.direction, n.offer?⟩

lemma firstStart_front (n : Node) : n.front.firstStart = n.schedule.firstStart := rfl

end Node

variable {n n₀ : Node} {v : Visit} {vs vs' : List Visit} {t u : Turn} {o o' : Offer}
  {now time time' : Timestamp} {position : Vec3}

/-! ### What is known after a launch -/

namespace Turn

/-- The pending offers after some more are made, for a wave that starts at a given time. -/
def offersOf (id : NodeId) (source : Vec2) (start : Timestamp)
    (offers : NodeId → Option (Message × Nat)) (fs : List Forward) :
    NodeId → Option (Message × Nat) :=
  fs.foldl (fun offers f => Function.update offers f.cluster
    (some (.interCluster 0 id source f.destination f.direction start, 0))) offers

lemma offer?_offer (source : Vec2) (acc : Turn × Duration) (f : Forward) :
    (offer source acc f).1.node.offer? = Function.update acc.1.node.offer? f.cluster
      (some (.interCluster 0 acc.1.node.id source f.destination f.direction
        acc.1.node.schedule.firstStart, 0)) := by
  funext peer
  by_cases hp : peer = f.cluster
  · rw [hp, Function.update_self]
    exact congrArg (Option.map _) (Table.get?_insert_self _ _ _)
  · rw [Function.update_of_ne hp]
    refine congrArg (Option.map _) (Table.get?_insert_of_ne _ _ fun he => hp ?_)
    exact congrArg Prod.fst he

lemma offer?_offers (source : Vec2) (fs : List Forward) (acc : Turn × Duration) :
    (fs.foldl (offer source) acc).1.node.offer? =
      offersOf acc.1.node.id source acc.1.node.schedule.firstStart acc.1.node.offer? fs := by
  induction fs generalizing acc with
  | nil => rfl
  | cons f fs ih =>
    rw [List.foldl_cons, ih, offer?_offer]
    rfl

lemma offer?_cancelKind (t : Turn) : (t.cancelKind .interCluster).node.offer? = fun _ => none := by
  funext peer
  exact congrArg (Option.map _) (t.node.reliable.get?_giveUp_of_pos t.outbox rfl)

lemma offer?_planned (t : Turn) (source : Vec2) (plan : Plan) :
    (t.planned source plan).node.offer? =
      offersOf t.node.id source t.node.schedule.firstStart (fun _ => none) plan.forwards := by
  have ho := offer?_offers source plan.forwards
    (t.cancelKind .interCluster, t.node.settings.backoff)
  rw [offer?_cancelKind] at ho
  rw [planned, node_announceLater]
  exact ho

lemma front_planned (t : Turn) (source : Vec2) (plan : Plan) :
    (t.planned source plan).node.front =
      { t.node.front with
        direction := some plan.direction
        offers := offersOf t.node.id source t.node.schedule.firstStart (fun _ => none)
          plan.forwards } := by
  rw [Node.front, offer?_planned, node_planned]
  rfl

/-- It does not matter for the front whether the node starts itself. -/
lemma front_startFirst (t : Turn) : t.startFirst.node.front = t.node.front := by
  rw [node_startFirst]
  simp only [Schedule.startWithCluster]
  split <;> rfl

/-- What becomes of the front when a wave is launched at a place. -/
def launched (t : Turn) (source incoming : Vec2) (w : Front) : Front :=
  { w with
    direction := ((t.plan? source incoming).map Plan.direction).or w.direction
    offers :=
      match t.plan? source incoming with
      | none => fun _ => none
      | some plan => offersOf t.node.id source w.firstStart (fun _ => none) plan.forwards }

lemma front_launch {origin : NodeId} {source : Vec2} (h : t.origin? origin = some source)
    (incoming : Vec2) :
    (t.launch origin incoming).node.front = t.launched source incoming t.node.front := by
  rw [launch_of_origin h, launched]
  cases t.plan? source incoming with
  | none =>
    rw [← offer?_cancelKind t]
    rfl
  | some plan =>
    dsimp only
    split
    · rw [front_startFirst, front_planned]
      rfl
    · rw [front_planned]
      rfl

/-! ### Taking an offer -/

/-- The front after an offer is taken that arrives at a given time. -/
def taken (t : Turn) (o : Offer) (time : Timestamp) (w : Front) : Front :=
  match candidate? t.node o.destination with
  | none => w
  | some c =>
    match t.origin? c.id with
    | none => { w with firstStart := time, firstNode := some c.id }
    | some source =>
      t.launched source o.direction { w with firstStart := time, firstNode := some c.id }

lemma taken_of_origin {c : Record} {source : Vec2} (hc : candidate? t.node o.destination = some c)
    (hs : t.origin? c.id = some source) (time : Timestamp) (w : Front) :
    t.taken o time w =
      t.launched source o.direction { w with firstStart := time, firstNode := some c.id } := by
  simp only [taken, hc, hs]

/-- The front after an offer: the offer is taken if its wave arrives later than now and earlier than
what is known of. -/
def respond (t : Turn) (w : Front) (o : Offer) : Front :=
  match t.node.arrival? o with
  | none => w
  | some time => if t.now < time ∧ time < w.firstStart then t.taken o time w else w

lemma respond_of_none (h : t.node.arrival? o = none) (w : Front) : t.respond w o = w := by
  simp only [respond, h]

lemma respond_of_arrival (h : t.node.arrival? o = some time) (w : Front) :
    t.respond w o = if t.now < time ∧ time < w.firstStart then t.taken o time w else w := by
  simp only [respond, h]

end Turn

/-! ### Members under their own numbers -/

/-- Whether every member is kept under its own number. -/
def Registry.Numbered (g : Registry) : Prop := ∀ id r, g.members.get? id = some r → r.id = id

lemma Turn.Revises.numbered {g : Registry} (h : t.Revises v g) (hk : t.node.registry.Numbered) :
    g.Numbered := by
  cases h with
  | kept | heard | forgot => exact hk
  | enrolled =>
    intro id r hr
    rcases Table.of_get?_insert hr with ⟨rfl, rfl⟩ | ⟨-, hr⟩
    · rfl
    · exact hk id r hr
  | noted p h =>
    intro id r hr
    rw [Registry.members_noteCluster] at hr
    exact hk id r hr
  | maintained =>
    intro id r hr
    have hr : (((t.node.registry.dropStrayMembers t.node.record.id).members.filter fun id _ =>
      !(t.node.registry.expired t.now t.node.settings.timeout).contains id)).get? id =
        some r := hr
    rw [Table.get?_filter_eq_some_iff, Registry.dropStrayMembers,
      Table.get?_filter_eq_some_iff] at hr
    exact hk id r hr.1.1

/-- In every run, members are kept under their own numbers. -/
lemma Node.IsNew.numbered (h : n₀.IsNew) (us : List Visit) : (n₀.after us).registry.Numbered := by
  induction us using List.reverseRecOn with
  | nil =>
    intro id r hr
    rw [Node.after_nil, h.registry] at hr
    cases hr
  | append_singleton us v ih =>
    rw [Node.after_append]
    exact (strides_visit (n₀.after us) v).induct (P := fun t => t.node.registry.Numbered) ih
      fun _ _ hk s => s.revises.numbered hk

namespace Turn

/-- Every offer reaches a node of the cluster, of which the place is known. -/
lemma exists_candidate (hk : t.node.registry.Numbered) (destination : Vec2) :
    ∃ c source, candidate? t.node destination = some c ∧ t.origin? c.id = some source := by
  obtain ⟨c, hc⟩ : ∃ c, candidate? t.node destination = some c := ⟨_, rfl⟩
  by_cases hid : c.id = t.node.id
  · exact ⟨c, _, hc, if_pos hid⟩
  · rcases List.mem_cons.1 (firstLeast_of_leastBy? hc).mem with he | hm
    · exact absurd (congrArg Record.id he) hid
    · obtain ⟨⟨id, r⟩, hr, rfl⟩ := List.mem_map.1 hm
      have hr := Table.get?_eq_some_iff.2 hr
      refine ⟨r, r.place, hc, ?_⟩
      rw [origin?, if_neg hid, hk id r hr, hr]
      rfl

/-! ### The order of offers -/

/-- Whether there is a plan depends on the maps only. -/
lemma isSome_plan? (t : Turn) (source incoming : Vec2) :
    (t.plan? source incoming).isSome =
      t.targets.all fun target => (target.map.densePositions? target.head).isSome := by
  have hmap (sector : Sector) (targets : List Target) :
      (targets.mapM (Plan.forward? sector)).isSome =
        targets.all fun target => (target.map.densePositions? target.head).isSome := by
    induction targets with
    | nil => rfl
    | cons target targets ih =>
      rw [List.mapM_cons, List.all_cons, ← ih, Plan.forward?]
      cases target.map.densePositions? target.head <;>
        cases targets.mapM (Plan.forward? sector) <;> rfl
  rw [plan?, Plan.make?, Option.isSome_map]
  exact hmap _ _

/-- An offer that is taken leaves nothing of one that was taken before. -/
lemma taken_taken (hk : t.node.registry.Numbered) (o o' : Offer) (time time' : Timestamp)
    (w : Front) : t.taken o' time' (t.taken o time w) = t.taken o' time' w := by
  obtain ⟨c, source, hc, hs⟩ := exists_candidate hk o.destination
  obtain ⟨c', source', hc', hs'⟩ := exists_candidate hk o'.destination
  have hplan : (t.plan? source' o'.direction).isSome = (t.plan? source o.direction).isSome :=
    (t.isSome_plan? _ _).trans (t.isSome_plan? _ _).symm
  simp only [taken_of_origin hc hs, taken_of_origin hc' hs', launched]
  -- Only the direction could be left over, but both waves are planned on the same maps.
  cases hp : t.plan? source o.direction with
  | none => rfl
  | some plan =>
    rw [hp, Option.isSome_some] at hplan
    rw [Option.or_of_isSome (by rwa [Option.isSome_map])]
    rw [Option.or_of_isSome (by rwa [Option.isSome_map])]

lemma firstStart_taken (hk : t.node.registry.Numbered) (o : Offer) (time : Timestamp) (w : Front) :
    (t.taken o time w).firstStart = time := by
  obtain ⟨c, source, hc, hs⟩ := exists_candidate hk o.destination
  rw [taken_of_origin hc hs]
  rfl

/-- Of two offers the one that arrives first is taken in the end, whichever is heard of first. -/
lemma respond_comm_of_lt (hk : t.node.registry.Numbered) (h : t.node.arrival? o = some time)
    (h' : t.node.arrival? o' = some time') (hlt : time < time') (w : Front) :
    t.respond (t.respond w o) o' = t.respond (t.respond w o') o := by
  simp only [respond_of_arrival h, respond_of_arrival h']
  -- If the earlier offer is taken, the later one comes too late or is overwritten. If it is not,
  -- then not after the later one either.
  by_cases ht : t.now < time ∧ time < w.firstStart
  · have hlate : ¬ (t.now < time' ∧ time' < (t.taken o time w).firstStart) := by
      rw [firstStart_taken hk]
      exact fun hc => Timestamp.not_lt.2 (Timestamp.le_of_lt hlt) hc.2
    rw [if_pos ht, if_neg hlate]
    split
    · have hearly : t.now < time ∧ time < (t.taken o' time' w).firstStart := by
        rw [firstStart_taken hk]
        exact ⟨ht.1, hlt⟩
      rw [if_pos hearly, taken_taken hk]
    · rfl
  · rw [if_neg ht]
    split
    · rename_i ht'
      refine (if_neg fun hc => ht ⟨hc.1, ?_⟩).symm
      exact Timestamp.lt_of_lt_of_le hlt (Timestamp.le_of_lt ht'.2)
    · rfl

/-- The order of two offers does not matter that do not arrive at the same time. -/
lemma respond_comm (hk : t.node.registry.Numbered)
    (hne : ∀ time, t.node.arrival? o = some time → t.node.arrival? o' ≠ some time) (w : Front) :
    t.respond (t.respond w o) o' = t.respond (t.respond w o') o := by
  cases h : t.node.arrival? o with
  | none => simp only [respond_of_none h]
  | some time =>
    cases h' : t.node.arrival? o' with
    | none => simp only [respond_of_none h']
    | some time' =>
      by_cases hlt : time < time'
      · exact respond_comm_of_lt hk h h' hlt w
      · have hle : time' ≤ time := Timestamp.not_lt.1 hlt
        refine (respond_comm_of_lt hk h' h (Timestamp.not_le.1 fun hle' => ?_) w).symm
        rw [Timestamp.le_antisymm hle hle'] at h'
        exact hne time h h'

lemma foldl_respond_of_perm (hk : t.node.registry.Numbered) {os os' : List Offer}
    (hp : os.Perm os') (hd : (os.filterMap t.node.arrival?).Nodup) (w : Front) :
    os.foldl t.respond w = os'.foldl t.respond w := by
  have hpair : os.Pairwise fun o o' =>
      ∀ time, t.node.arrival? o = some time → t.node.arrival? o' ≠ some time := by
    refine (List.pairwise_filterMap.1 hd).imp ?_
    intro o o' hne time h h'
    exact hne time h time h' rfl
  have : Std.Symm fun o o' : Offer =>
      ∀ time, t.node.arrival? o = some time → t.node.arrival? o' ≠ some time :=
    ⟨fun o o' hne time h h' => hne time h' h⟩
  refine hp.foldl_eq' (fun o ho o' ho' w => ?_) w
  by_cases he : o = o'
  · rw [he]
  · exact respond_comm hk (hpair.forall ho ho' he) w

/-- The first start after an offer is the earlier one of its arrival, if that is later than now, and
of the one that was known before. -/
lemma isLeast_respond (hk : t.node.registry.Numbered) (o : Offer) (w : Front) :
    IsLeast {time | time = w.firstStart ∨ t.node.arrival? o = some time ∧ t.now < time}
      (t.respond w o).firstStart := by
  cases h : t.node.arrival? o with
  | none =>
    rw [respond_of_none h]
    refine ⟨.inl rfl, ?_⟩
    rintro x (rfl | ⟨hx, -⟩)
    · exact Timestamp.le_refl _
    · cases hx
  | some time =>
    rw [respond_of_arrival h]
    by_cases ht : t.now < time ∧ time < w.firstStart
    · rw [if_pos ht, firstStart_taken hk]
      refine ⟨.inr ⟨rfl, ht.1⟩, ?_⟩
      rintro x (rfl | ⟨hx, -⟩)
      · exact Timestamp.le_of_lt ht.2
      · rw [Option.some.inj hx]
        exact Timestamp.le_refl x
    · rw [if_neg ht]
      refine ⟨.inl rfl, ?_⟩
      rintro x (rfl | ⟨hx, hnow⟩)
      · exact Timestamp.le_refl _
      · rw [Option.some.inj hx] at ht
        exact Timestamp.not_lt.1 fun hlt => ht ⟨hnow, hlt⟩

/-- The first start after some offers is the earliest one of their arrivals that are later than now
and of the one that was known before. -/
lemma isLeast_foldl_respond (hk : t.node.registry.Numbered) (os : List Offer) (w : Front) :
    IsLeast {time | time = w.firstStart ∨ ∃ o ∈ os, t.node.arrival? o = some time ∧ t.now < time}
      (os.foldl t.respond w).firstStart := by
  induction os generalizing w with
  | nil =>
    refine ⟨.inl rfl, ?_⟩
    rintro x (rfl | ⟨o, ho, -⟩)
    · exact Timestamp.le_refl _
    · cases ho
  | cons o os ih =>
    obtain ⟨hmem, hlower⟩ := ih (t.respond w o)
    obtain ⟨hmem', hlower'⟩ := isLeast_respond hk o w
    have hfirst := hlower (.inl rfl)
    refine ⟨?_, ?_⟩
    · rcases hmem with he | ⟨o', ho', h⟩
      · rw [List.foldl_cons, he]
        exact hmem'.imp_right fun h => ⟨o, List.mem_cons_self, h⟩
      · exact .inr ⟨o', List.mem_cons_of_mem o ho', h⟩
    · rintro x (rfl | ⟨o', ho', h⟩)
      · exact Timestamp.le_trans hfirst (hlower' (.inl rfl))
      · rcases List.mem_cons.1 ho' with rfl | ho'
        · exact Timestamp.le_trans hfirst (hlower' (.inr h))
        · exact hlower (.inr ⟨o', ho', h⟩)

end Turn

/-! ### Handling offers -/

/-- What a node goes by when it is offered a wave. -/
def Node.outlook (n : Node) : Settings × Record × Registry × Table NodeId DensityMap :=
  (n.settings, n.record, n.registry, n.neighborMaps)

namespace Turn

lemma outlook_launch (t : Turn) (origin : NodeId) (incoming : Vec2) :
    (t.launch origin incoming).node.outlook = t.node.outlook := by
  refine launch_induct (P := fun u => u.node.outlook = t.node.outlook) t origin incoming rfl rfl
    (fun source plan => ?_) fun source plan h => ?_
  · rw [node_planned]
    rfl
  · rw [node_startFirst]
    exact h

lemma respond_congr (hn : u.now = t.now) (ho : u.node.outlook = t.node.outlook) :
    u.respond = t.respond := by
  obtain ⟨now, position, node, outbox⟩ := t
  obtain ⟨now', position', node', outbox'⟩ := u
  cases node
  cases node'
  simp only [Node.outlook, Prod.mk.injEq] at hn ho
  obtain ⟨rfl, rfl, rfl, rfl⟩ := ho
  subst hn
  rfl

lemma front_considerOffer (hk : t.node.registry.Numbered) (o : Offer) :
    (t.considerOffer o.source o.destination o.direction o.startTime).node.front =
      t.respond t.node.front o := by
  obtain ⟨c, source, hc, hs⟩ := exists_candidate hk o.destination
  have harrival : t.node.arrival? o =
      arrival? t.node o.source c.place o.direction o.startTime := by rw [Node.arrival?, hc]; rfl
  simp only [considerOffer, hc]
  rw [← harrival]
  cases h : t.node.arrival? o with
  | none => rw [respond_of_none h]
  | some time =>
    rw [respond_of_arrival h]
    by_cases ht : t.now < time ∧ time < t.node.schedule.firstStart
    · have hlaunch := front_launch (t := t.setSchedule
        { t.node.schedule with firstStart := time, firstNode := some c.id }) hs o.direction
      simp only [Schedule.relaxFirstStart, if_pos ht, if_true]
      rw [hlaunch]
      simp only [Node.front, if_pos ht, taken_of_origin hc hs]
      rfl
    · simp only [Schedule.relaxFirstStart, if_neg ht, Bool.false_eq_true, if_false]
      exact (if_neg ht).symm

lemma outlook_considerOffer (t : Turn) (o : Offer) :
    (t.considerOffer o.source o.destination o.direction o.startTime).node.outlook =
      t.node.outlook := by
  simp only [considerOffer]
  split
  · rfl
  · split
    · rfl
    · split
      · exact outlook_launch _ _ _
      · rfl

/-- A head that is offered a wave responds, and it still goes by the same. -/
lemma onMessage_of_offer {m : Message} (sender : NodeId) (hm : m.offer? = some o)
    (hh : t.node.record.isHead) (hk : t.node.registry.Numbered) :
    (t.onMessage sender m).now = t.now ∧ (t.onMessage sender m).node.outlook = t.node.outlook ∧
      (t.onMessage sender m).node.front = t.respond t.node.front o := by
  obtain ⟨seq, cluster, rfl⟩ := Message.eq_of_offer? hm
  let u : Turn := t.send cluster (.ack seq t.node.ackName .interCluster)
  have hresponse : t.onMessage sender (.interCluster seq cluster o.source o.destination
      o.direction o.startTime) =
        u.considerOffer o.source o.destination o.direction o.startTime := if_pos hh
  refine ⟨(Beside.onInterCluster t seq cluster _ _ _ _).now, ?_, ?_⟩ <;> rw [hresponse]
  · exact u.outlook_considerOffer o
  · have hcongr : u.respond = t.respond := respond_congr (t := t) rfl rfl
    rw [← hcongr]
    exact u.front_considerOffer hk o

/-- A head that is offered some waves responds to one after the other. -/
lemma onMessages_of_offers {ms : List Message} (sender : NodeId)
    (hms : ∀ m ∈ ms, m.kind = .interCluster) (hh : t.node.record.isHead)
    (hk : t.node.registry.Numbered) (hn : u.now = t.now) (ho : u.node.outlook = t.node.outlook) :
    (ms.foldl (onMessage sender) u).node.outlook = t.node.outlook ∧
      (ms.foldl (onMessage sender) u).node.front =
        (ms.filterMap Message.offer?).foldl t.respond u.node.front := by
  induction ms generalizing u with
  | nil => exact ⟨ho, rfl⟩
  | cons m ms ih =>
    obtain ⟨o, hm⟩ := Message.exists_offer (hms m List.mem_cons_self)
    have hrecord : u.node.record = t.node.record := congrArg (·.2.1) ho
    have hregistry : u.node.registry = t.node.registry := congrArg (·.2.2.1) ho
    obtain ⟨hn', ho', hf⟩ := onMessage_of_offer (t := u) sender hm (hrecord ▸ hh) (hregistry ▸ hk)
    rw [respond_congr hn ho] at hf
    have hrest := ih (fun m' hm' => hms m' (List.mem_cons_of_mem m hm')) (hn'.trans hn)
      (ho'.trans ho)
    rw [hf] at hrest
    rw [List.foldl_cons, List.filterMap_cons_some hm, List.foldl_cons]
    exact hrest

/-! ### Offers that are not taken -/

lemma considerOffer_of_not_takes (h : ¬ t.node.Takes t.now o) :
    t.considerOffer o.source o.destination o.direction o.startTime = t := by
  simp only [considerOffer]
  split
  · rfl
  · rename_i c hc
    split
    · rfl
    · rename_i time htime
      have hlate : ¬ (t.now < time ∧ time < t.node.schedule.firstStart) := by
        refine fun ht => h ⟨time, ?_, ht⟩
        rw [Node.arrival?, hc]
        exact htime
      rw [Schedule.relaxFirstStart, if_neg hlate]
      rfl

/-- An offer that is not taken is acknowledged, and nothing but the counters changes. -/
lemma onMessage_of_not_takes {m : Message} (sender : NodeId) (hm : m.offer? = some o)
    (h : ¬ t.node.Takes t.now o) :
    ∃ outbox, t.onMessage sender m = { t.countPacket with outbox } := by
  obtain ⟨seq, cluster, rfl⟩ := Message.eq_of_offer? hm
  let u : Turn := t.send cluster (.ack seq t.node.ackName .interCluster)
  refine ⟨u.outbox, ?_⟩
  show (if u.node.record.isHead then
    u.considerOffer o.source o.destination o.direction o.startTime else u) = u
  have hu : ¬ u.node.Takes u.now o := h
  rw [considerOffer_of_not_takes hu, ite_self]

lemma onMessages_of_not_takes {ms : List Message} (sender : NodeId)
    (hms : ∀ m ∈ ms, m.kind = .interCluster)
    (h : ∀ o ∈ ms.filterMap Message.offer?, ¬ t.node.Takes t.now o) :
    ∃ counters, (ms.foldl (onMessage sender) t).node = { t.node with counters } := by
  induction ms generalizing t with
  | nil => exact ⟨t.node.counters, rfl⟩
  | cons m ms ih =>
    obtain ⟨o, hm⟩ := Message.exists_offer (hms m List.mem_cons_self)
    rw [List.filterMap_cons_some hm] at h
    obtain ⟨outbox, he⟩ := onMessage_of_not_takes sender hm (h o List.mem_cons_self)
    rw [List.foldl_cons, he]
    exact ih (fun m' hm' => hms m' (List.mem_cons_of_mem m hm'))
      fun o' ho' => h o' (List.mem_cons_of_mem o ho')

end Turn

/-! ### Visits -/

namespace Node

lemma outlook_located {n n' : Node} (h : n'.outlook = n.outlook) (now : Timestamp)
    (position : Vec3) :
    (n'.located now position).outlook = (n.located now position).outlook := by
  simp only [outlook, Prod.mk.injEq] at h
  obtain ⟨hs, hr, hg, hm⟩ := h
  simp only [outlook, located, hs, hr, hg, hm]

/-- The turn in which a node has taken time and place into its record. -/
def settled (n : Node) (now : Timestamp) (position : Vec3) : Turn :=
  Turn.start (n.located now position) now position 0

/-- In a visit with offers a head responds to one after the other. -/
lemma visit_of_delivers {n' : Node} (hv : v.Delivers now position) (hh : n.record.isHead)
    (hk : n.registry.Numbered)
    (ho : (n'.located now position).outlook = (n.located now position).outlook) :
    (n'.visit v).node.outlook = (n.located now position).outlook ∧
      (n'.visit v).node.front = v.offers.foldl (n.settled now position).respond n'.front := by
  obtain ⟨rfl, rfl, ⟨sender, packet, hcall⟩, hms⟩ := hv
  have hmessages : v.messages = packet.messages := by rw [Visit.messages, hcall]
  rw [hmessages] at hms
  rw [n'.visit_of_packet hcall, Turn.node_noteRole, Visit.offers, hmessages]
  exact Turn.onMessages_of_offers (t := n.settled v.now v.position)
    (u := (Turn.start n' v.now v.position v.nextHandle).receive) sender hms hh hk rfl ho

/-- A head responds to the offers of some visits one after the other. -/
lemma front_after {n' : Node} (hv : ∀ v ∈ vs, v.Delivers now position) (hh : n.record.isHead)
    (hk : n.registry.Numbered)
    (ho : (n'.located now position).outlook = (n.located now position).outlook) :
    (n'.after vs).front =
      (vs.flatMap Visit.offers).foldl (n.settled now position).respond n'.front := by
  induction vs generalizing n' with
  | nil => rfl
  | cons v vs ih =>
    obtain ⟨ho', hf⟩ := visit_of_delivers (hv v List.mem_cons_self) hh hk ho
    rw [after_cons, List.flatMap_cons, List.foldl_append, ← hf]
    exact ih (fun v' hv' => hv v' (List.mem_cons_of_mem v hv')) (outlook_located ho' now position)

/-- In every run, a head responds to the offers that follow one after the other. -/
lemma IsNew.front_after (hn : n₀.IsNew) (us : List Visit) (hh : (n₀.after us).record.isHead)
    (hv : ∀ v ∈ vs, v.Delivers now position) : (n₀.after (us ++ vs)).front =
      (vs.flatMap Visit.offers).foldl ((n₀.after us).settled now position).respond
        (n₀.after us).front := by
  rw [after_append]
  exact Node.front_after hv hh (hn.numbered us) rfl

/-- Offers that are not taken leave the node as it is, apart from the time and the place in its
record and its counters. -/
lemma visit_of_not_takes (hv : v.Delivers now position)
    (h : ∀ o ∈ v.offers, ¬ (n.located now position).Takes now o) :
    ∃ counters, (n.visit v).node = { n.located now position with counters } := by
  obtain ⟨rfl, rfl, ⟨sender, packet, hcall⟩, hms⟩ := hv
  have hmessages : v.messages = packet.messages := by rw [Visit.messages, hcall]
  rw [Visit.offers, hmessages] at h
  rw [hmessages] at hms
  obtain ⟨counters, he⟩ := Turn.onMessages_of_not_takes
    (t := (Turn.start n v.now v.position v.nextHandle).receive) sender hms h
  rw [n.visit_of_packet hcall, Turn.node_noteRole]
  refine ⟨(n.visit v).node.counters, ?_⟩
  rw [he, n.visit_of_packet hcall]
  rfl

/-- Whatever a head has been through, the order does not matter in which some offers arrive at one
time and place, provided that no two of their waves arrive at the same time: it knows of the same
first start, first node and direction in the end, and makes the same offers itself. The first start
is the earliest one of the arrivals that are later than now and of the one that was known before.
Offers that are not taken leave the node as it is, apart from the time and the place in its record
and its counters. -/
theorem order_of_offers_does_not_matter (hn : n₀.IsNew) (us : List Visit)
    (hh : (n₀.after us).record.isHead) (hv : ∀ v ∈ vs, v.Delivers now position)
    (hv' : ∀ v ∈ vs', v.Delivers now position)
    (hp : (vs.flatMap Visit.offers).Perm (vs'.flatMap Visit.offers))
    (hd : ((vs.flatMap Visit.offers).filterMap
      ((n₀.after us).located now position).arrival?).Nodup) :
    (n₀.after (us ++ vs)).front = (n₀.after (us ++ vs')).front ∧
      IsLeast {time | time = (n₀.after us).schedule.firstStart ∨ ∃ o ∈ vs.flatMap Visit.offers,
        ((n₀.after us).located now position).arrival? o = some time ∧ now < time}
        (n₀.after (us ++ vs)).schedule.firstStart ∧
      ∀ v, v.Delivers now position →
        (∀ o ∈ v.offers, ¬ ((n₀.after us).located now position).Takes now o) →
        ∃ counters, ((n₀.after us).visit v).node =
          { (n₀.after us).located now position with counters } := by
  have hk : ((n₀.after us).settled now position).node.registry.Numbered := hn.numbered us
  have hfront := hn.front_after us hh hv
  refine ⟨?_, ?_, fun v => visit_of_not_takes⟩
  · rw [hfront, hn.front_after us hh hv']
    exact Turn.foldl_respond_of_perm hk hp hd _
  · have hleast := Turn.isLeast_foldl_respond hk (vs.flatMap Visit.offers) (n₀.after us).front
    rw [← hfront] at hleast
    exact hleast

end Node

/-! ### One other cluster -/

/-- The start in the pending offer to a peer. -/
def Front.offeredStart? (w : Front) (peer : NodeId) : Option Timestamp :=
  (w.offers peer).bind fun o => o.1.startTime?

/-- The sector ahead of a wave. -/
def Turn.ahead (t : Turn) (source incoming : Vec2) : Sector :=
  ⟨source, incoming, t.node.settings.candidateRadius, t.node.settings.sectorAngle⟩

lemma Plan.forward?_of_lone_cell {target : Target} {place : Vec2}
    (h : target.map.densePositions? target.head = some [place]) (s : Sector) :
    forward? s target = some (if s.contains place then
      some ⟨target.cluster, place, ((place - s.apex).resize? s.axis.norm).getD s.axis⟩
    else none) := by
  rw [forward?, h, Option.map_some, List.filter_cons, List.filter_nil]
  split <;> rfl

/-- A wave is offered to the only other cluster exactly if its only dense cell lies ahead. -/
lemma Turn.offeredStart?_launched {target : Target} {place : Vec2} (ht : t.targets = [target])
    (hp : target.map.densePositions? target.head = some [place]) (source incoming : Vec2)
    (w : Front) : (t.launched source incoming w).offeredStart? target.cluster =
      if (t.ahead source incoming).contains place then some w.firstStart else none := by
  have hforward := Plan.forward?_of_lone_cell hp (t.ahead source incoming)
  rw [Turn.ahead] at hforward ⊢
  rw [launched, plan?, Plan.make?, ht, List.mapM_cons, List.mapM_nil, hforward]
  by_cases hin : (⟨source, incoming, t.node.settings.candidateRadius,
      t.node.settings.sectorAngle⟩ : Sector).contains place
  · rw [if_pos hin, if_pos hin]
    simp [Front.offeredStart?, offersOf, Message.startTime?]
  · rw [if_neg hin, if_neg hin]
    rfl

/-- An offer that is taken is passed on with its own start, exactly if that cell lies ahead, whatever
was offered before. -/
lemma Turn.offeredStart?_respond {target : Target} {place source : Vec2} {c : Record} {w : Front}
    (ht : t.targets = [target]) (hp : target.map.densePositions? target.head = some [place])
    (hc : candidate? t.node o.destination = some c) (hs : t.origin? c.id = some source)
    (ha : t.node.arrival? o = some time) (hlt : t.now < time ∧ time < w.firstStart) :
    (t.respond w o).firstStart = time ∧ (t.respond w o).offeredStart? target.cluster =
      if (t.ahead source o.direction).contains place then some time else none := by
  rw [respond_of_arrival ha, if_pos hlt, taken_of_origin hc hs]
  exact ⟨rfl, offeredStart?_launched ht hp source o.direction _⟩

namespace Node

open Visit (rings hears)

/-- The map of another cluster, with a single dense cell south of its head. -/
def southernMap : DensityMap :=
  ⟨⟨2, Binary64.one⟩, [Binary64.zero, Binary64.two, Binary64.zero, Binary64.zero]⟩

/-- The visits of a node that is asked to form a cluster and learns of another one. -/
def leadingVisits : List Visit :=
  [⟨.start, Vec3.zero, 1, .start⟩, ⟨.start, Vec3.zero, 3, .formCluster⟩, rings 0 4 .send,
    hears 5 6 ⟨7⟩ (.densityMap 1 ⟨7⟩ (Record.lone ⟨7⟩ Vec3.zero .start).becomeHead southernMap)]

def southward : Vec2 := ⟨.zero, ⟨0xc059000000000000⟩⟩

/-- A wave that starts where the head is, after some seconds, and goes south. -/
def southernOffer (seconds : UInt64) : Offer := ⟨.zero, .zero, southward, .ofSecs seconds⟩

/-- The visit with an offer of that wave. -/
def offerAfter (seconds : UInt64) : Visit :=
  hears 10 6 ⟨40⟩ (.interCluster 1 ⟨40⟩ .zero .zero southward (.ofSecs seconds))

lemma delivers_offerAfter (seconds : UInt64) :
    (offerAfter seconds).Delivers (.ofMillis 10) Vec3.zero := by
  refine ⟨rfl, rfl, ⟨_, _, rfl⟩, fun m hm => ?_⟩
  rw [List.mem_singleton.1 hm]
  rfl

/-- What lies ahead of that wave. -/
def southernSector : Sector :=
  ⟨Vec2.zero, southward, Settings.standard.candidateRadius, Settings.standard.sectorAngle⟩

/-- A head that has formed its cluster takes the earlier one of two offers, in either order. It makes
an offer to the other cluster itself if the dense cell of that lies ahead, and a new one in its place
when the earlier offer comes second. Proofs do not compute the sines and cosines that tell whether
the cell lies ahead, so this is left open. -/
theorem either_order_of_two_offers : ∃ n₀ : Node, n₀.IsNew ∧
    (n₀.after leadingVisits).record.isHead ∧
      (n₀.after (leadingVisits ++ [offerAfter 5, offerAfter 3])).schedule.firstStart = .ofSecs 3 ∧
      (n₀.after (leadingVisits ++ [offerAfter 5, offerAfter 3])).front =
        (n₀.after (leadingVisits ++ [offerAfter 3, offerAfter 5])).front ∧
      (n₀.after (leadingVisits ++ [offerAfter 5])).front.offeredStart? ⟨7⟩ =
        (if southernSector.contains ⟨.zero, -Binary64.one⟩ then some (.ofSecs 5) else none) ∧
      (n₀.after (leadingVisits ++ [offerAfter 5, offerAfter 3])).front.offeredStart? ⟨7⟩ =
        (if southernSector.contains ⟨.zero, -Binary64.one⟩ then some (.ofSecs 3) else none) := by
  have hrun : ((Node.create ⟨1⟩ .standard false none).toOption.any fun n₀ =>
      let n := n₀.after leadingVisits
      let t := n.settled (.ofMillis 10) Vec3.zero
      n.record.isHead && n.settings = .standard && n.schedule.firstStart = .never &&
      (([offerAfter 5, offerAfter 3].flatMap Visit.offers).filterMap
        (n.located (.ofMillis 10) Vec3.zero).arrival?).Nodup &&
      t.node.arrival? (southernOffer 5) = some (.ofSecs 5) &&
      t.node.arrival? (southernOffer 3) = some (.ofSecs 3) &&
      ((Turn.candidate? t.node .zero).bind fun c => t.origin? c.id) = some .zero &&
      t.targets.length = 1 && t.targets.all fun target => target.cluster = ⟨7⟩ &&
        target.map.densePositions? target.head = some [⟨.zero, -Binary64.one⟩]) = true := by
    decide +kernel
  simp only [Option.any_eq_true, Bool.and_eq_true, decide_eq_true_eq, List.all_eq_true] at hrun
  obtain ⟨n₀, hn, ⟨⟨⟨⟨⟨⟨⟨hh, hset⟩, hnever⟩, hd⟩, ha5⟩, ha3⟩, horigin⟩, hone⟩, hall⟩ := hrun
  have hnew : n₀.IsNew := .of_toOption hn
  let n := n₀.after leadingVisits
  let t := n.settled (.ofMillis 10) Vec3.zero
  obtain ⟨c, hc, hs⟩ := Option.bind_eq_some_iff.1 horigin
  obtain ⟨target, ht⟩ := List.length_eq_one_iff.1 hone
  rw [ht] at hall
  obtain ⟨hcluster, hp⟩ := hall target List.mem_cons_self
  have hahead : t.ahead Vec2.zero southward = southernSector := by
    show (⟨_, _, n.settings.candidateRadius, n.settings.sectorAngle⟩ : Sector) = southernSector
    rw [hset]
    rfl
  have hv : ∀ v ∈ [offerAfter 5, offerAfter 3], v.Delivers (.ofMillis 10) Vec3.zero := by
    simp [delivers_offerAfter]
  have hv' : ∀ v ∈ [offerAfter 3, offerAfter 5], v.Delivers (.ofMillis 10) Vec3.zero := by
    simp [delivers_offerAfter]
  have hlate : (n₀.after (leadingVisits ++ [offerAfter 5])).front =
      t.respond n.front (southernOffer 5) :=
    hnew.front_after leadingVisits hh (List.forall_mem_singleton.2 (delivers_offerAfter 5))
  have hboth : (n₀.after (leadingVisits ++ [offerAfter 5, offerAfter 3])).front =
      t.respond (t.respond n.front (southernOffer 5)) (southernOffer 3) :=
    hnew.front_after leadingVisits hh hv
  have hlt5 : Timestamp.ofMillis 10 < .ofSecs 5 ∧ Timestamp.ofSecs 5 < n.front.firstStart := by
    refine ⟨by decide, ?_⟩
    rw [firstStart_front, hnever]
    decide
  obtain ⟨hstart, hlate'⟩ := Turn.offeredStart?_respond (t := t) (o := southernOffer 5)
    (w := n.front) ht hp hc hs ha5 hlt5
  have hlt3 : Timestamp.ofMillis 10 < .ofSecs 3 ∧
      Timestamp.ofSecs 3 < (t.respond n.front (southernOffer 5)).firstStart := by
    refine ⟨by decide, ?_⟩
    rw [hstart]
    decide
  obtain ⟨hstart', hboth'⟩ := Turn.offeredStart?_respond (t := t) (o := southernOffer 3)
    (w := t.respond n.front (southernOffer 5)) ht hp hc hs ha3 hlt3
  rw [hcluster] at hlate' hboth'
  refine ⟨n₀, hnew, hh, ?_, ?_, ?_, ?_⟩
  · rw [← firstStart_front, hboth, hstart']
  · exact (order_of_offers_does_not_matter hnew leadingVisits hh hv hv' (.swap _ _ []) hd).1
  · rw [hlate, hlate', southernOffer, hahead]
  · rw [hboth, hboth', southernOffer, hahead]

end Node

end ClusterWave
