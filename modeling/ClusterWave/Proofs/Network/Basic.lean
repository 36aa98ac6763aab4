import ClusterWave.Proofs.Bench.Attend

/-!
# Networks

Any number of nodes, each at a bench that behaves well, exchange packets. A packet goes to every
other node if it is broadcast. Packets may take any time, overtake each other or get lost, but they
arrive as they were sent, and no more often.
-/

namespace ClusterWave

/-- A packet on its way. -/
structure Parcel where
  sender : NodeId
  receiver : NodeId
  packet : Packet
deriving DecidableEq

/-- A visit that took place, and the node before it. -/
structure Deed where
  id : NodeId
  before : Node
  visit : Visit
deriving DecidableEq

structure Network where
  benches : Table NodeId Bench
  /-- The packets that have neither arrived nor got lost. -/
  flying : List Parcel
  /-- What took place, last visit first. -/
  log : List Deed
deriving DecidableEq

/-- What may happen in a network. -/
inductive Act where
  | visit (id : NodeId) (v : Visit)
  /-- A packet gets lost. -/
  | lose (p : Parcel)
deriving DecidableEq

/-- The parcels into which an effect puts its packet, if it has one. -/
def Effect.parcels (sender : NodeId) (ids : List NodeId) : Effect → List Parcel
  | .broadcast packet => (ids.filter (· ≠ sender)).map fun id => ⟨sender, id, packet⟩
  | .send peer packet => [⟨sender, peer, packet⟩]
  | _ => []

namespace Network

/-- The packets that go on when a node is visited: a packet that it handles has arrived. -/
def arrive? (net : Network) (id : NodeId) (v : Visit) : Option (List Parcel) :=
  match v.call with
  | .packet sender packet =>
    if ⟨sender, id, packet⟩ ∈ net.flying then some (net.flying.erase ⟨sender, id, packet⟩)
    else none
  | _ => some net.flying

/-- What a visit sends off. -/
def sent (net : Network) (id : NodeId) (n : Node) (v : Visit) : List Parcel :=
  (n.visit v).outbox.effects.flatMap (Effect.parcels id net.benches.keys)

/-- Let something happen, if it can. -/
def step? (net : Network) : Act → Option Network
  | .lose p => if p ∈ net.flying then some { net with flying := net.flying.erase p } else none
  | .visit id v => do
    let b ← net.benches.get? id
    let flying ← net.arrive? id v
    let b' ← b.attend? v
    some
      { benches := net.benches.insert id b'
        flying := flying ++ net.sent id b.node v
        log := ⟨id, b.node, v⟩ :: net.log }

/-- Let things happen, first act first. -/
def run? (net : Network) (acts : List Act) : Option Network := acts.foldlM step? net

/-- Nothing has happened yet: every node is new, under its own number, and no packet is on its
way. -/
structure IsNew (net : Network) : Prop where
  nodes : ∀ id b, net.benches.get? id = some b → b.node.IsNew ∧ b.node.id = id ∧ b.alarms = []
  flying : net.flying = []
  log : net.log = []

/-- Some nodes to which nothing has happened yet. -/
def setUp (nodes : List Node) : Network where
  benches := nodes.foldr (fun n benches => benches.insert n.id (Bench.setUp n Vec3.zero)) .empty
  flying := []
  log := []

lemma mem_of_setUp {nodes : List Node} {id : NodeId} {b : Bench}
    (h : (setUp nodes).benches.get? id = some b) :
    ∃ n ∈ nodes, n.id = id ∧ b = Bench.setUp n Vec3.zero := by
  induction nodes with
  | nil => cases h
  | cons n nodes ih =>
    have h' : ((setUp nodes).benches.insert n.id (Bench.setUp n Vec3.zero)).get? id = some b := h
    rcases Table.of_get?_insert h' with ⟨he, hb⟩ | ⟨-, h'⟩
    · exact ⟨n, List.mem_cons_self, he.symm, hb⟩
    · obtain ⟨m, hm, hb⟩ := ih h'
      exact ⟨m, List.mem_cons_of_mem n hm, hb⟩

lemma isNew_setUp {nodes : List Node} (h : ∀ n ∈ nodes, n.IsNew) : (setUp nodes).IsNew := by
  refine ⟨fun id b hb => ?_, rfl, rfl⟩
  obtain ⟨n, hn, he, rfl⟩ := mem_of_setUp hb
  exact ⟨h n hn, he, rfl⟩

lemma isNew_pair {n n' : Node} {id id' : NodeId} {s s' : Settings} {isStarter isStarter' : Bool}
    {velocity velocity' : Option Vec2}
    (h : (Node.create id s isStarter velocity).toOption = some n)
    (h' : (Node.create id' s' isStarter' velocity').toOption = some n') :
    (setUp [n, n']).IsNew := by
  refine isNew_setUp fun m hm => ?_
  rw [List.mem_cons, List.mem_singleton] at hm
  rcases hm with rfl | rfl
  · exact .of_toOption h
  · exact .of_toOption h'

/-- What a visit makes of a network. -/
structure Visited (net : Network) (id : NodeId) (b b' : Bench) (v : Visit) (net' : Network) :
    Prop where
  bench : net.benches.get? id = some b
  attended : b.Attended v b'
  arrived : ∀ sender packet, v.call = .packet sender packet →
    ⟨sender, id, packet⟩ ∈ net.flying
  benches : net'.benches = net.benches.insert id b'
  flying : ∀ p ∈ net'.flying, p ∈ net.flying ∨ p ∈ net.sent id b.node v
  log : net'.log = ⟨id, b.node, v⟩ :: net.log

variable {net net' : Network} {id : NodeId} {v : Visit}

lemma mem_arrive? {flying : List Parcel} (h : net.arrive? id v = some flying) :
    (∀ p ∈ flying, p ∈ net.flying) ∧
      ∀ sender packet, v.call = .packet sender packet → ⟨sender, id, packet⟩ ∈ net.flying := by
  simp only [arrive?] at h
  split at h
  · rename_i sender packet hv
    split at h
    · rename_i hm
      cases h
      refine ⟨fun p hp => List.mem_of_mem_erase hp, fun sender' packet' hv' => ?_⟩
      obtain ⟨rfl, rfl⟩ := Call.packet.inj (hv.symm.trans hv')
      exact hm
    · cases h
  · rename_i hv
    cases h
    exact ⟨fun p hp => hp, fun sender packet hv' => absurd hv' (hv sender packet)⟩

lemma visited (h : net.step? (.visit id v) = some net') :
    ∃ b b', net.Visited id b b' v net' := by
  simp only [step?, Option.bind_eq_bind, Option.bind_eq_some_iff, Option.some.injEq] at h
  obtain ⟨b, hb, flying, hf, b', hb', rfl⟩ := h
  obtain ⟨hsub, hp⟩ := mem_arrive? hf
  exact ⟨b, b', hb, Bench.attended hb', hp, rfl,
    fun p hp => (List.mem_append.1 hp).imp_left (hsub p), rfl⟩

lemma lost {p : Parcel} (h : net.step? (.lose p) = some net') :
    p ∈ net.flying ∧ net' = { net with flying := net.flying.erase p } := by
  have h' : (if p ∈ net.flying then some { net with flying := net.flying.erase p } else none) =
      some net' := h
  split at h'
  · rename_i hp
    exact ⟨hp, (Option.some.inj h').symm⟩
  · cases h'

lemma mem_of_lost {p : Parcel} (h : net.step? (.lose p) = some net') :
    net'.benches = net.benches ∧ net'.log = net.log ∧ ∀ q ∈ net'.flying, q ∈ net.flying := by
  obtain ⟨-, rfl⟩ := lost h
  exact ⟨rfl, rfl, fun q hq => List.mem_of_mem_erase hq⟩

/-- What every act keeps, a run keeps. -/
lemma run?_preserves {P : Network → Prop} {acts : List Act} (h : net.run? acts = some net')
    (h₀ : P net) (step : ∀ net net' a, P net → net.step? a = some net' → P net') : P net' := by
  induction acts generalizing net with
  | nil => exact (Option.some.inj h) ▸ h₀
  | cons a acts ih =>
    have hr : net.run? (a :: acts) = (net.step? a).bind fun net => net.run? acts := rfl
    rw [hr, Option.bind_eq_some_iff] at h
    obtain ⟨mid, hm, h⟩ := h
    exact ih h (step net mid a h₀ hm)

/-- What every visit and every loss keeps, a run keeps. -/
lemma run?_induct {P : Network → Prop} {acts : List Act} (h : net.run? acts = some net')
    (h₀ : P net)
    (lose : ∀ net net', P net → net'.benches = net.benches → net'.log = net.log →
      (∀ p ∈ net'.flying, p ∈ net.flying) → P net')
    (visit : ∀ net net' id b b' v, P net → net.Visited id b b' v net' → P net') : P net' := by
  refine run?_preserves h h₀ fun net net' a hp hs => ?_
  cases a with
  | lose p =>
    obtain ⟨hb, hl, hf⟩ := mem_of_lost hs
    exact lose net net' hp hb hl hf
  | visit id v =>
    obtain ⟨b, b', hv⟩ := visited hs
    exact visit net net' id b b' v hp hv

/-- A bench was there before a visit, or it is the one that was visited. -/
lemma Visited.get? {b b' c : Bench} (h : net.Visited id b b' v net') {id' : NodeId}
    (hc : net'.benches.get? id' = some c) :
    net.benches.get? id' = some c ∧ id' ≠ id ∨ id' = id ∧ c = b' := by
  rw [h.benches] at hc
  rcases Table.of_get?_insert hc with ⟨he, rfl⟩ | ⟨he, hc⟩
  · exact .inr ⟨he, rfl⟩
  · exact .inl ⟨hc, he⟩

end Network

/-! ### What was sent -/

lemma Effect.mem_parcels {sender : NodeId} {ids : List NodeId} {e : Effect} {p : Parcel}
    (h : p ∈ e.parcels sender ids) : p.sender = sender ∧ e.messages = p.packet.messages ∧
      ∀ peer packet, e = .send peer packet → peer = p.receiver := by
  cases e with
  | broadcast packet =>
    obtain ⟨id, -, rfl⟩ := List.mem_map.1 h
    exact ⟨rfl, rfl, fun _ _ he => Effect.noConfusion he⟩
  | send peer packet =>
    rw [List.mem_singleton.1 h]
    exact ⟨rfl, rfl, fun _ _ he => (Effect.send.inj he).1.symm⟩
  | schedule => cases h
  | cancel => cases h

/-- A packet that a visit sends off comes from an effect of the visit. -/
lemma Network.mem_sent {net : Network} {id : NodeId} {n : Node} {v : Visit} {p : Parcel}
    (h : p ∈ net.sent id n v) :
    p.sender = id ∧ ∃ e ∈ (n.visit v).outbox.effects, e.messages = p.packet.messages ∧
      ∀ peer packet, e = .send peer packet → peer = p.receiver := by
  obtain ⟨e, he, hp⟩ := List.mem_flatMap.1 h
  obtain ⟨hs, hm⟩ := Effect.mem_parcels hp
  exact ⟨hs, e, he, hm⟩

end ClusterWave
