import ClusterWave.Proofs.Bench.Serve
import ClusterWave.Proofs.Network.Acknowledgment
import ClusterWave.Proofs.Node.Maps

/-!
# Agreement on maps

A cluster has one map for all: the one that its head drew when clustering ended. Whoever keeps a map
for the cluster keeps this one, and every copy that is pending or on its way is one of it, however
late packets and timers come, in whatever order, and however many of them get lost.
-/

namespace ClusterWave

namespace Network

/-! ### Any interleaving -/

/-- What a visit makes of a network in which the benches serve, without being punctual. Packets may
get lost at any time, or be doubled, but none comes from nowhere. -/
structure Served (net : Network) (id : NodeId) (b b' : Bench) (v : Visit) (net' : Network) :
    Prop where
  bench : net.benches.get? id = some b
  served : b.Serves v b'
  arrived : ∀ sender packet, v.call = .packet sender packet →
    ⟨sender, id, packet⟩ ∈ net.flying
  benches : net'.benches = net.benches.insert id b'
  flying : ∀ p ∈ net'.flying, p ∈ net.flying ∨ p ∈ net.sent id b.node v
  log : net'.log = ⟨id, b.node, v⟩ :: net.log

/-- The networks that come about as nodes are visited one after the other, in any order. -/
inductive Reaches (net₀ : Network) : Network → Prop where
  | refl : Reaches net₀ net₀
  | lose {net net' : Network} (h : Reaches net₀ net) (hb : net'.benches = net.benches)
      (hl : net'.log = net.log) (hf : ∀ p ∈ net'.flying, p ∈ net.flying) : Reaches net₀ net'
  | visit {net net' : Network} {id : NodeId} {b b' : Bench} {v : Visit} (h : Reaches net₀ net)
      (hv : net.Served id b b' v net') : Reaches net₀ net'

variable {net net' net₀ : Network} {id c : NodeId} {b b' : Bench} {v : Visit} {m : DensityMap}

lemma served (h : net.step? (.visit id v) = some net') : ∃ b b', net.Served id b b' v net' := by
  simp only [step?, Option.bind_eq_bind, Option.bind_eq_some_iff, Option.some.injEq] at h
  obtain ⟨b, hb, flying, hf, b', hb', rfl⟩ := h
  obtain ⟨hsub, hp⟩ := mem_arrive? hf
  exact ⟨b, b', hb, .of_attend? hb', hp, rfl,
    fun p hp => (List.mem_append.1 hp).imp_left (hsub p), rfl⟩

/-- A network with punctual benches is among them. -/
lemma Reaches.of_run? {acts : List Act} (h : net.run? acts = some net') : net.Reaches net' := by
  refine run?_preserves h .refl fun mid mid' a hr hs => ?_
  cases a with
  | lose p =>
    obtain ⟨hb, hl, hf⟩ := mem_of_lost hs
    exact .lose hr hb hl hf
  | visit id v =>
    obtain ⟨b, b', hv⟩ := served hs
    exact .visit hr hv

lemma Served.get? {d : Bench} (h : net.Served id b b' v net') {id' : NodeId}
    (hd : net'.benches.get? id' = some d) :
    net.benches.get? id' = some d ∧ id' ≠ id ∨ id' = id ∧ d = b' := by
  rw [h.benches] at hd
  rcases Table.of_get?_insert hd with ⟨he, rfl⟩ | ⟨he, hd⟩
  · exact .inr ⟨he, rfl⟩
  · exact .inl ⟨hd, he⟩

/-! ### Whose map it is -/

/-- How often the end of clustering has come for a node. -/
def stops (net : Network) (id : NodeId) : Nat :=
  net.log.countP fun d => d.id = id ∧ d.visit.call = .timer .stop

/-- The own map of a node. -/
def Owns (net : Network) (id : NodeId) (m : DensityMap) : Prop :=
  ∃ b, net.benches.get? id = some b ∧ b.node.ownMap = some m

/-- All maps that are around are own maps of the nodes under whose names they go. -/
structure Agrees (net : Network) : Prop where
  ids : ∀ id b, net.benches.get? id = some b → b.node.id = id
  /-- A map is drawn at the end of clustering only. -/
  undrawn : ∀ id b, net.benches.get? id = some b → net.stops id = 0 → b.node.ownMap = none
  kept : ∀ id b c m, net.benches.get? id = some b → b.node.neighborMaps.get? c = some m →
    net.Owns c m
  pending : ∀ id b, net.benches.get? id = some b →
    ∀ key p, b.node.reliable.pending.get? key = some p →
      ∀ seq c r m, p.message = .densityMap seq c r m → c = id ∧ net.Owns c m
  flying : ∀ p ∈ net.flying, ∀ seq c r m, .densityMap seq c r m ∈ p.packet.messages →
    net.Owns c m

lemma IsNew.agrees (h : net.IsNew) : net.Agrees := by
  obtain ⟨hn, hf, -⟩ := h
  constructor
  · intro id b hb
    exact (hn id b hb).2.1
  · intro id b hb _
    exact (hn id b hb).1.maps.1
  · intro id b c m hb hk
    rw [(hn id b hb).1.maps.2] at hk
    cases hk
  · intro id b hb key p hk
    rw [(hn id b hb).1.blank.2.1] at hk
    cases hk
  · rw [hf]
    exact List.forall_mem_nil _

lemma Agrees.lose (h : net.Agrees) (hb : net'.benches = net.benches) (hl : net'.log = net.log)
    (hf : ∀ p ∈ net'.flying, p ∈ net.flying) : net'.Agrees := by
  have hstops : net'.stops = net.stops := by
    funext id
    rw [stops, stops, hl]
  have howns : net'.Owns = net.Owns := by
    funext id m
    rw [Owns, Owns, hb]
  obtain ⟨h₁, h₂, h₃, h₄, h₅⟩ := h
  exact ⟨hb ▸ h₁, hb ▸ hstops ▸ h₂, hb ▸ howns ▸ h₃, hb ▸ howns ▸ h₄,
    fun p hp => howns ▸ h₅ p (hf p hp)⟩

lemma Served.stops (h : net.Served id b b' v net') (c : NodeId) :
    net'.stops c = net.stops c + if id = c ∧ v.call = .timer .stop then 1 else 0 := by
  rw [Network.stops, h.log, List.countP_cons]
  simp only [decide_eq_true_eq]
  rfl

/-- What a node owns it owns for good, if clustering ends for it once. -/
lemma Owns.served (h : net.Owns c m) (hagree : net.Agrees) (hv : net.Served id b b' v net')
    (hstop : net'.stops id ≤ 1) : net'.Owns c m := by
  obtain ⟨d, hd, hm⟩ := h
  by_cases hc : c = id
  · subst hc
    obtain rfl := Option.some.inj (hv.bench.symm.trans hd)
    refine ⟨b', by rw [hv.benches, Table.get?_insert_self], ?_⟩
    rw [hv.served.node, Node.ownMap_visit _ ?_, hm]
    intro hs
    have hcount := hv.stops c
    rw [if_pos ⟨rfl, hs⟩] at hcount
    rw [hagree.undrawn c b hd (by omega)] at hm
    cases hm
  · exact ⟨d, by rw [hv.benches, Table.get?_insert_of_ne _ _ hc, hd], hm⟩

lemma Agrees.visit (h : net.Agrees) (hv : net.Served id b b' v net')
    (hstop : net'.stops id ≤ 1) : net'.Agrees := by
  have howns {c : NodeId} {m : DensityMap} (ho : net.Owns c m) : net'.Owns c m :=
    ho.served h hv hstop
  have hid := h.ids id b hv.bench
  have hnode : b'.node = (b.node.visit v).node := hv.served.node
  have hself : net'.benches.get? id = some b' := by rw [hv.benches, Table.get?_insert_self]
  constructor
  · intro id' d hd
    rcases hv.get? hd with ⟨hd, -⟩ | ⟨rfl, rfl⟩
    · exact h.ids id' d hd
    · rw [hnode, b.node.id_visit, hid]
  · intro id' d hd hz
    have hcount := hv.stops id'
    rcases hv.get? hd with ⟨hd, -⟩ | ⟨rfl, rfl⟩
    · exact h.undrawn id' d hd (by omega)
    · have hs : v.call ≠ .timer .stop := by
        intro hs
        rw [if_pos ⟨rfl, hs⟩] at hcount
        omega
      rw [hnode, Node.ownMap_visit _ hs]
      exact h.undrawn id' b hv.bench (by omega)
  · intro id' d c m hd hk
    rcases hv.get? hd with ⟨hd, -⟩ | ⟨rfl, rfl⟩
    · exact howns (h.kept id' d c m hd hk)
    · rw [hnode] at hk
      rcases b.node.neighborMaps_visit v hk with hk | ⟨-, seq, r, hbr⟩
      · exact howns (h.kept id' b c m hv.bench hk)
      · obtain ⟨sender, packet, hc, hm⟩ := Visit.brings_iff.1 hbr
        exact howns (h.flying _ (hv.arrived sender packet hc) seq c r m hm)
  · intro id' d hd key p hp seq c r m hm
    rcases hv.get? hd with ⟨hd, -⟩ | ⟨rfl, rfl⟩
    · obtain ⟨hc, ho⟩ := h.pending id' d hd key p hp seq c r m hm
      exact ⟨hc, howns ho⟩
    · rw [hnode] at hp
      rcases b.node.pending_visit_map v hp hm with ⟨key', q, hq, hm'⟩ | ⟨-, rfl, hown, -⟩
      · obtain ⟨hc, ho⟩ := h.pending id' b hv.bench key' q hq seq c r m hm'
        exact ⟨hc, howns ho⟩
      · refine ⟨hid, d, ?_, by rw [hnode, hown]⟩
        rw [hid, hself]
  · intro p hp seq c r m hm
    rcases hv.flying p hp with hp | hp
    · exact howns (h.flying p hp seq c r m hm)
    · -- what is sent was pending before the visit
      obtain ⟨-, e, he, hms, -⟩ := mem_sent hp
      rw [← hms] at hm
      obtain ⟨t, -, hask⟩ := asked_of_mem he hm
      obtain ⟨peer, kind, q, -, hq, hqm⟩ := hask.pending_of_replyTo? hm rfl
      exact howns (h.pending id b hv.bench _ q hq seq c r m hqm).2

/-- As long as clustering has ended at most once for every node, all maps agree. -/
lemma Reaches.agrees (hn : net₀.IsNew) (h : net₀.Reaches net) (hstop : ∀ id, net.stops id ≤ 1) :
    net.Agrees := by
  induction h with
  | refl => exact hn.agrees
  | @lose net net' _ hb hl hf ih =>
    refine (ih fun id => ?_).lose hb hl hf
    have := hstop id
    rwa [stops, hl] at this
  | visit _ hv ih =>
    refine (ih fun id => ?_).visit hv (hstop _)
    have := hstop id
    rw [hv.stops] at this
    omega

/-- Agreement on maps. Any number of nodes are visited in any order, with timers that may be late
and packets that may be late, overtake each other or get lost, and clustering ends for every node at
most once. Then a map that any node keeps for a cluster is the own map of the node after which the
cluster is named, and so is every copy in its name that is pending or on its way. -/
theorem maps_agree (hn : net₀.IsNew) (h : net₀.Reaches net) (hstop : ∀ id, net.stops id ≤ 1) :
    (∀ id b c m, net.benches.get? id = some b → b.node.neighborMaps.get? c = some m →
      ∃ b', net.benches.get? c = some b' ∧ b'.node.ownMap = some m) ∧
    (∀ id b key p seq c r m, net.benches.get? id = some b →
      b.node.reliable.pending.get? key = some p → p.message = .densityMap seq c r m →
      ∃ b', net.benches.get? c = some b' ∧ b'.node.ownMap = some m) ∧
    ∀ p ∈ net.flying, ∀ seq c r m, .densityMap seq c r m ∈ p.packet.messages →
      ∃ b', net.benches.get? c = some b' ∧ b'.node.ownMap = some m := by
  have hagree := h.agrees hn hstop
  refine ⟨hagree.kept, ?_, hagree.flying⟩
  intro id b key p seq c r m hb hp hm
  exact (hagree.pending id b hb key p hp seq c r m hm).2

/-- A head sends its map to another head, which keeps it, and holds it until it hears of that. -/
theorem exchanged_map_agrees : ∃ (net₀ net : Network) (b : Bench) (m : DensityMap),
    net₀.IsNew ∧ net₀.Reaches net ∧ (∀ id, net.stops id ≤ 1) ∧
      net.benches.get? ⟨1⟩ = some b ∧ b.node.neighborMaps.get? ⟨2⟩ = some m ∧
      (net.benches.get? ⟨2⟩).any (fun b => b.node.reliable.isPending ⟨1⟩ .densityMap) ∧
      (∀ id b c m, net.benches.get? id = some b → b.node.neighborMaps.get? c = some m →
        ∃ b', net.benches.get? c = some b' ∧ b'.node.ownMap = some m) ∧
      (∀ id b key p seq c r m, net.benches.get? id = some b →
        b.node.reliable.pending.get? key = some p → p.message = .densityMap seq c r m →
        ∃ b', net.benches.get? c = some b' ∧ b'.node.ownMap = some m) ∧
      ∀ p ∈ net.flying, ∀ seq c r m, .densityMap seq c r m ∈ p.packet.messages →
        ∃ b', net.benches.get? c = some b' ∧ b'.node.ownMap = some m := by
  have hrun : ((Node.create ⟨1⟩ slowSettings false none).toOption.any fun n =>
      (Node.create ⟨2⟩ exchangeSettings false none).toOption.any fun n' =>
        ((setUp [n, n']).run? exchange).any fun net =>
          (net.benches.get? ⟨1⟩).any fun b => (b.node.neighborMaps.get? ⟨2⟩).any fun _ =>
            (net.benches.get? ⟨2⟩).any (fun b => b.node.reliable.isPending ⟨1⟩ .densityMap) &&
              decide ((net.log.countP fun d => d.visit.call = .timer .stop) ≤ 1)) = true := by
    decide +kernel
  simp only [Option.any_eq_true, Bool.and_eq_true, decide_eq_true_eq] at hrun
  obtain ⟨n, hn, n', hn', net, hnet, b, hb, m, hm, hpending, hcount⟩ := hrun
  have hnew := isNew_pair hn hn'
  have hreaches := Reaches.of_run? hnet
  have hstop (id : NodeId) : net.stops id ≤ 1 := by
    refine Nat.le_trans (List.countP_mono_left fun d _ h => ?_) hcount
    rw [decide_eq_true_eq] at h ⊢
    exact h.2
  exact ⟨_, net, b, m, hnew, hreaches, hstop, hb, hm, (Option.any_eq_true _ _).2 hpending,
    maps_agree hnew hreaches hstop⟩

end Network

end ClusterWave
