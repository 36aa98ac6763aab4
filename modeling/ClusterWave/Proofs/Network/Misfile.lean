import ClusterWave.Proofs.Clustering.Misfile
import ClusterWave.Proofs.Network.Acknowledgment

/-!
# The own cluster in the wrong table

In a network nobody is sent a message in its own name: a broadcast does not come back to its
sender, and a map goes to the heads of foreign clusters only, of which the node itself is none. So
the own cluster of a node is not listed as a foreign one until the node handles a message that lets
it be listed. But that happens: a node that hears of a cluster before it hears of its head settles
with the head and leaves the cluster on the list.
-/

namespace ClusterWave

variable {n : Node} {v : Visit} {t t' : Turn}

/-! ### What is pending -/

/-- What is pending for a peer is not in the name of the peer. -/
def Node.Directed (n : Node) : Prop :=
  ∀ key p, n.reliable.pending.get? key = some p → p.message.isAlien key.1

lemma Awaited.isAlien {key : NodeId × MessageKind} {m : Message} (h : Awaited v t key m)
    (hv : v.call ≠ .timer .stop) (ht : t.node.Directed) : m.isAlien key.1 := by
  cases h with
  | kept h => exact ht _ _ h
  | offer => rfl
  | map _ _ _ hs => exact absurd hs hv

namespace Turn

lemma directed_sendReliably (h : t.node.Directed) {peer : NodeId} {m : Message}
    (hm : m.isAlien peer) (delay : Duration) : (t.sendReliably peer m delay).node.Directed := by
  intro key p hp
  have hp' : (t.node.reliable.pending.insert (peer, m.kind) ⟨m, 0, t.outbox.handle⟩).get? key =
      some p := hp
  rcases Table.of_get?_insert hp' with ⟨rfl, rfl⟩ | ⟨-, hp'⟩
  · exact hm
  · exact h key p hp'

/-- Maps are sent to others. -/
lemma directed_sendMaps (map : DensityMap) {peers : List NodeId} (acc : Turn × Duration)
    (hp : ∀ peer ∈ peers, peer ≠ acc.1.node.id) (h : acc.1.node.Directed) :
    (peers.foldl (sendMap map) acc).1.node.Directed := by
  induction peers generalizing acc with
  | nil => exact h
  | cons peer peers ih =>
    refine ih (sendMap map acc peer) (fun p hp' => hp p (List.mem_cons_of_mem peer hp')) ?_
    refine directed_sendReliably (t := acc.1.advanceSeq) h ?_ _
    exact decide_eq_true (hp peer List.mem_cons_self).symm

lemma directed_exchangeMaps (he : t.node.registry.Excludes t.node.record.id)
    (h : t.node.Directed) : t.exchangeMaps.node.Directed := by
  refine directed_sendMaps _ (t.setStatus .exchangeMaps, Duration.zero) (fun peer hp => ?_) h
  rintro rfl
  exact he.foreign (Table.mem_keys_iff.1 hp)

lemma directed_endClustering (he : t.node.registry.Excludes t.node.record.id)
    (h : t.node.Directed) : t.endClustering.node.Directed := by
  have hu : t.unclustered.node.Directed := by
    rw [node_unclustered]
    exact h
  have heu : t.unclustered.node.registry.Excludes t.unclustered.node.record.id := by
    rw [node_unclustered]
    exact he
  simp only [endClustering]
  split
  · exact directed_exchangeMaps heu hu
  · exact hu
  · split
    · intro key p hp
      rw [startAlone, node_scheduleActivation] at hp
      exact hu key p hp
    · exact hu

end Turn

namespace Node

lemma Directed.of_isNew (h : n.IsNew) : n.Directed := by
  obtain ⟨-, hp, -⟩ := h.blank
  intro key p hk
  rw [hp] at hk
  cases hk

lemma Directed.visit (h : n.Directed) (ha : n.Apart) (v : Visit) : (n.visit v).node.Directed := by
  by_cases hv : v.call = .timer .stop
  · rw [n.visit_timer hv, Turn.node_noteRole]
    exact Turn.directed_endClustering
      (t := (Turn.start n v.now v.position v.nextHandle).locate) ha.excludes h
  · exact (moves_visit n v).induct (P := fun t => t.node.Directed) h
      fun _ _ h m _ _ hp => (m.awaited hp).isAlien hv h

/-- A new node knows no other nodes, and stands alone. -/
lemma Apart.of_isNew (h : n.IsNew) : n.Apart := by
  refine ⟨?_, ?_⟩
  · obtain ⟨id, settings, isStarter, velocity, h⟩ := h
    exact ⟨n.record, upright_of_create h []⟩
  · rw [h.registry]
    exact .empty _

end Node

/-- Nobody is sent a message in its own name. -/
lemma Asked.isAlien {e : Effect} (h : Asked n v t e) (ht : t.node.id = n.id) (hd : n.Directed)
    {ids : List NodeId} {p : Parcel} (hp : p ∈ e.parcels n.id ids) {m : Message}
    (hm : m ∈ p.packet.messages) : m.isAlien p.receiver := by
  cases h with
  | plainBroadcast h =>
    obtain ⟨peer, hpeer, rfl⟩ := List.mem_map.1 hp
    have hne : peer ≠ n.id := of_decide_eq_true (List.mem_filter.1 hpeer).2
    rw [ht] at h
    cases h m hm with
    | clusterInfo _ _ hr => exact decide_eq_true fun he => hne (he.symm.trans hr)
    | initiateCluster _ _ hr =>
      exact decide_eq_true ⟨fun he => hne (he.symm.trans hr), hr.symm⟩
    | formCluster _ _ hr => exact decide_eq_true fun he => hne (he.symm.trans hr)
    | neighborCluster | incident => rfl
  | announce | passOn =>
    obtain ⟨peer, -, rfl⟩ := List.mem_map.1 hp
    rw [List.mem_singleton.1 hm]
    rfl
  | incident | answer =>
    rw [List.mem_singleton.1 hp] at hm
    rw [List.mem_singleton.1 hm]
    rfl
  | again hv hq =>
    rw [List.mem_singleton.1 hp] at hm ⊢
    rw [List.mem_singleton.1 hm]
    exact hd _ _ hq
  | _ => cases hp

namespace Network

/-- Nobody is sent a message in its own name, and the own cluster of a node is not listed as a
foreign one unless the node has handled a message that let it be listed. -/
structure Tidy (net : Network) : Prop where
  nodes : ∀ id b, net.benches.get? id = some b → b.node.id = id ∧ b.node.Apart ∧ b.node.Directed
  flying : ∀ p ∈ net.flying, ∀ m ∈ p.packet.messages, m.isAlien p.receiver
  filed : ∀ id b, net.benches.get? id = some b → ¬ b.node.Filed →
    ∃ d ∈ net.log, d.id = id ∧ d.before.misfiles d.visit

variable {net net' : Network} {id : NodeId} {b b' : Bench}

lemma IsNew.tidy (h : net.IsNew) : net.Tidy := by
  refine ⟨fun id b hb => ?_, ?_, fun id b hb hf => ?_⟩
  · obtain ⟨hn, hid, -⟩ := h.nodes id b hb
    exact ⟨hid, .of_isNew hn, .of_isNew hn⟩
  · rw [h.flying]
    exact List.forall_mem_nil _
  · obtain ⟨hn, -, -⟩ := h.nodes id b hb
    refine absurd (fun c _ hc => ?_) hf
    rw [hn.registry] at hc
    cases hc

/-- What arrives with a visit is not in the name of the node. -/
lemma Tidy.alien (h : net.Tidy) (hv : net.Visited id b b' v net') :
    v.Alien b.node.record.id := by
  intro m hm
  obtain ⟨sender, packet, hc, hmem⟩ := Visit.brings_iff.1 hm
  obtain ⟨hid, -⟩ := h.nodes id b hv.bench
  have hm' : m.isAlien id := h.flying _ (hv.arrived sender packet hc) m hmem
  rwa [← hid] at hm'

lemma Tidy.lose (h : net.Tidy) (hb : net'.benches = net.benches) (hl : net'.log = net.log)
    (hf : ∀ p ∈ net'.flying, p ∈ net.flying) : net'.Tidy :=
  ⟨hb ▸ h.nodes, fun p hp => h.flying p (hf p hp), hb ▸ hl ▸ h.filed⟩

lemma Tidy.visit (h : net.Tidy) (hv : net.Visited id b b' v net') : net'.Tidy := by
  obtain ⟨hid, ha, hd⟩ := h.nodes id b hv.bench
  have hal := h.alien hv
  have hlog : ∀ d ∈ net.log, d ∈ net'.log := fun d hd => hv.log ▸ List.mem_cons_of_mem _ hd
  refine ⟨fun id' c hc => ?_, fun p hp m hm => ?_, fun id' c hc hf => ?_⟩
  · rcases hv.get? hc with ⟨hc, -⟩ | ⟨rfl, rfl⟩
    · exact h.nodes id' c hc
    · rw [hv.attended.node]
      exact ⟨(b.node.id_visit v).trans hid, ha.visit hal, hd.visit ha v⟩
  · rcases hv.flying p hp with hp | hp
    · exact h.flying p hp m hm
    · obtain ⟨e, he, hp⟩ := List.mem_flatMap.1 hp
      obtain ⟨t, ht, hask⟩ := asked_of_mem he ((Effect.mem_parcels hp).2.1 ▸ hm)
      rw [← hid] at hp
      exact hask.isAlien ht hd hp hm
  · rcases hv.get? hc with ⟨hc, -⟩ | ⟨rfl, rfl⟩
    · exact (h.filed id' c hc hf).imp fun d hd => ⟨hlog d hd.1, hd.2⟩
    · -- the visit did it, or the cluster was listed before
      by_cases hm : b.node.misfiles v
      · exact ⟨_, hv.log ▸ List.mem_cons_self, rfl, hm⟩
      · have hf' : ¬ b.node.Filed := by
          intro hb
          rw [hv.attended.node] at hf
          exact hf (hb.visit ha hal (Bool.eq_false_iff.2 hm))
        exact (h.filed _ b hv.bench hf').imp fun d hd => ⟨hlog d hd.1, hd.2⟩

lemma IsNew.tidy_run {net₀ : Network} {acts : List Act} (hn : net₀.IsNew)
    (h : net₀.run? acts = some net) : net.Tidy :=
  run?_induct (P := Tidy) h hn.tidy (fun _ _ h hb hl hf => h.lose hb hl hf)
    fun _ _ _ _ _ _ h hv => h.visit hv

/-- In every run of a network the own cluster of a node is listed as a foreign one only if the node
has handled a message that lets it be listed: it settled with a head that was listed, or it was sent
a map of its own cluster. A visit with no such message leaves the cluster off the list, and a packet
that holds such a message and nothing else gets it there. -/
theorem own_cluster_is_unlisted_unless_misfiled {net₀ : Network} {acts : List Act}
    (hn : net₀.IsNew) (h : net₀.run? acts = some net) (hb : net.benches.get? id = some b) :
    (¬ b.node.Filed → ∃ d ∈ net.log, d.id = id ∧ d.before.misfiles d.visit) ∧
      ∀ v net' b', net.step? (.visit id v) = some net' → net'.benches.get? id = some b' →
        b.node.Filed → (¬ b.node.misfiles v → b'.node.Filed) ∧
          ∀ sender m, v.call = .packet sender (Packet.single m) → b.node.misfiles v →
            ¬ b'.node.Filed := by
  have htidy := hn.tidy_run h
  obtain ⟨-, ha, -⟩ := htidy.nodes id b hb
  refine ⟨htidy.filed id b hb, fun v net' b' hs hb' hf => ?_⟩
  obtain ⟨c, c', hv⟩ := visited hs
  obtain rfl : c = b := Option.some.inj (hv.bench.symm.trans hb)
  have hnode : b'.node = (c.node.visit v).node := by
    rcases hv.get? hb' with ⟨-, hne⟩ | ⟨-, rfl⟩
    · exact absurd rfl hne
    · exact hv.attended.node
  have hal := htidy.alien hv
  rw [hnode]
  refine ⟨fun hm => hf.visit ha hal (Bool.eq_false_iff.2 hm), fun sender m hc hm hf' => ?_⟩
  exact (Node.filed_visit_iff hf ha hal hc).1 hf' hm

/-! ### A member that is heard before its head -/

open Visit (rings)

/-- The record of node 9 when it leads, and that of its member 3. -/
def leading (millis : UInt64) : Record :=
  (Record.lone ⟨9⟩ Vec3.zero (.ofMillis millis)).becomeHead

def following (millis : UInt64) : Record :=
  (Record.lone ⟨3⟩ Vec3.zero (.ofMillis millis)).join ⟨9⟩

/-- Node 9 forms a cluster, which node 3 joins. Node 1 comes later: it hears of the cluster from
node 3 and then runs for head. -/
def gathering : List Act :=
  [ .visit ⟨9⟩ ⟨.start, Vec3.zero, 1, .start⟩,
    .visit ⟨9⟩ (rings 0 3 .start),
    .visit ⟨9⟩ ⟨.start, Vec3.zero, 5, .formCluster⟩,
    .visit ⟨9⟩ (rings 100 5 .upkeep),
    .visit ⟨9⟩ (rings 400 6 .upkeep),
    .visit ⟨9⟩ (rings 700 7 .upkeep),
    .visit ⟨9⟩ (rings 1000 8 .send),
    .visit ⟨9⟩ (rings 1000 9 .upkeep),
    .visit ⟨9⟩ (rings 1300 10 .send),
    .visit ⟨3⟩ ⟨.start, Vec3.zero, 1, .start⟩,
    .visit ⟨3⟩ (rings 0 3 .start),
    .visit ⟨3⟩ (rings 100 5 .upkeep),
    .visit ⟨3⟩ (rings 400 6 .upkeep),
    .visit ⟨3⟩ (rings 700 7 .upkeep),
    .visit ⟨3⟩ (.hears 1000 8 ⟨9⟩ (.formCluster 1 (leading 1000))),
    .visit ⟨3⟩ (rings 1000 8 .send),
    .visit ⟨1⟩ ⟨.ofMillis 200, Vec3.zero, 1, .start⟩,
    .visit ⟨1⟩ (rings 200 3 .start),
    .visit ⟨1⟩ (rings 300 5 .upkeep),
    .visit ⟨1⟩ (rings 600 6 .upkeep),
    .visit ⟨1⟩ (rings 900 7 .upkeep),
    .visit ⟨1⟩ (.hears 1100 8 ⟨3⟩ (.clusterInfo 1 (following 1000))),
    .visit ⟨1⟩ (rings 1200 8 .send),
    .visit ⟨1⟩ (rings 1200 9 .upkeep),
    .visit ⟨1⟩ (rings 1300 10 .electionCheck) ]

/-- At last node 1 hears node 9 itself. -/
def belatedHead : Visit := .hears 1350 11 ⟨9⟩ (.clusterInfo 2 (leading 1300))

/-- Node 1 has the clusters in the right tables until then, and not any more when it has settled
with node 9. -/
theorem settling_with_listed_head_misfiles : ∃ (net₀ net net' : Network) (b b' : Bench),
    net₀.IsNew ∧ net₀.run? gathering = some net ∧ net.benches.get? ⟨1⟩ = some b ∧
      net.step? (.visit ⟨1⟩ belatedHead) = some net' ∧ net'.benches.get? ⟨1⟩ = some b' ∧
      b.node.Filed ∧ b.node.misfiles belatedHead ∧
      ((¬ b.node.Filed → ∃ d ∈ net.log, d.id = ⟨1⟩ ∧ d.before.misfiles d.visit) ∧
        ∀ v net' b', net.step? (.visit ⟨1⟩ v) = some net' → net'.benches.get? ⟨1⟩ = some b' →
          b.node.Filed → (¬ b.node.misfiles v → b'.node.Filed) ∧
            ∀ sender m, v.call = .packet sender (Packet.single m) → b.node.misfiles v →
              ¬ b'.node.Filed) := by
  have hrun : ((Node.create ⟨1⟩ Settings.standard false none).toOption.any fun n =>
      (Node.create ⟨3⟩ Settings.standard false none).toOption.any fun n' =>
        (Node.create ⟨9⟩ Settings.standard false none).toOption.any fun n'' =>
          ((setUp [n, n', n'']).run? gathering).any fun net =>
            (net.benches.get? ⟨1⟩).any fun b =>
              decide b.node.Filed && b.node.misfiles belatedHead &&
                (net.step? (.visit ⟨1⟩ belatedHead)).any fun net' =>
                  (net'.benches.get? ⟨1⟩).isSome) = true := by decide +kernel
  simp only [Option.any_eq_true, Bool.and_eq_true, decide_eq_true_eq,
    Option.isSome_iff_exists] at hrun
  obtain ⟨n, hn, n', hn', n'', hn'', net, hnet, b, hb, ⟨hf, hm⟩, net', hs, b', hb'⟩ := hrun
  have hnew := isNew_setUp (List.forall_mem_cons.2 ⟨.of_toOption hn, List.forall_mem_cons.2
    ⟨.of_toOption hn', List.forall_mem_singleton.2 (.of_toOption hn'')⟩⟩)
  exact ⟨_, net, net', b, b', hnew, hnet, hb, hs, hb', hf, hm,
    own_cluster_is_unlisted_unless_misfiled hnew hnet hb⟩

/-- The cluster that node 1 belongs to in the end is listed as a foreign one. -/
theorem settled_head_stays_foreign : ∃ (net₀ net : Network) (acts : List Act) (b : Bench)
    (c : NodeId), net₀.IsNew ∧ net₀.run? acts = some net ∧ net.benches.get? ⟨1⟩ = some b ∧
      b.node.record.cluster = some c ∧ b.node.registry.foreign.contains c := by
  have hrun : ((Node.create ⟨1⟩ Settings.standard false none).toOption.any fun n =>
      (Node.create ⟨3⟩ Settings.standard false none).toOption.any fun n' =>
        (Node.create ⟨9⟩ Settings.standard false none).toOption.any fun n'' =>
          ((setUp [n, n', n'']).run? (gathering ++ [.visit ⟨1⟩ belatedHead])).any fun net =>
            (net.benches.get? ⟨1⟩).any fun b =>
              b.node.record.cluster.any b.node.registry.foreign.contains) = true := by
    decide +kernel
  simp only [Option.any_eq_true] at hrun
  obtain ⟨n, hn, n', hn', n'', hn'', net, hnet, b, hb, c, hc, hf⟩ := hrun
  have hnew := isNew_setUp (List.forall_mem_cons.2 ⟨.of_toOption hn, List.forall_mem_cons.2
    ⟨.of_toOption hn', List.forall_mem_singleton.2 (.of_toOption hn'')⟩⟩)
  exact ⟨_, net, _, b, c, hnew, hnet, hb, hc, hf⟩

end Network

end ClusterWave
