import ClusterWave.Proofs.Node.Handle

/-!
# Strides

Clusters are formed in strides: clustering begins and ends, a node hears of its neighbors and of
foreign clusters and settles its role, and the timers of clustering go off. Whatever else a node
does stands beside that: it touches neither the role nor those timers nor the registry, and takes
the node, if at all, to a status in which clusters are formed no longer. So every visit is a
sequence of strides, of which some are beside the others.
-/

namespace ClusterWave

/-- What the forming of clusters goes by, apart from the status. -/
structure Stance where
  id : NodeId
  role : Degree × Option NodeId
  clustering : Bool
  send : Option TimerHandle
  election : Option TimerHandle
  upkeep : Option TimerHandle
  neighbors : Table NodeId Record
  members : Table NodeId Record
  foreign : Table NodeId Record

def Node.stance (n : Node) : Stance where
  id := n.record.id
  role := n.record.role
  clustering := n.clustering
  send := n.slots.send
  election := n.slots.election
  upkeep := n.slots.upkeep
  neighbors := n.registry.neighbors
  members := n.registry.members
  foreign := n.registry.foreign

/-- Whether the timers of a slot have to do with something else than the forming of clusters. -/
def Slot.isAside : Slot → Bool
  | .send | .election | .upkeep => false
  | .intra | .activation | .duty => true

lemma Node.stance_set_slot (n : Node) (handle : Option TimerHandle) {slot : Slot}
    (h : slot.isAside) : { n with slots := n.slots.set handle slot }.stance = n.stance := by
  cases slot <;> first | rfl | cases h

/-- From one turn to the other nothing is done about clusters, except that forming them may be
over. -/
structure Turn.Beside (t t' : Turn) : Prop where
  now : t'.now = t.now
  stance : t'.node.stance = t.node.stance
  status : t'.node.status = t.node.status ∨ t'.node.status.isClustering = false

namespace Turn.Beside

variable {t t' t'' : Turn}

lemma refl (t : Turn) : t.Beside t := ⟨rfl, rfl, .inl rfl⟩

lemma trans (h : t.Beside t') (h' : t'.Beside t'') : t.Beside t'' := by
  refine ⟨h'.now.trans h.now, h'.stance.trans h.stance, ?_⟩
  rcases h'.status with he | hn
  · rw [he]
    exact h.status
  · exact .inr hn

lemma clustering (h : t.Beside t') : t'.node.clustering = t.node.clustering :=
  congrArg Stance.clustering h.stance

lemma degree (h : t.Beside t') : t'.node.record.degree = t.node.record.degree :=
  congrArg (fun s : Stance => s.role.1) h.stance

/-- A loop that carries a value besides the turn. -/
lemma foldl_fst {α β : Type} {f : Turn × β → α → Turn × β}
    (h : ∀ (acc : Turn × β) (a : α), acc.1.Beside (f acc a).1) (as : List α) (acc : Turn × β) :
    acc.1.Beside (as.foldl f acc).1 := by
  refine List.foldlRecOn (motive := fun acc' : Turn × β => acc.1.Beside acc'.1) _ _
    (refl acc.1) ?_
  intro acc' hacc a _
  exact hacc.trans (h acc' a)

/-! ### Single steps -/

lemma setSchedule (t : Turn) (s : Schedule) : t.Beside (t.setSchedule s) := ⟨rfl, rfl, .inl rfl⟩

lemma setStatus (t : Turn) {s : Status} (h : s.isClustering = false) : t.Beside (t.setStatus s) :=
  ⟨rfl, rfl, .inr h⟩

lemma noteRole (t : Turn) (before : Degree × Option NodeId) : t.Beside (t.noteRole before) := by
  simp only [Turn.noteRole]
  split
  · exact refl t
  · exact ⟨rfl, rfl, .inl rfl⟩

lemma setSlot (t : Turn) (handle : Option TimerHandle) {slot : Slot} (h : slot.isAside) :
    t.Beside (t.setSlot slot handle) :=
  ⟨rfl, Node.stance_set_slot t.node handle h, .inl rfl⟩

lemma arm (t : Turn) (delay : Duration) (timer : Timer) {slot : Slot} (h : slot.isAside) :
    t.Beside (t.arm slot delay timer) :=
  ⟨rfl, Node.stance_set_slot t.node _ h, .inl rfl⟩

lemma disarm (t : Turn) {slot : Slot} (h : slot.isAside) : t.Beside (t.disarm slot) := by
  refine ⟨now_disarm t slot, ?_, .inl ?_⟩ <;> rw [node_disarm]
  exact Node.stance_set_slot t.node none h

/-- The gossip of an update. -/
lemma updateMessages (t : Turn) : t.Beside t.updateMessages.1 := by
  simp only [Turn.updateMessages]
  split
  · exact ⟨rfl, rfl, .inl rfl⟩
  · have ha : t.Beside t.advanceSeq := ⟨rfl, rfl, .inl rfl⟩
    refine ha.trans (foldl_fst ?_ _ (_, _))
    intro _ _
    exact ⟨rfl, rfl, .inl rfl⟩

lemma packets (t : Turn) (ps : List Packet) : t.Beside (ps.foldl broadcastPacket t) := by
  refine List.foldlRecOn (motive := fun u => t.Beside u) _ _ (refl t) ?_
  intro u h p _
  exact h.trans ⟨rfl, rfl, .inl rfl⟩

/-! ### The wavefront -/

lemma scheduleActivation (t : Turn) : t.Beside t.scheduleActivation := by
  have hs : t.Beside (t.setStatus .ready) := setStatus t rfl
  simp only [Turn.scheduleActivation]
  split
  · exact hs
  · exact (hs.trans (disarm _ rfl)).trans (arm _ _ _ rfl)

lemma startFirst (t : Turn) : t.Beside t.startFirst := by
  simp only [Turn.startFirst]
  split
  · exact (setSchedule t _).trans (scheduleActivation _)
  · exact setSchedule t _

lemma startAlone (t : Turn) : t.Beside t.startAlone :=
  (setSchedule t _).trans (scheduleActivation _)

lemma activate (t : Turn) : t.Beside t.activate := by
  have hb (f : Counters → Counters) (m : Message) :
      t.Beside (((t.setStatus .running).count f).advanceSeq.broadcast m) := ⟨rfl, rfl, .inr rfl⟩
  simp only [Turn.activate]
  split
  · exact ((hb _ _).trans (disarm _ rfl)).trans (arm _ _ _ rfl)
  · exact ⟨rfl, rfl, .inr rfl⟩

lemma announceLater (t : Turn) : t.Beside t.announceLater := by
  simp only [Turn.announceLater]
  split
  · exact refl t
  · exact (disarm t rfl).trans (arm _ _ _ rfl)

lemma offers (source : Vec2) (fs : List Forward) (acc : Turn × Duration) :
    acc.1.Beside (fs.foldl (Turn.offer source) acc).1 := by
  apply foldl_fst
  intro _ _
  exact ⟨rfl, rfl, .inl rfl⟩

lemma maps (map : DensityMap) (peers : List NodeId) (acc : Turn × Duration) :
    acc.1.Beside (peers.foldl (Turn.sendMap map) acc).1 := by
  apply foldl_fst
  intro _ _
  exact ⟨rfl, rfl, .inl rfl⟩

lemma launch (t : Turn) (origin : NodeId) (incoming : Vec2) :
    t.Beside (t.launch origin incoming) := by
  have hc : t.Beside (t.cancelKind .interCluster) := ⟨rfl, rfl, .inl rfl⟩
  simp only [Turn.launch]
  split
  · exact refl t
  · split
    · exact hc
    · have hd (u : Turn) (d : Option Vec2) : u.Beside (u.setDirection d).announceLater :=
        (setSchedule u _).trans (announceLater _)
      split
      · refine trans ?_ (startFirst _)
        exact (hc.trans (offers _ _ (_, _))).trans (hd _ _)
      · exact (hc.trans (offers _ _ (_, _))).trans (hd _ _)

lemma announce (t : Turn) : t.Beside t.announce := by
  simp only [Turn.announce]
  split
  · exact refl t
  · split
    · exact refl t
    · have hb (m : Message) : t.Beside (t.advanceSeq.broadcast m) := ⟨rfl, rfl, .inl rfl⟩
      exact (hb _).trans (arm _ _ _ rfl)

lemma exchangeMaps (t : Turn) : t.Beside t.exchangeMaps := by
  have hs : t.Beside (t.setStatus .exchangeMaps) := setStatus t rfl
  have hm := hs.trans (maps (DensityMap.estimate t.node.settings.grid (Turn.memberOffsets t.node))
    t.node.registry.foreign.keys (_, Duration.zero))
  exact hm.trans ⟨rfl, rfl, .inl rfl⟩

lemma decideLaunch (t : Turn) : t.Beside t.decideLaunch := by
  have hs : t.Beside t.exchanged := ⟨rfl, rfl, .inr rfl⟩
  simp only [Turn.decideLaunch]
  split
  · exact hs
  · split
    · exact hs
    · split
      · exact (hs.trans (setSchedule _ _)).trans (launch _ _ _)
      · exact hs

/-! ### Messages -/

lemma considerOffer (t : Turn) (source destination direction : Vec2) (startTime : Timestamp) :
    t.Beside (t.considerOffer source destination direction startTime) := by
  simp only [Turn.considerOffer]
  split
  · exact refl t
  · split
    · exact refl t
    · split
      · exact (setSchedule t _).trans (launch _ _ _)
      · exact refl t

lemma onInterCluster (t : Turn) (seq : UInt64) (cluster : NodeId)
    (source destination direction : Vec2) (startTime : Timestamp) :
    t.Beside (t.onInterCluster seq cluster source destination direction startTime) := by
  simp only [Turn.onInterCluster]
  have ha (m : Message) : t.Beside (t.send cluster m) := ⟨rfl, rfl, .inl rfl⟩
  split
  · exact (ha _).trans (considerOffer _ _ _ _ _)
  · exact ha _

lemma onIntraCluster (t : Turn) (cluster starter : NodeId) (startTime : Timestamp)
    (direction : Vec2) : t.Beside (t.onIntraCluster cluster starter startTime direction) := by
  have hd : t.Beside (t.setDirection (some direction)) := setSchedule t _
  simp only [Turn.onIntraCluster]
  split
  · split
    · split
      · exact (hd.trans (setSchedule _ _)).trans (scheduleActivation _)
      · exact hd
    · exact hd
  · exact refl t

lemma onInterNode (t : Turn) (sender incoming : Vec2) (startTime : Timestamp) :
    t.Beside (t.onInterNode sender incoming startTime) := by
  simp only [Turn.onInterNode]
  split
  · split
    · exact refl t
    · split
      · exact refl t
      · split
        · exact (setSchedule t _).trans (scheduleActivation _)
        · exact refl t
  · exact refl t

lemma onIncident (t : Turn) (sender origin : NodeId) (timestamp : Timestamp)
    (cluster : Option NodeId) (severity : Incident) :
    t.Beside (t.onIncident sender origin timestamp cluster severity) := by
  simp only [Turn.onIncident, Turn.onOwnIncident]
  split
  · split
    · exact ⟨rfl, rfl, .inl rfl⟩
    · exact refl t
  · split
    · exact ⟨rfl, rfl, .inl rfl⟩
    · exact refl t

/-! ### Timers -/

lemma onStart (t : Turn) : t.Beside t.onStart := by
  simp only [Turn.onStart]
  split <;> split <;> exact ⟨rfl, rfl, .inl rfl⟩

lemma retransmit (t : Turn) (peer : NodeId) (kind : MessageKind) :
    t.Beside (t.retransmit peer kind) := by
  refine ⟨now_retransmit t peer kind, ?_, .inl ?_⟩ <;> rw [node_retransmit]
  rfl

lemma originate (t : Turn) : t.Beside t.originate := by
  simp only [Turn.originate]
  split
  · exact refl t
  · split <;> exact ⟨rfl, rfl, .inl rfl⟩

end Turn.Beside

/-- When clustering ends its timers are disarmed, and the rest is beside that. -/
lemma Turn.beside_endClustering (t : Turn) : t.unclustered.Beside t.endClustering := by
  simp only [endClustering]
  split
  · exact .exchangeMaps _
  · exact .refl _
  · split
    · exact .startAlone _
    · exact .refl _

lemma Turn.exists_beside_endClustering (t : Turn) : ∃ u : Turn,
    u.node =
      { t.node with
        clustering := false
        slots := ((t.node.slots.set none .upkeep).set none .send).set none .election } ∧
      u.Beside t.endClustering :=
  ⟨t.unclustered, t.node_unclustered, t.beside_endClustering⟩

/-! ### Strides -/

/-- Whether a record arrives with a visit that the node may put among its neighbors. -/
inductive Visit.Tells (v : Visit) (r : Record) : Prop where
  | clusterInfo {seq : UInt64} (h : v.Brings (.clusterInfo seq r))
  | initiateCluster {seq : UInt64} {cluster : NodeId}
      (h : v.Brings (.initiateCluster seq cluster r))
  | formCluster {seq : UInt64} (h : v.Brings (.formCluster seq r))

/-- Whether a record arrives with a visit that may let the node join the cluster of a head. -/
inductive Visit.Invites (v : Visit) (r : Record) : NodeId → Prop where
  | clusterInfo {seq : UInt64} (h : v.Brings (.clusterInfo seq r)) (hh : r.isHead) :
      Invites v r r.id
  | initiateCluster {seq : UInt64} {cluster : NodeId}
      (h : v.Brings (.initiateCluster seq cluster r)) : Invites v r cluster
  | formCluster {seq : UInt64} (h : v.Brings (.formCluster seq r)) : Invites v r r.id

/-- Whether a record of a foreign cluster arrives with a visit to a node: a neighbor belongs to it,
a member tells its head of it, or it sends its map. -/
inductive Visit.Reports (v : Visit) (n : Node) : NodeId → Record → Prop where
  | clusterInfo {seq : UInt64} {r : Record} {cluster : NodeId} (h : v.Brings (.clusterInfo seq r))
      (hc : r.cluster = some cluster) (hf : n.record.cluster ≠ some cluster)
      (hn : cluster ≠ n.id) : Reports v n cluster r
  | neighborCluster {seq : UInt64} {r : Record} {cluster : NodeId}
      (h : v.Brings (.neighborCluster seq n.id r)) (hh : n.record.isHead)
      (hc : r.cluster = some cluster) (hn : cluster ≠ n.id) : Reports v n cluster r
  | densityMap {seq : UInt64} {r : Record} {cluster : NodeId} {map : DensityMap}
      (h : v.Brings (.densityMap seq cluster r map)) (hs : map.checkShape = .ok ()) :
      Reports v n cluster r

/-- A stride in the visit `v`. -/
inductive Stride (v : Visit) : Turn → Turn → Prop where
  | beside {t t' : Turn} (h : t.Beside t') : Stride v t t'
  -- The course of clustering
  | beginClustering (t : Turn) (hv : v.call = .timer .start) : Stride v t t.beginClustering
  | endClustering (t : Turn) (hv : v.call = .timer .stop) : Stride v t t.endClustering
  | formCluster (t : Turn) (hv : v.call = .formCluster) : Stride v t t.formCluster
  -- The timers of clustering
  | transmit (t : Turn) (hv : v.call = .timer .send) :
      Stride v t (t.setSlot .send none).transmit
  | checkElection (t : Turn) (hv : v.call = .timer .electionCheck) :
      Stride v t (t.setSlot .election none).checkElection
  | upkeep (t : Turn) (hv : v.call = .timer .upkeep) :
      Stride v t (t.setSlot .upkeep none).upkeep
  -- What the messages of neighbors bring about
  | hear (t : Turn) {r : Record} (hr : v.Tells r) (hn : t.node.inRange (r.stamp t.now)) :
      Stride v t (t.setRegistry (t.node.registry.hear (r.stamp t.now)))
  | enrol (t : Turn) {seq : UInt64} {r : Record} (hm : v.Brings (.clusterInfo seq r))
      (hn : t.node.registry.neighbors.get? r.id = some (r.stamp t.now))
      (hh : t.node.record.isHead) (hb : r.belongsTo t.node.id) :
      Stride v t (t.setRegistry (t.node.registry.enrol (r.stamp t.now)))
  | note (t : Turn) {cluster : NodeId} {r : Record} (p : Provenance)
      (h : v.Reports t.node cluster r) :
      Stride v t (t.setRegistry (t.node.registry.noteCluster cluster (r.stamp t.now) p))
  | join (t : Turn) {r : Record} {head : NodeId} (hi : v.Invites r head)
      (hn : t.node.registry.neighbors.contains r.id)
      (hs : t.node.status = .init ∨ t.node.status = .headElection) : Stride v t (t.join head)
  | settle (t : Turn) {seq : UInt64} {r : Record} (hm : v.Brings (.clusterInfo seq r))
      (hs : t.node.status = .update ∨ t.node.status = .headElection)
      (hr : t.node.record.isStandalone) : Stride v t t.settle
  | merge (t : Turn) {seq : UInt64} {r : Record} (hm : v.Brings (.clusterInfo seq r))
      (hs : t.node.status = .update ∨ t.node.status = .headElection)
      (hr : ¬ t.node.record.isStandalone) (he : t.node.registry.members.isEmpty) :
      Stride v t t.merge

/-- A sequence of strides. -/
def Strides (v : Visit) : Turn → Turn → Prop := Relation.ReflTransGen (Stride v)

variable {v : Visit} {t t' t'' : Turn}

lemma Stride.strides (h : Stride v t t') : Strides v t t' := .single h

lemma Turn.Beside.strides (h : t.Beside t') : Strides v t t' := .single (.beside h)

/-- In a stride time does not pass, and the node keeps its number. -/
lemma Stride.now_id (s : Stride v t t') :
    t'.now = t.now ∧ t'.node.record.id = t.node.record.id := by
  have alike {u u' : Turn} (h : Moves t.node v u u')
      (hu : u.now = t.now ∧ u.node.record.id = t.node.record.id) :
      u'.now = t.now ∧ u'.node.record.id = t.node.record.id :=
    ⟨h.alike.now.trans hu.1, h.alike.id.trans hu.2⟩
  cases s with
  | beside hb => exact ⟨hb.now, congrArg Stance.id hb.stance⟩
  | beginClustering => exact alike (.beginClustering t) ⟨rfl, rfl⟩
  | endClustering =>
    have hb := t.beside_endClustering
    have hu := alike (.unclustered t) ⟨rfl, rfl⟩
    exact ⟨hb.now.trans hu.1, (congrArg Stance.id hb.stance).trans hu.2⟩
  | formCluster => exact alike (.formCluster t) ⟨rfl, rfl⟩
  | transmit hv => exact alike (.transmit (t.setSlot .send none) hv) ⟨rfl, rfl⟩
  | checkElection => exact alike (.checkElection (t.setSlot .election none)) ⟨rfl, rfl⟩
  | upkeep => exact alike (.upkeep (t.setSlot .upkeep none) rfl) ⟨rfl, rfl⟩
  | hear | enrol | note => exact ⟨rfl, rfl⟩
  | join => exact alike (.join t _) ⟨rfl, rfl⟩
  | settle => exact alike (.settle t) ⟨rfl, rfl⟩
  | merge => exact alike (.merge t) ⟨rfl, rfl⟩

lemma Stride.now (s : Stride v t t') : t'.now = t.now := s.now_id.1

lemma Stride.id (s : Stride v t t') : t'.node.record.id = t.node.record.id := s.now_id.2

namespace Strides

lemma refl (t : Turn) : Strides v t t := Relation.ReflTransGen.refl

lemma trans (h : Strides v t t') (h' : Strides v t' t'') : Strides v t t'' :=
  Relation.ReflTransGen.trans h h'

/-- What every stride keeps, every sequence of strides keeps. -/
lemma induct {P : Turn → Prop} (h : Strides v t t') (h₀ : P t)
    (step : ∀ t t', P t → Stride v t t' → P t') : P t' := by
  induction h with
  | refl => exact h₀
  | tail _ s ih => exact step _ _ ih s

/-! ### Messages -/

lemma weighNeighbor (t : Turn) {seq : UInt64} {r : Record} (hm : v.Brings (.clusterInfo seq r))
    (hn : t.node.registry.neighbors.get? r.id = some (r.stamp t.now)) :
    Strides v t (t.weighNeighbor (r.stamp t.now)) := by
  have hw (hs : t.node.status = .update ∨ t.node.status = .headElection) : Strides v t
      (if t.node.record.isStandalone then t.settle
      else if t.node.record.isHead && (r.stamp t.now).belongsTo t.node.id then
        t.setRegistry (t.node.registry.enrol (r.stamp t.now))
      else if t.node.registry.members.isEmpty then t.merge
      else t) := by
    split
    · rename_i hr
      exact (Stride.settle t hm hs hr).strides
    · rename_i hr
      split
      · rename_i hb
        rw [Bool.and_eq_true] at hb
        exact (Stride.enrol t hm hn hb.1 hb.2).strides
      · split
        · rename_i he
          exact (Stride.merge t hm hs hr he).strides
        · exact refl t
  simp only [Turn.weighNeighbor]
  split
  · rename_i hs
    split
    · rename_i hr
      rw [Bool.and_eq_true] at hr
      exact (Stride.join t (.clusterInfo hm hr.1) (Option.isSome_iff_exists.2 ⟨_, hn⟩)
        (.inl hs)).strides
    · exact refl t
  · rename_i hs
    exact hw (.inl hs)
  · rename_i hs
    exact hw (.inr hs)
  · exact refl t

/-- A neighbor that is heard is known. -/
lemma contains_hear (t : Turn) (r : Record) :
    (t.setRegistry (t.node.registry.hear r)).node.registry.neighbors.contains r.id :=
  Option.isSome_iff_exists.2 ⟨r, Table.get?_insert_self _ _ _⟩

lemma noteForeign (t : Turn) {seq : UInt64} {r : Record} (hm : v.Brings (.clusterInfo seq r)) :
    Strides v t (t.noteForeign (r.stamp t.now)) := by
  simp only [Turn.noteForeign]
  split
  · exact refl t
  · rename_i cluster hc
    split
    · rename_i hf
      exact (Stride.note t _ (.clusterInfo hm hc hf.1 hf.2)).strides
    · exact refl t

lemma onClusterInfo (t : Turn) {seq : UInt64} {r : Record} (hm : v.Brings (.clusterInfo seq r)) :
    Strides v t (t.onClusterInfo (r.stamp t.now)) := by
  simp only [Turn.onClusterInfo]
  split
  · rename_i hr
    let heard := t.setRegistry (t.node.registry.hear (r.stamp t.now))
    have hh : Strides v t heard := (Stride.hear t (.clusterInfo hm) hr).strides
    have hw := weighNeighbor heard hm (Table.get?_insert_self _ _ _)
    have hf := noteForeign (heard.weighNeighbor (r.stamp t.now)) hm
    have hmoves : Moves t.node v heard (heard.weighNeighbor (r.stamp t.now)) :=
      .weighNeighbor heard _
    have hnow : (heard.weighNeighbor (r.stamp t.now)).now = t.now := hmoves.alike.now
    rw [hnow] at hf
    exact (hh.trans hw).trans hf
  · exact refl t

lemma onInitiateCluster (t : Turn) {seq : UInt64} {cluster : NodeId} {r : Record}
    (hm : v.Brings (.initiateCluster seq cluster r)) :
    Strides v t (t.onInitiateCluster cluster (r.stamp t.now)) := by
  simp only [Turn.onInitiateCluster]
  split
  · rename_i hc
    have hh : Strides v t (t.setRegistry (t.node.registry.hear (r.stamp t.now))) :=
      (Stride.hear t (.initiateCluster hm) hc.2.1).strides
    exact hh.trans (Stride.join _ (.initiateCluster hm) (contains_hear t (r.stamp t.now))
      (.inl hc.1)).strides
  · exact refl t

lemma onFormCluster (t : Turn) {seq : UInt64} {r : Record} (hm : v.Brings (.formCluster seq r)) :
    Strides v t (t.onFormCluster (r.stamp t.now)) := by
  simp only [Turn.onFormCluster]
  split
  · rename_i hr
    have hh : Strides v t (t.setRegistry (t.node.registry.hear (r.stamp t.now))) :=
      (Stride.hear t (.formCluster hm) hr).strides
    split
    · rename_i hs
      exact hh.trans (Stride.join _ (.formCluster hm) (contains_hear t (r.stamp t.now)) hs).strides
    · exact hh
  · exact refl t

lemma onNeighborCluster (t : Turn) {seq : UInt64} {cluster : NodeId} {r : Record}
    (hm : v.Brings (.neighborCluster seq cluster r)) :
    Strides v t (t.onNeighborCluster cluster (r.stamp t.now)) := by
  simp only [Turn.onNeighborCluster]
  split
  · rename_i hh
    obtain ⟨hhead, rfl, -⟩ := hh
    split
    · exact refl t
    · rename_i foreign hc
      split
      · rename_i hn
        exact (Stride.note t _ (.neighborCluster hm hhead hc hn)).strides
      · exact refl t
  · exact refl t

lemma onDensityMap (t : Turn) {seq : UInt64} {cluster : NodeId} {r : Record} {map : DensityMap}
    (hm : v.Brings (.densityMap seq cluster r map)) :
    Strides v t (t.onDensityMap seq cluster (r.stamp t.now) map) := by
  simp only [Turn.onDensityMap]
  split
  · exact refl t
  · rename_i hs
    refine (Stride.note t .authoritative (.densityMap hm hs)).strides.trans ?_
    exact Turn.Beside.strides ⟨rfl, rfl, .inl rfl⟩

lemma onMessage (sender : NodeId) (t : Turn) {m : Message} (hm : v.Brings m) :
    Strides v t (t.onMessage sender m) := by
  cases m with
  | clusterInfo => exact onClusterInfo t hm
  | initiateCluster => exact onInitiateCluster t hm
  | formCluster => exact onFormCluster t hm
  | neighborCluster => exact onNeighborCluster t hm
  | densityMap => exact onDensityMap t hm
  | interCluster => exact (Turn.Beside.onInterCluster t _ _ _ _ _ _).strides
  | intraCluster => exact (Turn.Beside.onIntraCluster t _ _ _ _).strides
  | interNode => exact (Turn.Beside.onInterNode t _ _ _).strides
  | ack seq peer kind =>
    have ha : t.Beside (t.onAck peer kind) := ⟨rfl, rfl, .inl rfl⟩
    exact ha.strides
  | incident => exact (Turn.Beside.onIncident t _ _ _ _ _).strides

lemma onPacket (t : Turn) {sender : NodeId} {packet : Packet}
    (hv : v.call = .packet sender packet) : Strides v t (t.onPacket sender packet) := by
  refine trans ?_ (Turn.Beside.noteRole _ _).strides
  refine List.foldlRecOn (motive := fun u => Strides v t u) _ _
    (Turn.Beside.strides ⟨rfl, rfl, .inl rfl⟩) ?_
  intro u h m hm
  exact h.trans (onMessage sender u (Visit.brings_iff.2 ⟨_, _, hv, hm⟩))

/-! ### Timers -/

lemma fire (t : Turn) {timer : Timer} (hv : v.call = .timer timer) :
    Strides v t (t.fire timer) := by
  cases timer with
  | start => exact (Stride.beginClustering t hv).strides
  | stop => exact (Stride.endClustering t hv).strides
  | send => exact (Stride.transmit t hv).strides
  | electionCheck => exact (Stride.checkElection t hv).strides
  | upkeep => exact (Stride.upkeep t hv).strides
  | decide => exact (Turn.Beside.decideLaunch t).strides
  | retransmit peer kind => exact (Turn.Beside.retransmit t peer kind).strides
  | intraBroadcast =>
    exact ((Turn.Beside.setSlot t none rfl).trans (.announce (t.setSlot .intra none))).strides
  | activate =>
    exact ((Turn.Beside.setSlot t none rfl).trans (.activate (t.setSlot .activation none))).strides
  | complete => exact (Turn.Beside.setStatus t rfl).strides
  | dutyActive => exact ((Turn.Beside.setStatus t rfl).trans (.arm _ _ _ rfl)).strides
  | dutyInactive => exact ((Turn.Beside.setStatus t rfl).trans (.arm _ _ _ rfl)).strides
  | incident => exact (Turn.Beside.originate t).strides

end Strides

/-- A visit is a sequence of strides, from the turn in which nothing has been done yet. -/
theorem strides_visit (n : Node) (v : Visit) :
    Strides v (Turn.start n v.now v.position v.nextHandle) (n.visit v) := by
  simp only [Node.visit]
  cases hc : v.call with
  | start => exact (Turn.Beside.onStart _).strides
  | formCluster => exact (Stride.formCluster _ hc).strides
  | packet sender packet => exact Strides.onPacket _ hc
  | timer timer =>
    have hl (t : Turn) : t.Beside t.locate := ⟨rfl, rfl, .inl rfl⟩
    exact ((hl _).strides.trans (Strides.fire _ hc)).trans (Turn.Beside.noteRole _ _).strides

end ClusterWave
