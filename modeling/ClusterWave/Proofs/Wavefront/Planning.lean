import ClusterWave.Proofs.Node.Shapes
import ClusterWave.Proofs.Wavefront.Offers

/-!
# Planning never fails

To aim a wavefront at a cell, its index is divided by the size of the grid. A map arrives from
another node with whatever size and cells, but it is not kept unless its shape is checked; and a map
of size zero that passes the check has no cells. So whenever a node launches a wavefront, every cell
that it looks at has a place.

The launches of a visit are listed by `Node.launches`. Nothing else is launched: every offer that a
node makes to another cluster comes from a launch that is listed.
-/

namespace ClusterWave

/-! ### Launches -/

/-- A wavefront that is launched: in which turn, where it leaves from and at which velocity. -/
structure Launch where
  turn : Turn
  origin : NodeId
  velocity : Vec2

def Launch.carryOut (l : Launch) : Turn := l.turn.launch l.origin l.velocity

namespace Turn

variable {t : Turn} {l : Launch}

/-- The launch of a wavefront from a node at a time, if that is an earlier start. -/
def earlier? (t : Turn) (time : Timestamp) (origin : NodeId) (velocity : Vec2) : Option Launch :=
  if (t.node.schedule.relaxFirstStart time origin t.now).2 then
    some ⟨t.setSchedule (t.node.schedule.relaxFirstStart time origin t.now).1, origin, velocity⟩
  else none

/-- The launch when the exchange of maps is over. -/
def decided? (t : Turn) : Option Launch := do
  let starter ← starter? t.exchanged.node
  let velocity ← starter.velocity
  t.exchanged.earlier? (t.now + t.node.settings.startLead) starter.id velocity

/-- The launch of a wavefront that is offered. -/
def accepted? (t : Turn) (source destination direction : Vec2) (startTime : Timestamp) :
    Option Launch := do
  let candidate ← candidate? t.node destination
  let time ← arrival? t.node source candidate.place direction startTime
  t.earlier? time candidate.id direction

/-- The launch to which a message leads. -/
def answered? (t : Turn) : Message → Option Launch
  | .interCluster seq cluster source destination direction startTime =>
    let t := t.send cluster (.ack seq t.node.ackName .interCluster)
    if t.node.record.isHead then t.accepted? source destination direction startTime else none
  | _ => none

/-- The launches when messages are handled in turn. -/
def launches (sender : NodeId) : Turn → List Message → List Launch
  | _, [] => []
  | t, m :: ms => (t.answered? m).toList ++ launches sender (t.onMessage sender m) ms

/-- What is done if a start is an earlier one. -/
lemma carryOut_earlier? (t : Turn) (time : Timestamp) (origin : NodeId) (velocity : Vec2) :
    ((t.earlier? time origin velocity).map Launch.carryOut).getD t =
      if (t.node.schedule.relaxFirstStart time origin t.now).2 then
        (t.setSchedule (t.node.schedule.relaxFirstStart time origin t.now).1).launch origin velocity
      else t := by
  rw [earlier?]
  split <;> rfl

/-- Nothing else is launched when the exchange is over. -/
lemma decideLaunch_eq (t : Turn) :
    t.decideLaunch = (t.decided?.map Launch.carryOut).getD t.exchanged := by
  simp only [decideLaunch]
  split
  · rename_i hs
    have hs : starter? t.exchanged.node = none := hs
    rw [decided?, hs]
    rfl
  · rename_i starter hs
    have hs : starter? t.exchanged.node = some starter := hs
    rw [decided?, hs, Option.bind_eq_bind, Option.bind_some]
    split
    · rename_i hv
      rw [hv]
      rfl
    · rename_i velocity hv
      rw [hv, Option.bind_eq_bind, Option.bind_some]
      exact (t.exchanged.carryOut_earlier? _ _ _).symm

/-- Nothing else is launched for an offer. -/
lemma considerOffer_eq (t : Turn) (source destination direction : Vec2) (startTime : Timestamp) :
    t.considerOffer source destination direction startTime =
      ((t.accepted? source destination direction startTime).map Launch.carryOut).getD t := by
  rw [considerOffer, accepted?]
  cases candidate? t.node destination with
  | none => rfl
  | some candidate =>
    simp only [Option.bind_eq_bind, Option.bind_some]
    cases arrival? t.node source candidate.place direction startTime with
    | none => rfl
    | some time => exact (t.carryOut_earlier? _ _ _).symm

end Turn

/-- The launches in a visit: at the end of the exchange of maps, and for the offers of a packet. -/
def Node.launches (n : Node) (v : Visit) : List Launch :=
  match v.call with
  | .timer .decide => (Turn.start n v.now v.position v.nextHandle).locate.decided?.toList
  | .packet sender packet =>
    Turn.launches sender (Turn.start n v.now v.position v.nextHandle).receive packet.messages
  | _ => []

/-! ### What is launched -/

/-- Whether an offer to a peer is pending. The message is given without its number. -/
def Node.Offers (n : Node) (peer : NodeId) (m : Message) : Prop :=
  ∃ attempts, n.offer? peer = some (m, attempts)

/-- Whether a launch offers the wavefront to a peer: one of the forwards of its plan goes there. -/
inductive Launch.Offers (l : Launch) : NodeId → Message → Prop where
  | forward {source : Vec2} {plan : Plan} {f : Forward} (ho : l.turn.origin? l.origin = some source)
      (hp : l.turn.plan? source l.velocity = some plan) (hf : f ∈ plan.forwards) :
      l.Offers f.cluster (.interCluster 0 l.turn.node.id source f.destination f.direction
        l.turn.node.schedule.firstStart)

namespace Turn

variable {t : Turn} {l : Launch} {sender peer : NodeId} {m m' : Message} {ms : List Message}

/-- What is launched at a time is launched after the start has been set. -/
lemma turn_of_earlier? {time : Timestamp} {origin : NodeId} {velocity : Vec2}
    (hl : t.earlier? time origin velocity = some l) :
    ∃ schedule, l.turn = t.setSchedule schedule := by
  rw [earlier?] at hl
  split at hl
  · cases hl
    exact ⟨_, rfl⟩
  · cases hl

lemma turn_of_decided? (hl : t.decided? = some l) :
    ∃ schedule, l.turn = t.exchanged.setSchedule schedule := by
  simp only [decided?, Option.bind_eq_bind, Option.bind_eq_some_iff] at hl
  obtain ⟨starter, -, velocity, -, hl⟩ := hl
  exact turn_of_earlier? hl

lemma turn_of_accepted? {source destination direction : Vec2} {startTime : Timestamp}
    (hl : t.accepted? source destination direction startTime = some l) :
    ∃ schedule, l.turn = t.setSchedule schedule := by
  simp only [accepted?, Option.bind_eq_bind, Option.bind_eq_some_iff] at hl
  obtain ⟨candidate, -, time, -, hl⟩ := hl
  exact turn_of_earlier? hl

lemma of_offersOf {id : NodeId} {source : Vec2} {start : Timestamp} {attempts : Nat}
    {offers : NodeId → Option (Message × Nat)} {fs : List Forward}
    (h : offersOf id source start offers fs peer = some (m, attempts)) :
    offers peer = some (m, attempts) ∨ ∃ f ∈ fs, peer = f.cluster ∧
      m = .interCluster 0 id source f.destination f.direction start := by
  induction fs generalizing offers with
  | nil => exact .inl h
  | cons f fs ih =>
    rcases ih h with h | ⟨f', hf', hm⟩
    · dsimp only at h
      by_cases hp : peer = f.cluster
      · rw [hp, Function.update_self] at h
        cases h
        exact .inr ⟨f, List.mem_cons_self, hp, rfl⟩
      · rw [Function.update_of_ne hp] at h
        exact .inl h
    · exact .inr ⟨f', List.mem_cons_of_mem f hf', hm⟩

/-- Carrying out a launch makes the offers of the launch. -/
lemma offers_carryOut (h : l.carryOut.node.Offers peer m) :
    l.turn.node.Offers peer m ∨ l.Offers peer m := by
  obtain ⟨attempts, h⟩ := h
  cases ho : l.turn.origin? l.origin with
  | none =>
    rw [Launch.carryOut, launch_of_none ho] at h
    exact .inl ⟨attempts, h⟩
  | some source =>
    have hoffer : (l.turn.launched source l.velocity l.turn.node.front).offers peer =
        some (m, attempts) := (congrArg (·.offers peer) (front_launch ho l.velocity)).symm.trans h
    simp only [launched] at hoffer
    cases hp : l.turn.plan? source l.velocity with
    | none =>
      rw [hp] at hoffer
      cases hoffer
    | some plan =>
      rw [hp] at hoffer
      rcases of_offersOf hoffer with hnone | ⟨f, hf, rfl, rfl⟩
      · cases hnone
      · exact .inr (.forward ho hp hf)

/-- Nothing is offered apart from a launch, if there is one. -/
lemma offers_getD {l? : Option Launch}
    (ht : ∀ l, l? = some l → ∃ schedule, l.turn = t.setSchedule schedule)
    (h : ((l?.map Launch.carryOut).getD t).node.Offers peer m) :
    t.node.Offers peer m ∨ ∃ l, l? = some l ∧ l.Offers peer m := by
  cases l? with
  | none => exact .inl h
  | some l =>
    obtain ⟨schedule, hturn⟩ := ht l rfl
    rcases offers_carryOut h with h | h
    · rw [hturn] at h
      exact .inl h
    · exact .inr ⟨l, rfl, h⟩

lemma offers_decideLaunch (h : t.decideLaunch.node.Offers peer m) :
    ∃ l, t.decided? = some l ∧ l.Offers peer m := by
  rw [decideLaunch_eq] at h
  refine (offers_getD (fun l => turn_of_decided?) h).resolve_left ?_
  rintro ⟨attempts, hoffer⟩
  have hnone : t.exchanged.node.offer? peer = none :=
    congrArg (Option.map _) (ReliableSender.get?_giveUp_of_pos _ t.outbox rfl)
  rw [hnone] at hoffer
  cases hoffer

end Turn

variable {n n₀ : Node} {v : Visit} {t t' : Turn} {sender peer : NodeId} {m m' : Message}
  {ms : List Message}

lemma Awaited.offers (h : Awaited v t (peer, .interCluster) m) (hv : ¬ v.MayLaunch) :
    t.node.Offers peer m.unnumbered := by
  cases h with
  | kept hp => exact ⟨_, congrArg (Option.map _) hp⟩
  | offer _ _ _ _ _ hlaunch => exact absurd hlaunch hv

/-- Nothing is offered in a visit in which no wavefront may be launched. -/
lemma Moves.offers_of_not_mayLaunch (h : Moves n v t t') (hv : ¬ v.MayLaunch)
    (ho : t'.node.Offers peer m) : t.node.Offers peer m := by
  refine h.induct (P := fun u => u.node.Offers peer m → t.node.Offers peer m) id ?_ ho
  rintro u u' ih move ⟨attempts, ho⟩
  obtain ⟨p, hp, he⟩ := Option.map_eq_some_iff.1 ho
  obtain ⟨rfl, -⟩ := Prod.mk.inj he
  exact ih ((move.awaited hp).offers hv)

namespace Turn

/-- A message leads to no other offers than those of the launch to which it leads. -/
lemma offers_onMessage (h : (t.onMessage sender m').node.Offers peer m) :
    t.node.Offers peer m ∨ ∃ l, t.answered? m' = some l ∧ l.Offers peer m := by
  by_cases hk : m'.kind = .interCluster
  · obtain ⟨o, ho⟩ := Message.exists_offer hk
    obtain ⟨seq, cluster, rfl⟩ := Message.eq_of_offer? ho
    let u : Turn := t.send cluster (.ack seq t.node.ackName .interCluster)
    by_cases hh : t.node.record.isHead
    · have hanswer : t.answered? (.interCluster seq cluster o.source o.destination o.direction
          o.startTime) = u.accepted? o.source o.destination o.direction o.startTime := if_pos hh
      have hmessage : t.onMessage sender (.interCluster seq cluster o.source o.destination
          o.direction o.startTime) = u.considerOffer o.source o.destination o.direction
          o.startTime := if_pos hh
      rw [hmessage, considerOffer_eq] at h
      rw [hanswer]
      exact offers_getD (t := u) (fun l => turn_of_accepted?) h
    · have hmessage : t.onMessage sender (.interCluster seq cluster o.source o.destination
          o.direction o.startTime) = u := if_neg hh
      rw [hmessage] at h
      exact .inl h
  · refine .inl ((t.moves_onMessage sender m').offers_of_not_mayLaunch ?_ h)
    rintro (hc | ⟨m'', hb, hm''⟩)
    · exact Call.noConfusion hc
    · rw [List.mem_singleton.1 hb] at hm''
      exact hk hm''

lemma offers_onMessages (h : (ms.foldl (onMessage sender) t).node.Offers peer m) :
    t.node.Offers peer m ∨ ∃ l ∈ launches sender t ms, l.Offers peer m := by
  induction ms generalizing t with
  | nil => exact .inl h
  | cons m' ms ih =>
    rcases ih h with h | ⟨l, hl, h⟩
    · refine (offers_onMessage h).imp_right ?_
      rintro ⟨l, hl, h⟩
      exact ⟨l, List.mem_append_left _ (Option.mem_toList.2 hl), h⟩
    · exact .inr ⟨l, List.mem_append_right _ hl, h⟩

end Turn

namespace Node

/-- An offer that is pending after a visit was pending before, or a launch of the visit has made
it. -/
lemma offers_of_visit (h : (n.visit v).node.Offers peer m) :
    n.Offers peer m ∨ ∃ l ∈ n.launches v, l.Offers peer m := by
  by_cases hv : v.MayLaunch
  · rcases hv with hc | ⟨m', hb, -⟩
    · rw [n.visit_timer hc, Turn.node_noteRole] at h
      obtain ⟨l, hl, h⟩ := Turn.offers_decideLaunch h
      rw [launches, hc]
      exact .inr ⟨l, Option.mem_toList.2 hl, h⟩
    · obtain ⟨sender, packet, hc, -⟩ := Visit.brings_iff.1 hb
      rw [n.visit_of_packet hc, Turn.node_noteRole] at h
      rw [launches, hc]
      exact Turn.offers_onMessages h
  · exact .inl ((moves_visit n v).offers_of_not_mayLaunch hv h)

/-- Every offer in a run was made by a launch. -/
lemma IsNew.exists_launch (hn : n₀.IsNew) {vs : List Visit} (h : (n₀.after vs).Offers peer m) :
    ∃ us v ws, vs = us ++ v :: ws ∧ ∃ l ∈ (n₀.after us).launches v, l.Offers peer m := by
  induction vs using List.reverseRecOn with
  | nil =>
    obtain ⟨attempts, h⟩ := h
    rw [after_nil, offer?, hn.blank.2.1] at h
    cases h
  | append_singleton vs v ih =>
    rw [after_append] at h
    rcases offers_of_visit h with h | h
    · obtain ⟨us, w, ws, rfl, hl⟩ := ih h
      exact ⟨us, w, ws ++ [v], by rw [List.append_assoc, List.cons_append], hl⟩
    · exact ⟨vs, v, [], rfl, h⟩

end Node

/-! ### Maps within a visit -/

/-- Whether all maps of other clusters have passed the check of their shape. -/
def Node.Shaped (n : Node) : Prop := ∀ c m, n.neighborMaps.get? c = some m → m.checkShape = .ok ()

namespace Turn

variable {t : Turn} {l : Launch}

lemma shaped_exchanged (h : t.node.Shaped) : t.exchanged.node.Shaped := by
  intro c m hm
  have hm' : (t.node.neighborMaps.filter fun c _ => t.node.registry.foreign.contains c).get? c =
      some m := hm
  rw [Table.get?_filter, Option.filter_eq_some_iff] at hm'
  exact h c m hm'.1

lemma shaped_onMessage (h : t.node.Shaped) (sender : NodeId) (m : Message) :
    (t.onMessage sender m).node.Shaped := by
  refine (t.moves_onMessage sender m).induct (P := fun t => t.node.Shaped) h ?_
  intro t t' ht move c m hm
  rcases move.neighborMaps hm with hm | ⟨hshape, -⟩
  · exact ht c m hm
  · exact hshape

lemma shaped_of_decided? (h : t.node.Shaped) (hl : t.decided? = some l) :
    l.turn.node.Shaped := by
  obtain ⟨schedule, hturn⟩ := turn_of_decided? hl
  rw [hturn]
  exact shaped_exchanged h

lemma shaped_of_answered? {m : Message} (h : t.node.Shaped) (hl : t.answered? m = some l) :
    l.turn.node.Shaped := by
  cases m with
  | interCluster =>
    simp only [answered?] at hl
    split at hl
    · obtain ⟨schedule, hturn⟩ := turn_of_accepted? hl
      rw [hturn]
      exact h
    · cases hl
  | _ => cases hl

lemma shaped_of_mem_launches {sender : NodeId} {ms : List Message} (h : t.node.Shaped)
    (hl : l ∈ launches sender t ms) : l.turn.node.Shaped := by
  induction ms generalizing t with
  | nil => cases hl
  | cons m ms ih =>
    rcases List.mem_append.1 hl with hl | hl
    · exact shaped_of_answered? h (Option.mem_toList.1 hl)
    · exact ih (shaped_onMessage h sender m) hl

/-- A target is a map that is kept. -/
lemma checkShape_of_mem_targets (h : t.node.Shaped) {target : Target} (ht : target ∈ t.targets) :
    target.map.checkShape = .ok () := by
  obtain ⟨⟨cluster, m⟩, hm, ht⟩ := List.mem_filterMap.1 ht
  obtain ⟨head, -, rfl⟩ := Option.map_eq_some_iff.1 ht
  exact h cluster m (Table.get?_eq_some_iff.2 hm)

end Turn

namespace Node

variable {n n₀ : Node} {v : Visit} {l : Launch}

lemma Shaped.of_mem_launches (h : n.Shaped) (hl : l ∈ n.launches v) : l.turn.node.Shaped := by
  rw [launches] at hl
  split at hl
  · exact Turn.shaped_of_decided? h (Option.mem_toList.1 hl)
  · exact Turn.shaped_of_mem_launches h hl
  · cases hl

/-- Every cell at which a wavefront can be aimed has a place. In every run, the maps that a node
keeps have passed the check of their shape, and so they have at every launch in the visit that
follows. The index of a dense cell is then one of the cells of its map, the size of the grid by
which it is divided is not zero, and the cell has a place; so there is a plan, wherever the
wavefront leaves from. Nothing else is launched: every offer to another cluster that is pending was
made by a launch of some visit of the run. -/
theorem cells_have_places (h : n₀.IsNew) (vs : List Visit) :
    (∀ c m, (n₀.after vs).neighborMaps.get? c = some m → m.checkShape = .ok ()) ∧
    (∀ v, ∀ l ∈ (n₀.after vs).launches v,
      (∀ target ∈ l.turn.targets, ∀ c ∈ target.map.denseCells,
        c.1 < target.map.cells.length ∧ target.map.grid.size ≠ 0 ∧
          target.map.grid.cellOffset? (.ofNat c.1) = some (target.map.grid.cellPlace c.1)) ∧
      ∀ source, ∃ plan, l.turn.plan? source l.velocity = some plan) ∧
    ∀ peer m, (n₀.after vs).Offers peer m → ∃ us v ws, vs = us ++ v :: ws ∧
      ∃ l ∈ (n₀.after us).launches v, l.Offers peer m := by
  have hshaped : (n₀.after vs).Shaped := fun c m hm => h.checkShape vs hm
  refine ⟨hshaped, fun v l hl => ?_, fun peer m => h.exists_launch⟩
  have hchecked : ∀ target ∈ l.turn.targets, target.map.checkShape = .ok () :=
    fun target ht => Turn.checkShape_of_mem_targets (hshaped.of_mem_launches hl) ht
  constructor
  · rintro target ht ⟨index, value⟩ hc
    have hindex : index < target.map.cells.length :=
      (List.getElem?_eq_some_iff.1 (DensityMap.mem_denseCells_iff.1 hc).1).1
    exact ⟨hindex, DensityMap.size_ne_zero_of_checkShape (hchecked target ht) hindex,
      DensityMap.cellOffset?_of_checkShape (hchecked target ht) hindex⟩
  · intro source
    obtain ⟨found, hfound, -⟩ := Plan.exists_covers hchecked
    exact ⟨_, by rw [Turn.plan?, Plan.make?, hfound, Option.map_some]⟩

open Visit (rings hears)

/-- The visits of a node that is sent three maps: one of size zero without cells, one of size zero
with a dense cell, and one of four cells of which one is dense. -/
def visitsWithMaps : List Visit :=
  [⟨.start, Vec3.zero, 1, .start⟩,
    hears 50 2 ⟨9⟩ (mapFrom ⟨9⟩ ⟨⟨0, Binary64.one⟩, []⟩),
    hears 60 3 ⟨8⟩ (mapFrom ⟨8⟩ ⟨⟨0, Binary64.one⟩, [Binary64.two]⟩),
    hears 70 4 ⟨7⟩ (mapFrom ⟨7⟩
      ⟨⟨2, Binary64.one⟩, [Binary64.zero, Binary64.two, Binary64.zero, Binary64.zero]⟩)]

/-- A starter launches its wavefront with a map of size zero among those that it has kept. -/
theorem rowless_map_does_no_harm : ∃ (n₀ : Node) (l : Launch), n₀.IsNew ∧
    l ∈ (n₀.after visitsWithMaps).launches (rings 100 5 .decide) ∧
    l.turn.targets.map (fun target => target.map.grid.size) = [2, 0] ∧
    (∀ target ∈ l.turn.targets, ∀ c ∈ target.map.denseCells,
      c.1 < target.map.cells.length ∧ target.map.grid.size ≠ 0 ∧
        target.map.grid.cellOffset? (.ofNat c.1) = some (target.map.grid.cellPlace c.1)) ∧
    ∀ source, ∃ plan, l.turn.plan? source l.velocity = some plan := by
  have hrun : ((create ⟨1⟩ Settings.standard true (some Vec2.zero)).toOption.any fun n =>
      ((n.after visitsWithMaps).launches (rings 100 5 .decide)).any fun l =>
        l.turn.targets.map (fun target => target.map.grid.size) = [2, 0]) = true := by
    decide +kernel
  simp only [Option.any_eq_true, List.any_eq_true, decide_eq_true_eq] at hrun
  obtain ⟨n, hn, l, hl, hsizes⟩ := hrun
  have hnew : n.IsNew := .of_toOption hn
  exact ⟨n, l, hnew, hl, hsizes, (cells_have_places hnew visitsWithMaps).2.1 _ l hl⟩

end Node

end ClusterWave
