import ClusterWave.Proofs.Network.Basic
import ClusterWave.Proofs.Node.Pending
import ClusterWave.Proofs.Wavefront.SingleShot

/-!
# No wavefront without an origin

Wavefronts only travel forwards in time. Whoever takes a start over from a message adds to it or
leaves it as it is, and whoever passes a start on passes on its own. So no start that is known
anywhere in a network, at a node or on the way, is earlier than all the starts that nodes have
offered for wavefronts of their own, and no node activates before them either.
-/

namespace ClusterWave

variable {bound : Timestamp}

/-- The start that a message tells of, if any, is not before a given time. -/
def Message.StartsFrom (bound : Timestamp) (m : Message) : Prop :=
  ∀ t, m.startTime? = some t → bound ≤ t

/-! ### Schedules -/

/-- Neither start is before a given time. -/
structure Schedule.StartsFrom (bound : Timestamp) (s : Schedule) : Prop where
  start : bound ≤ s.start
  firstStart : bound ≤ s.firstStart

namespace Schedule.StartsFrom

variable {s : Schedule}

lemma idle : Schedule.idle.StartsFrom bound := ⟨Timestamp.le_never _, Timestamp.le_never _⟩

lemma relaxFirstStart (h : s.StartsFrom bound) {candidate : Timestamp} (hc : bound ≤ candidate)
    (node : NodeId) (now : Timestamp) :
    (s.relaxFirstStart candidate node now).1.StartsFrom bound := by
  simp only [Schedule.relaxFirstStart]
  split
  · exact ⟨h.start, hc⟩
  · exact h

lemma adoptStart (h : s.StartsFrom bound) {candidate : Timestamp} (hc : bound ≤ candidate)
    (node : NodeId) (now : Timestamp) :
    (s.adoptStart candidate node now).1.StartsFrom bound := by
  simp only [Schedule.adoptStart]
  split
  · split
    · exact ⟨hc, hc⟩
    · exact ⟨hc, h.firstStart⟩
  · exact h

lemma startWithCluster (h : s.StartsFrom bound) : s.startWithCluster.1.StartsFrom bound := by
  simp only [Schedule.startWithCluster]
  split
  · exact ⟨h.firstStart, h.firstStart⟩
  · exact h

end Schedule.StartsFrom

/-! ### Moves -/

structure Node.StartsFrom (bound : Timestamp) (n : Node) : Prop where
  forward : n.settings.reverse = false
  schedule : n.schedule.StartsFrom bound
  pending : ∀ key p, n.reliable.pending.get? key = some p → p.message.StartsFrom bound

structure Turn.StartsFrom (bound : Timestamp) (as : List Alarm) (t : Turn) : Prop where
  node : t.node.StartsFrom bound
  alarms : ∀ a ∈ t.outbox.alarms t.now as, a.timer = .activate → bound ≤ a.due
  sent : ∀ e ∈ t.outbox.effects, ∀ m ∈ e.messages, m.StartsFrom bound

/-- A visit neither brings nor offers an earlier start. -/
structure Visit.StartsFrom (bound : Timestamp) (n : Node) (v : Visit) : Prop where
  brought : ∀ m, v.Brings m → m.StartsFrom bound
  offered : ∀ t, n.origination? v = some t → bound ≤ t

variable {n : Node} {v : Visit} {t t' : Turn} {as : List Alarm}

/-- Most messages tell of no start. -/
lemma Message.startsFrom_of_none {m : Message} (h : m.startTime? = none) : m.StartsFrom bound := by
  intro t he
  rw [h] at he
  cases he

lemma Offered.le {candidate : Timestamp} (h : Offered n v candidate)
    (hv : v.StartsFrom bound n) : bound ≤ candidate := by
  cases h with
  | own h => exact hv.offered candidate h
  | passedOn h delay =>
    exact Timestamp.le_trans (hv.brought _ h _ rfl) (Timestamp.le_add _ delay)

/-- No move turns a schedule to an earlier start. -/
lemma Move.schedule_startsFrom (m : Move n v t t') (hv : v.StartsFrom bound n)
    (h : t.node.schedule.StartsFrom bound) : t'.node.schedule.StartsFrom bound := by
  cases m with
  | direction => exact ⟨h.start, h.firstStart⟩
  | relaxFirst node ho => exact ⟨h.start, ho.le hv⟩
  | startFirst =>
    rw [Turn.node_startFirst]
    exact h.startWithCluster
  | startAlone hc ho =>
    rw [Turn.startAlone, Turn.node_scheduleActivation]
    have hs := (h.relaxFirstStart (hv.offered _ ho) t.node.id t.now).startWithCluster
    exact ⟨hs.start, hs.firstStart⟩
  | adopt hm =>
    rw [Turn.node_scheduleActivation]
    exact h.adoptStart (hv.brought _ hm _ rfl) _ _
  | relax hm travel =>
    rw [Turn.node_scheduleActivation]
    exact ⟨Timestamp.le_trans (hv.brought _ hm _ rfl) (Timestamp.le_add _ travel), h.firstStart⟩
  | disarm =>
    rw [Turn.node_disarm]
    exact h
  | retransmit =>
    rw [Turn.node_retransmit]
    exact h
  | activate =>
    rw [Turn.node_activate]
    exact h
  | _ => exact h

/-- What awaits its acknowledgment was there before or tells of the start of the node. -/
lemma Awaited.startsFrom {key : NodeId × MessageKind} {m : Message} (h : Awaited v t key m)
    (ht : t.node.StartsFrom bound) : m.StartsFrom bound := by
  cases h with
  | kept h => exact ht.pending _ _ h
  | offer =>
    intro time he
    exact Option.some.inj he ▸ ht.schedule.firstStart
  | map => exact Message.startsFrom_of_none rfl

/-- What is asked for tells of no start but those of the node and of what it awaits. -/
lemma Asked.startsFrom {e : Effect} (h : Asked n v t e) (hn : n.StartsFrom bound)
    (ht : t.node.StartsFrom bound) : ∀ m ∈ e.messages, m.StartsFrom bound := by
  have hplain (m : Message) (hm : m.isPlain) : m.StartsFrom bound := by
    cases m with
    | interCluster => cases hm
    | intraCluster => cases hm
    | interNode => cases hm
    | _ => exact Message.startsFrom_of_none rfl
  intro m hm
  cases h with
  | plainBroadcast h => exact hplain m (h m hm).isPlain
  | incident =>
    rw [List.mem_singleton.1 hm]
    exact hplain _ rfl
  | answer =>
    rw [List.mem_singleton.1 hm]
    exact Message.startsFrom_of_none rfl
  | announce =>
    rw [List.mem_singleton.1 hm]
    intro time he
    exact Option.some.inj he ▸ ht.schedule.firstStart
  | passOn =>
    rw [List.mem_singleton.1 hm]
    intro time he
    exact Option.some.inj he ▸ ht.schedule.start
  | again hv h =>
    rw [List.mem_singleton.1 hm]
    exact hn.pending _ _ h
  | _ => cases hm

lemma Move.startsFrom (m : Move n v t t') (hv : v.StartsFrom bound n) (hn : n.StartsFrom bound)
    (h : t.StartsFrom bound as) : t'.StartsFrom bound as := by
  have hnode : t'.node.StartsFrom bound :=
    ⟨m.alike.settings ▸ h.node.forward, m.schedule_startsFrom hv h.node.schedule,
      fun key p hp => (m.awaited hp).startsFrom h.node⟩
  refine ⟨hnode, fun a ha hat => ?_, fun e he => ?_⟩
  · rcases m.mem_alarms_of_activate h.node.forward ha hat with ha | harms
    · exact h.alarms a ha hat
    · exact harms.due ▸ hnode.schedule.start
  · rcases m.asked.mem_effects he with he | ⟨handle, rfl⟩ | hask
    · exact h.sent e he
    · exact List.forall_mem_nil _
    · exact hask.startsFrom hn hnode

/-- A visit that neither brings nor offers an earlier start leaves none behind. -/
lemma Node.StartsFrom.visit (hn : n.StartsFrom bound) (hv : v.StartsFrom bound n)
    (ha : ∀ a ∈ as, a.timer = .activate → bound ≤ a.due) :
    (n.visit v).StartsFrom bound as :=
  (moves_visit n v).induct (P := fun t => t.StartsFrom bound as) ⟨hn, ha, List.forall_mem_nil _⟩
    fun _ _ h m => m.startsFrom hv hn h

/-! ### Networks -/

/-- A node activates only when its timer says so. -/
lemma Node.activations_visit (n : Node) (hv : v.call ≠ .timer .activate) :
    (n.visit v).node.counters.activations = n.counters.activations :=
  (moves_visit n v).induct
    (P := fun t => t.node.counters.activations = n.counters.activations) rfl
    fun _ _ h m => (m.activations_eq hv).trans h

/-- Whether a node activated in a visit. -/
def Deed.Activates (d : Deed) : Prop :=
  d.before.counters.activations < (d.before.visit d.visit).node.counters.activations

namespace Network

/-- The starts that nodes have offered for wavefronts of their own. -/
def originations (net : Network) : List Timestamp :=
  net.log.filterMap fun d => d.before.origination? d.visit

structure StartsFrom (bound : Timestamp) (net : Network) : Prop where
  nodes : ∀ id b, net.benches.get? id = some b → b.node.StartsFrom bound
  alarms : ∀ id b, net.benches.get? id = some b →
    ∀ a ∈ b.alarms, a.timer = .activate → bound ≤ a.due
  flying : ∀ p ∈ net.flying, ∀ m ∈ p.packet.messages, m.StartsFrom bound
  brought : ∀ d ∈ net.log, ∀ m, d.visit.Brings m → m.StartsFrom bound
  activations : ∀ d ∈ net.log, d.Activates → bound ≤ d.visit.now

variable {net net' : Network} {id : NodeId} {b b' : Bench}

lemma StartsFrom.lose (h : net.StartsFrom bound) (hb : net'.benches = net.benches)
    (hl : net'.log = net.log) (hf : ∀ p ∈ net'.flying, p ∈ net.flying) :
    net'.StartsFrom bound :=
  ⟨hb ▸ h.nodes, hb ▸ h.alarms, fun p hp => h.flying p (hf p hp), hl ▸ h.brought,
    hl ▸ h.activations⟩

lemma StartsFrom.visit (h : net.StartsFrom bound) (hv : net.Visited id b b' v net')
    (ho : ∀ t, b.node.origination? v = some t → bound ≤ t) : net'.StartsFrom bound := by
  have hbr : ∀ m, v.Brings m → m.StartsFrom bound := by
    intro m hm
    obtain ⟨sender, packet, hc, hm⟩ := Visit.brings_iff.1 hm
    exact h.flying _ (hv.arrived sender packet hc) m hm
  obtain ⟨as, hr, has⟩ := hv.attended.alarms
  have ht : (b.node.visit v).StartsFrom bound as :=
    (h.nodes id b hv.bench).visit ⟨hbr, ho⟩ fun a ha =>
      h.alarms id b hv.bench a (hr.mem ha)
  have hnow : (b.node.visit v).now = v.now := (moves_visit b.node v).alike.now
  refine ⟨fun id' c hc => ?_, fun id' c hc => ?_, fun p hp => ?_, ?_, ?_⟩
  · rcases hv.get? hc with ⟨hc, -⟩ | ⟨-, rfl⟩
    · exact h.nodes id' c hc
    · exact hv.attended.node ▸ ht.node
  · rcases hv.get? hc with ⟨hc, -⟩ | ⟨-, rfl⟩
    · exact h.alarms id' c hc
    · rw [has, ← hnow]
      exact ht.alarms
  · rcases hv.flying p hp with hp | hp
    · exact h.flying p hp
    · obtain ⟨-, e, he, hm, -⟩ := mem_sent hp
      exact hm ▸ ht.sent e he
  · rw [hv.log]
    exact List.forall_mem_cons.2 ⟨hbr, h.brought⟩
  · rw [hv.log]
    refine List.forall_mem_cons.2 ⟨fun hact => ?_, h.activations⟩
    by_cases hc : v.call = .timer .activate
    · -- the timer that went off was armed for a start
      obtain ⟨a, ha, hat, hd⟩ := hr.due hc
      exact hd ▸ h.alarms id b hv.bench a ha hat
    · exact absurd (b.node.activations_visit hc) (Nat.ne_of_gt hact)

lemma IsNew.startsFrom (h : net.IsNew)
    (hf : ∀ id b, net.benches.get? id = some b → b.node.settings.reverse = false) :
    net.StartsFrom bound := by
  obtain ⟨hn, hfl, hl⟩ := h
  refine ⟨fun id b hb => ?_, fun id b hb => ?_, ?_, ?_, ?_⟩
  · obtain ⟨hs, hp, -⟩ := (hn id b hb).1.blank
    refine ⟨hf id b hb, ?_, fun key p hk => ?_⟩
    · rw [hs]
      exact .idle
    · rw [hp] at hk
      cases hk
  · rw [(hn id b hb).2.2]
    exact List.forall_mem_nil _
  · rw [hfl]
    exact List.forall_mem_nil _
  · rw [hl]
    exact List.forall_mem_nil _
  · rw [hl]
    exact List.forall_mem_nil _

lemma mem_originations {d : Deed} (hd : d ∈ net.log) {t : Timestamp}
    (ht : d.before.origination? d.visit = some t) : t ∈ net.originations :=
  List.mem_filterMap.2 ⟨d, hd, ht⟩

/-- Nothing in a network comes before every start that was offered for a wavefront: no start of a
node or its cluster, none that a message tells of, be it pending, on its way or handled, and no
activation. -/
theorem nothing_precedes_originations {net₀ : Network} {acts : List Act} (hn : net₀.IsNew)
    (hf : ∀ id b, net₀.benches.get? id = some b → b.node.settings.reverse = false)
    (h : net₀.run? acts = some net) (ho : ∀ t ∈ net.originations, bound ≤ t) :
    (∀ id b, net.benches.get? id = some b →
      bound ≤ b.node.schedule.start ∧ bound ≤ b.node.schedule.firstStart ∧
        ∀ key p, b.node.reliable.pending.get? key = some p → p.message.StartsFrom bound) ∧
      (∀ p ∈ net.flying, ∀ m ∈ p.packet.messages, m.StartsFrom bound) ∧
      (∀ d ∈ net.log, ∀ m, d.visit.Brings m → m.StartsFrom bound) ∧
      ∀ d ∈ net.log, d.Activates → bound ≤ d.visit.now := by
  have hs : net.StartsFrom bound := by
    refine run?_induct (P := fun net => (∀ t ∈ net.originations, bound ≤ t) →
      net.StartsFrom bound) h (fun _ => hn.startsFrom hf) ?_ ?_ ho
    · intro net net' ih hb hl hfl ho
      have he : net'.originations = net.originations := by rw [originations, hl, originations]
      exact (ih (he ▸ ho)).lose hb hl hfl
    · intro net net' id b b' v ih hv ho
      have hlog : ∀ d ∈ net'.log, ∀ t, d.before.origination? d.visit = some t → bound ≤ t :=
        fun d hd t ht => ho t (mem_originations hd ht)
      rw [hv.log] at hlog
      obtain ⟨hnow, hpast⟩ := List.forall_mem_cons.1 hlog
      refine (ih fun t ht => ?_).visit hv hnow
      obtain ⟨d, hd, ht⟩ := List.mem_filterMap.1 ht
      exact hpast d hd t ht
  exact ⟨fun id b hb => ⟨(hs.nodes id b hb).schedule.start, (hs.nodes id b hb).schedule.firstStart,
    (hs.nodes id b hb).pending⟩, hs.flying, hs.brought, hs.activations⟩

/-- A starter that stands alone offers a start in five seconds and activates then; what it sends is
on its way to the other node. -/
theorem lone_starter_precedes_nothing : ∃ (net₀ net : Network) (acts : List Act),
    net₀.IsNew ∧
      (∀ id b, net₀.benches.get? id = some b → b.node.settings.reverse = false) ∧
      net₀.run? acts = some net ∧ (∀ t ∈ net.originations, Timestamp.ofSecs 5 ≤ t) ∧
      (∃ d ∈ net.log, d.Activates) ∧ net.flying.length = 1 ∧
      (∀ id b, net.benches.get? id = some b →
        .ofSecs 5 ≤ b.node.schedule.start ∧ .ofSecs 5 ≤ b.node.schedule.firstStart ∧
          ∀ key p, b.node.reliable.pending.get? key = some p → p.message.StartsFrom (.ofSecs 5)) ∧
      (∀ p ∈ net.flying, ∀ m ∈ p.packet.messages, m.StartsFrom (.ofSecs 5)) ∧
      (∀ d ∈ net.log, ∀ m, d.visit.Brings m → m.StartsFrom (.ofSecs 5)) ∧
      ∀ d ∈ net.log, d.Activates → .ofSecs 5 ≤ d.visit.now := by
  let acts : List Act :=
    [ .visit ⟨1⟩ ⟨.start, Vec3.zero, 1, .start⟩,
      .visit ⟨2⟩ ⟨.start, Vec3.zero, 1, .start⟩,
      .visit ⟨1⟩ ⟨.start, Vec3.zero, 3, .timer .stop⟩,
      .visit ⟨1⟩ ⟨.ofSecs 5, Vec3.zero, 4, .timer .activate⟩ ]
  have hrun : ((Node.create ⟨1⟩ Bench.hastySettings true (some Vec2.zero)).toOption.any fun n =>
      (Node.create ⟨2⟩ Bench.hastySettings false none).toOption.any fun n' =>
        !n.settings.reverse && !n'.settings.reverse &&
          ((setUp [n, n']).run? acts).any fun net =>
            net.originations.all (fun t => .ofSecs 5 ≤ t) && net.flying.length == 1 &&
              net.log.any fun d => d.before.counters.activations <
                (d.before.visit d.visit).node.counters.activations) = true := by decide +kernel
  simp only [Option.any_eq_true, Bool.and_eq_true, Bool.not_eq_true', List.any_eq_true,
    List.all_eq_true, beq_iff_eq, decide_eq_true_eq] at hrun
  obtain ⟨n, hn, n', hn', ⟨hf, hf'⟩, net, hnet, ⟨ho, hl⟩, hact⟩ := hrun
  have hnew := isNew_pair hn hn'
  have hrev : ∀ id b, (setUp [n, n']).benches.get? id = some b →
      b.node.settings.reverse = false := by
    intro id b hb
    obtain ⟨m, hm, -, rfl⟩ := mem_of_setUp hb
    rw [List.mem_cons, List.mem_singleton] at hm
    rcases hm with rfl | rfl
    · exact hf
    · exact hf'
  exact ⟨_, net, acts, hnew, hrev, hnet, ho, hact, hl,
    nothing_precedes_originations hnew hrev hnet ho⟩

end Network

end ClusterWave
