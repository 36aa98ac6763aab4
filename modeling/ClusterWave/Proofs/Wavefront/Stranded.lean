import ClusterWave.Proofs.Clustering.Formation
import ClusterWave.Proofs.Wavefront.Repeat

/-!
# Nodes that are stranded

A node is stranded if it is ready and no timer is armed for its activation. A starter that stands
alone gets ready when clustering ends, even if it is left without a start; and a member gets ready
for a start that never comes, if its head announces one. `Node.Strands` says exactly when a visit
strands a node. No other visit does, and so a node that is ready has a timer for its activation
unless such a visit came before.
-/

namespace ClusterWave

/-- Whether a starter that stands alone is left without a start when clustering ends: its own start
or that of its cluster is over, or it has none and the one after the lead time is not accepted. -/
def Schedule.Lapses (s : Schedule) (now : Timestamp) (lead : Duration) : Prop :=
  s.start < now ∨ s.firstStart < now ∨
    s.start.isNever ∧ s.firstStart.isNever ∧ ¬ (now < now + lead ∧ now + lead < .never)

/-- Whether a visit strands a node that is not stranded before. -/
inductive Node.Strands (n : Node) (v : Visit) : Prop where
  /-- Clustering ends for a starter that stands alone. -/
  | alone (hv : v.call = .timer .stop) (ha : n.record.isStandalone ∧ n.record.isStarter)
      (hs : n.slots.activation = none) (hl : n.schedule.Lapses v.now n.settings.startLead)
  /-- A start that never comes is taken over, and no other one by the end of the visit. -/
  | misled {s : Notice} {seq : UInt64} {d : Vec2} {t t' : Turn}
      (h : n.Reads v (s.message seq d) t t') (hs : s.startTime.isNever)
      (ht : t.node.TakesOver v.now s) (hn : (n.visit v).node.schedule.start.isNever)

variable {n : Node} {v : Visit} {t t' : Turn} {sender : NodeId} {m : Message} {ms : List Message}
  {now : Timestamp}

/-! ### The end of clustering -/

lemma Turn.idles_noteRole (t : Turn) (before : Degree × Option NodeId) :
    (t.noteRole before).node.Idles ↔ t.node.Idles := by
  rw [node_noteRole]
  rfl

/-- What the end of clustering makes of the start of a starter that stands alone. -/
lemma Schedule.lapses_iff (s : Schedule) (now : Timestamp) (lead : Duration) (node : NodeId) :
    s.Lapses now lead ↔
      (s.relaxFirstStart (now + lead) node now).1.startWithCluster.1.start.isNever ∨
        (s.relaxFirstStart (now + lead) node now).1.startWithCluster.1.start < now := by
  have hn : Timestamp.never.micros.toNat = 18446744073709551615 := rfl
  have hnever (t : Timestamp) : t.isNever ↔ t.micros.toNat = 18446744073709551615 := by
    rw [Timestamp.isNever_iff, ← hn]
    exact ⟨congrArg fun t : Timestamp => t.micros.toNat, Timestamp.eq_of_toNat⟩
  have hlt (t t' : Timestamp) : t < t' ↔ t.micros.toNat < t'.micros.toNat := Iff.rfl
  have hstart := s.start.micros.toNat_lt
  have hfirst := s.firstStart.micros.toNat_lt
  simp only [Lapses, relaxFirstStart, startWithCluster, hnever, hlt, hn]
  split <;> split <;> dsimp only at * <;> omega

/-- A starter on its own idles if it is left without a start. -/
lemma Turn.idles_startAlone_iff (t : Turn) : t.startAlone.node.Idles ↔
    t.node.slots.activation = none ∧ t.node.schedule.Lapses t.now t.node.settings.startLead := by
  rw [t.node.schedule.lapses_iff t.now t.node.settings.startLead t.node.id, and_comm]
  exact idles_scheduleActivation_iff

/-- When clustering ends for a starter that stands alone, it idles if it is left without a start. -/
lemma Node.idles_visit_stop_iff (hv : v.call = .timer .stop)
    (ha : n.record.isStandalone ∧ n.record.isStarter) : (n.visit v).node.Idles ↔
      n.slots.activation = none ∧ n.schedule.Lapses v.now n.settings.startLead := by
  let t : Turn := (Turn.start n v.now v.position v.nextHandle).locate
  have hstop : t.fire .stop = t.unclustered.startAlone := Turn.endClustering_of_alone ha
  rw [n.visit_timer hv, Turn.idles_noteRole, hstop, Turn.idles_startAlone_iff, t.now_unclustered,
    t.node_unclustered]
  rfl

/-! ### Packets -/

namespace Turn

/-- A message lets a node idle only if the node takes over a start that never comes. -/
lemma idles_of_onMessage (hi : (t.onMessage sender m).node.Idles) : t.node.Idles ∨
    ∃ s seq d, m = Notice.message s seq d ∧ s.startTime.isNever ∧ t.node.TakesOver t.now s := by
  by_cases hm : ∃ s seq d, m = Notice.message s seq d
  · obtain ⟨s, seq, d, rfl⟩ := hm
    by_cases ht : t.node.TakesOver t.now s
    · rw [onMessage_of_takesOver ht, idles_scheduleActivation_iff,
        (adopts_of_takesOver ht d).2] at hi
      refine .inr ⟨s, seq, d, rfl, hi.1.resolve_right fun hlt => ?_, ht⟩
      exact Timestamp.not_lt.2 (Timestamp.le_of_lt ht.ahead) hlt
    · obtain ⟨direction, he⟩ := onMessage_of_not_takesOver ht sender seq d
      rw [he] at hi
      exact .inl hi
  · have hv : (t.hearing sender m).call ≠ .timer .activate := fun hc => Call.noConfusion hc
    have hstrand : ¬ t.node.MayStrand (t.hearing sender m) := by
      rintro (⟨hc, -⟩ | ⟨seq, cluster, starter, d, hb⟩)
      · exact Call.noConfusion hc
      · exact hm ⟨⟨cluster, starter, .never⟩, seq, d, (List.mem_singleton.1 hb).symm⟩
    refine .inl ((t.moves_onMessage sender m).induct
      (P := fun u => u.node.Idles → t.node.Idles) id ?_ hi)
    intro u u' ih move hi
    exact ih ((move.idles hv hi).resolve_right hstrand)

/-- Of some messages that let a node idle, one has it take over a start that never comes. -/
lemma exists_takesOver_never (hi : (ms.foldl (onMessage sender) t).node.Idles)
    (h : ¬ t.node.Idles) : ∃ before s seq d after, ms = before ++ Notice.message s seq d :: after ∧
      s.startTime.isNever ∧ (before.foldl (onMessage sender) t).node.TakesOver t.now s := by
  induction ms generalizing t with
  | nil => exact absurd hi h
  | cons m ms ih =>
    by_cases hm : (t.onMessage sender m).node.Idles
    · obtain ⟨s, seq, d, rfl, hs, ht⟩ := (idles_of_onMessage hm).resolve_left h
      exact ⟨[], s, seq, d, ms, rfl, hs, ht⟩
    · obtain ⟨before, s, seq, d, after, rfl, hs, ht⟩ := ih hi hm
      rw [(t.moves_onMessage sender m).alike.now] at ht
      exact ⟨m :: before, s, seq, d, after, rfl, hs, ht⟩

/-- No message changes the status of a node that is ready. -/
lemma ready_onMessages (h : t.node.status = .ready) (sender : NodeId) (ms : List Message) :
    (ms.foldl (onMessage sender) t).node.status = .ready := by
  refine List.foldlRecOn (motive := fun u : Turn => u.node.status = .ready) ms _ h ?_
  intro u hu m _
  rcases advances_onMessage (.inr hu) sender m with he | ⟨hready, -⟩
  · exact (congrArg Intent.status he).trans hu
  · exact hready

end Turn

namespace Node

/-- What follows in a visit on a message that is read. -/
lemma Reads.exists_rest (h : n.Reads v m t t') : ∃ (sender : NodeId) (rest : List Message),
    (n.visit v).node.status = (rest.foldl (Turn.onMessage sender) t').node.status ∧
    (n.visit v).node.schedule = (rest.foldl (Turn.onMessage sender) t').node.schedule ∧
      Moves n v t' (rest.foldl (Turn.onMessage sender) t') := by
  obtain ⟨sender, before, rest, hv, rfl, rfl⟩ := h
  refine ⟨sender, rest, ?_, ?_, Moves.foldl (fun u m' hm' => .onMessage sender u ?_) _⟩
  · rw [n.visit_of_packet hv, Turn.node_noteRole, List.foldl_append, List.foldl_cons]
  · rw [n.visit_of_packet hv, Turn.node_noteRole, List.foldl_append, List.foldl_cons]
  · refine Visit.brings_iff.2 ⟨sender, _, hv, ?_⟩
    exact List.mem_append_right _ (List.mem_cons_of_mem _ hm')

/-- Who takes a start over is ready for it. -/
lemma Reads.ready_of_takesOver {s : Notice} {seq : UInt64} {d : Vec2}
    (h : n.Reads v (s.message seq d) t t') (ht : t.node.TakesOver v.now s) :
    t'.now = v.now ∧ t'.node.status = .ready ∧ t'.node.schedule.start = s.startTime := by
  have hnow : t.now = v.now := h.alike.now
  rw [← hnow] at ht ⊢
  obtain ⟨sender, -, -, -, -, rfl⟩ := h
  rw [Turn.onMessage_of_takesOver ht, Turn.now_scheduleActivation, Turn.node_scheduleActivation]
  exact ⟨rfl, rfl, (Turn.adopts_of_takesOver ht d).2⟩

/-- Who has taken over a start that never comes idles in the end, unless another start is taken over
in the same visit. -/
lemma idles_of_misled {s : Notice} {seq : UInt64} {d : Vec2} (hc : n.Comes)
    (h : n.Reads v (s.message seq d) t t') (ht : t.node.TakesOver v.now s)
    (hn : (n.visit v).node.schedule.start.isNever) : (n.visit v).node.Idles := by
  obtain ⟨sender, rest, hstatus, -, -⟩ := h.exists_rest
  refine ⟨hstatus.trans (Turn.ready_onMessages (h.ready_of_takesOver ht).2.1 sender rest), ?_⟩
  rw [← Option.not_isSome_iff_eq_none]
  exact fun hs => (moves_visit n v).comes hc hs hn

/-- A packet lets a node idle only if a start that never comes is taken over, and no other one by
the end. -/
lemma strands_of_packet {packet : Packet} (hv : v.call = .packet sender packet)
    (ha : n.Awaits now) (hnow : now ≤ v.now) (h : ¬ n.Idles) (hi : (n.visit v).node.Idles) :
    n.Strands v := by
  obtain ⟨s, seq, d, t, t', hread, hs, ht⟩ : ∃ s seq d t t',
      n.Reads v (Notice.message s seq d) t t' ∧ s.startTime.isNever ∧ t.node.TakesOver v.now s := by
    have hfold := hi
    rw [n.visit_of_packet hv, Turn.idles_noteRole] at hfold
    obtain ⟨before, s, seq, d, rest, hms, hs, ht⟩ := Turn.exists_takesOver_never hfold h
    exact ⟨s, seq, d, _, _, ⟨sender, before, rest, by rw [hv, ← hms], rfl, rfl⟩, hs, ht⟩
  have hover := ((ha.visit hnow) hi.1).resolve_left (by rw [hi.2]; exact Bool.false_ne_true)
  refine .misled hread hs ht (hover.resolve_right fun hlt => ?_)
  obtain ⟨hnow', -, hstart⟩ := hread.ready_of_takesOver ht
  obtain ⟨sender', rest, -, hschedule, hmoves⟩ := hread.exists_rest
  have hahead := hmoves.keepsAhead (by rw [hv]; exact fun hc => Call.noConfusion hc)
  rw [← hschedule, hnow'] at hahead
  -- If the start has changed since then it lies ahead, and else it never comes.
  by_cases he : (n.visit v).node.schedule.start = t'.node.schedule.start
  · rw [he, hstart, Timestamp.isNever_iff.1 hs] at hlt
    exact Timestamp.not_lt.2 (Timestamp.le_never _) hlt
  · exact Timestamp.not_lt.2 (Timestamp.le_of_lt (hahead he)) hlt

/-- When a node is not idle before, a visit lets it idle exactly if it strands the node. -/
lemma idles_visit_iff (hc : n.Comes) (ha : n.Awaits now) (hnow : now ≤ v.now) (h : ¬ n.Idles) :
    (n.visit v).node.Idles ↔ n.Strands v := by
  refine ⟨fun hi => ?_, fun hs => ?_⟩
  · rcases (idles_of_visit hi).resolve_left h with ⟨hv, hlone⟩ | ⟨seq, cluster, starter, d, hb⟩
    · obtain ⟨hs, hl⟩ := (idles_visit_stop_iff hv hlone).1 hi
      exact .alone hv hlone hs hl
    · obtain ⟨sender, packet, hv, -⟩ := Visit.brings_iff.1 hb
      exact strands_of_packet hv ha hnow h hi
  · cases hs with
    | alone hv hlone hs hl => exact (idles_visit_stop_iff hv hlone).2 ⟨hs, hl⟩
    | misled hread hs ht hn => exact idles_of_misled hc hread ht hn

end Node

/-! ### Benches -/

namespace Bench

variable {b b' b₀ : Bench}

/-- When a bench is not stranded before, a visit strands it exactly if it strands the node. -/
lemma stranded_iff_strands (hp : b.Poised) (hc : b.node.Comes) (hs : b.Serves v b')
    (h : ¬ b.Stranded) : b'.Stranded ↔ b.node.Strands v := by
  rw [(hp.serves hs).stranded_iff, hs.node]
  exact Node.idles_visit_iff hc hp.awaits hs.clock (mt hp.stranded_iff.2 h)

/-- Who is stranded was stranded by some visit. -/
lemma exists_strands (hn : b₀.node.IsNew) (ha : b₀.alarms = []) (h : b₀.Reaches b)
    (hs : b.Stranded) : ∃ b₁ v b₂, b₀.Reaches b₁ ∧ ¬ b₁.Stranded ∧ b₁.Serves v b₂ ∧
      b₁.node.Strands v ∧ b₂.Reaches b := by
  induction h with
  | refl =>
    rw [Stranded, hn.waiting.1] at hs
    cases hs.1
  | @step b b' v h hv ih =>
    by_cases hb : b.Stranded
    · obtain ⟨b₁, w, b₂, h₁, hfree, hw, hstrand, h₂⟩ := ih hb
      exact ⟨b₁, w, b₂, h₁, hfree, hw, hstrand, h₂.step hv⟩
    · have hp : b.Poised := (Poised.of_isNew hn ha).reaches h
      exact ⟨b, v, b', h, hb, hv, (stranded_iff_strands hp (h.comes hn) hv hb).1 hs, .refl⟩

/-- At every bench that serves a new node, a node that is ready has a timer for its activation,
unless an earlier visit has stranded it; its start never comes or is over then. A visit strands the
node exactly if clustering ends for a starter that stands alone and is left without a start, or if
the node takes over a start that never comes and no other one by the end of the visit. -/
theorem ready_awaits_activation (hn : b₀.node.IsNew) (ha : b₀.alarms = []) (h : b₀.Reaches b) :
    (b.node.status = .ready → (∃ a ∈ b.alarms, a.timer = .activate) ∨
      (b.node.schedule.start.isNever ∨ b.node.schedule.start < b.now) ∧
        ∃ b₁ v b₂, b₀.Reaches b₁ ∧ ¬ b₁.Stranded ∧ b₁.Serves v b₂ ∧ b₁.node.Strands v ∧
          b₂.Reaches b) ∧
    ∀ v b', b.Serves v b' → ¬ b.Stranded → (b'.Stranded ↔ b.node.Strands v) := by
  have hp : b.Poised := (Poised.of_isNew hn ha).reaches h
  refine ⟨fun hs => ?_, fun v b' hv hb => stranded_iff_strands hp (h.comes hn) hv hb⟩
  by_cases ht : ∃ a ∈ b.alarms, a.timer = .activate
  · exact .inl ht
  · have hst : b.Stranded := ⟨hs, fun a ha hat => ht ⟨a, ha, hat⟩⟩
    refine .inr ⟨(hp.awaits hs).resolve_left ?_, exists_strands hn ha h hst⟩
    exact fun hsome => ht (hp.exists_alarm hsome)

/-- The visits of a node for which clustering ends at once. -/
def hastyVisits : List Visit :=
  [⟨.start, Vec3.zero, 1, .start⟩, ⟨.start, Vec3.zero, 3, .timer .stop⟩]

/-- A starter on its own that is ready has a timer for its activation. -/
theorem lone_starter_is_poised : ∃ b₀ b : Bench, b₀.node.IsNew ∧ b₀.alarms = [] ∧ b₀.Reaches b ∧
    b.node.status = .ready ∧ ¬ b.Stranded ∧ ((∃ a ∈ b.alarms, a.timer = .activate) ∨
      (b.node.schedule.start.isNever ∨ b.node.schedule.start < b.now) ∧
        ∃ b₁ v b₂, b₀.Reaches b₁ ∧ ¬ b₁.Stranded ∧ b₁.Serves v b₂ ∧ b₁.node.Strands v ∧
          b₂.Reaches b) ∧
    ∀ v b', b.Serves v b' → (b'.Stranded ↔ b.node.Strands v) := by
  have hrun : ((Node.create ⟨1⟩ hastySettings true (some Vec2.zero)).toOption.any fun n =>
      ((Bench.setUp n Vec3.zero).run? hastyVisits).any fun b =>
        b.node.status = .ready && b.alarms.any fun a => a.timer = .activate) = true := by
    decide +kernel
  simp only [Option.any_eq_true, Bool.and_eq_true, List.any_eq_true, decide_eq_true_eq] at hrun
  obtain ⟨n, hn, b, hb, hs, a, ha, hat⟩ := hrun
  have hfree : ¬ b.Stranded := fun h => h.2 a ha hat
  obtain ⟨hready, hstrand⟩ := ready_awaits_activation (.of_toOption hn) rfl (.of_run? hb)
  exact ⟨.setUp n Vec3.zero, b, .of_toOption hn, rfl, .of_run? hb, hs, hfree, hready hs,
    fun v b' hv => hstrand v b' hv hfree⟩

/-- Settings under which a starter goes through duty cycles and is to start just when it decides
to. -/
def promptSettings : Settings :=
  { hastySettings with
    reverse := true
    startLead := .zero }

/-- Without a lead time the start of a starter on its own does not lie ahead, so that it is not
accepted. The starter is ready with nothing scheduled. -/
theorem prompt_starter_is_stranded : ∃ b₀ b : Bench,
    b₀.node.IsNew ∧ b₀.alarms = [] ∧ b₀.run? hastyVisits = some b ∧ b.Stranded := by
  have hrun : ((Node.create ⟨1⟩ promptSettings true (some Vec2.zero)).toOption.any fun n =>
      ((Bench.setUp n Vec3.zero).run? hastyVisits).any fun b =>
        b.node.status = .ready ∧ b.alarms.all fun a => a.timer ≠ .activate) = true := by
    decide +kernel
  simp only [Option.any_eq_true, decide_eq_true_eq, List.all_eq_true] at hrun
  obtain ⟨n, hn, b, hb, hst⟩ := hrun
  exact ⟨.setUp n Vec3.zero, b, .of_toOption hn, rfl, hb, hst⟩

end Bench

end ClusterWave
