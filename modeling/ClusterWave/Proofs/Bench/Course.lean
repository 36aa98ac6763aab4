import ClusterWave.Proofs.Bench.Keep

/-!
# Courses

The course of a bench is the list of the visits in which it has served its node. If the node is
started once, clustering begins once at most and ends once at most: the timers for that are armed
when the node is started, and once such a timer has gone off there is none any more.
-/

namespace ClusterWave

/-! ### The timers at the bounds of clustering -/

/-- Whether clustering begins or ends with a timer. -/
def Timer.isBound : Timer → Bool
  | .start | .stop => true
  | _ => false

lemma Asked.of_isBound {n : Node} {v : Visit} {t : Turn} {handle : TimerHandle} {delay : Duration}
    {timer : Timer} (h : Asked n v t (.schedule handle delay timer)) (ht : timer.isBound) :
    v.call = .start := by
  cases timer with
  | start => exact h.of_start
  | stop => exact h.of_stop
  | _ => cases ht

namespace Node

variable {v : Visit} {as : List Alarm} {a a' : Alarm}

/-- The alarm for the begin of clustering, if the node is started in a visit. -/
def opening (n : Node) (v : Visit) : Alarm :=
  ⟨v.now + (Timestamp.ofDuration n.settings.clusteringStart).since v.now, ⟨v.nextHandle⟩, .start⟩

/-- The alarm for the end of clustering. -/
def closing? (n : Node) (v : Visit) : Option Alarm :=
  n.settings.clusteringStop.map fun stop =>
    ⟨v.now + (Timestamp.ofDuration stop).since v.now, ⟨v.nextHandle + 1⟩, .stop⟩

/-- What is armed when a node is started. -/
lemma mem_alarms_of_start (n : Node) (hv : v.call = .start)
    (ha : a ∈ (n.visit v).outbox.alarms v.now as) :
    a ∈ as ∨ a.timer = .incident ∨ a = n.opening v ∨ n.closing? v = some a := by
  have armed {t : Turn} {d : Duration} {timer : Timer}
      (hm : a ∈ (t.schedule d timer).outbox.alarms v.now as) :
      a ∈ t.outbox.alarms v.now as ∨ a = ⟨v.now + d, t.outbox.handle, timer⟩ := by
    simp only [Turn.schedule, Outbox.alarms_schedule, Alarm.mem_insert] at hm
    exact hm.symm
  have first {d : Duration} (hm : a ∈ ((Turn.start n v.now v.position v.nextHandle).locate.schedule
      d .start).outbox.alarms v.now as) : a ∈ as ∨ a = ⟨v.now + d, ⟨v.nextHandle⟩, .start⟩ :=
    armed hm
  have incident {t : Turn} {d : Duration}
      (hm : a ∈ (t.schedule d .incident).outbox.alarms v.now as) :
      a ∈ t.outbox.alarms v.now as ∨ a.timer = .incident :=
    (armed hm).imp_right fun he => congrArg Alarm.timer he
  have opened (h : a ∈ as ∨ a = n.opening v) :
      a ∈ as ∨ a.timer = .incident ∨ a = n.opening v ∨ n.closing? v = some a :=
    h.imp_right fun he => .inr (.inl he)
  have closed {stop : Duration} (hs : n.settings.clusteringStop = some stop)
      (h : a = ⟨v.now + (Timestamp.ofDuration stop).since v.now, ⟨v.nextHandle + 1⟩, .stop⟩) :
      n.closing? v = some a := by
    rw [closing?, hs, h]
    rfl
  rw [n.visit_of_start hv] at ha
  simp only [Turn.onStart] at ha
  split at ha
  · rcases incident ha with hm | hi
    · split at hm
      · rename_i hs
        rcases armed hm with hm | he
        · exact opened (first hm)
        · exact .inr (.inr (.inr (closed hs he)))
      · exact opened (first hm)
    · exact .inr (.inl hi)
  · split at ha
    · rename_i hs
      rcases armed ha with hm | he
      · exact opened (first hm)
      · exact .inr (.inr (.inr (closed hs he)))
    · exact opened (first ha)

/-- When a node is started, either timer is armed once at most. -/
lemma eq_of_start (n : Node) (hv : v.call = .start) (hb : a.timer.isBound)
    (ht : a'.timer = a.timer) (ha : a ∈ (n.visit v).outbox.alarms v.now as)
    (ha' : a' ∈ (n.visit v).outbox.alarms v.now as) : a ∈ as ∨ a' ∈ as ∨ a' = a := by
  have opened {b b' : Alarm} (ht : b'.timer = b.timer) (ho : b = n.opening v)
      (hc : n.closing? v = some b') : False := by
    obtain ⟨stop, -, hc⟩ := Option.map_eq_some_iff.1 hc
    rw [ho, ← hc] at ht
    cases ht
  rcases n.mem_alarms_of_start hv ha with hm | hi | ho | hc
  · exact .inl hm
  · rw [hi] at hb
    cases hb
  · rcases n.mem_alarms_of_start hv ha' with hm' | hi' | ho' | hc'
    · exact .inr (.inl hm')
    · rw [← ht, hi'] at hb
      cases hb
    · exact .inr (.inr (ho'.trans ho.symm))
    · exact (opened ht ho hc').elim
  · rcases n.mem_alarms_of_start hv ha' with hm' | hi' | ho' | hc'
    · exact .inr (.inl hm')
    · rw [← ht, hi'] at hb
      cases hb
    · exact (opened ht.symm ho' hc).elim
    · exact .inr (.inr (Option.some.inj (hc'.symm.trans hc)))

end Node

namespace Bench

variable {b b' b₀ : Bench} {v : Visit} {vs : List Visit}

/-- What has become of a bench after some visits in which it served its node, last one last. -/
inductive Course (b₀ : Bench) : List Visit → Bench → Prop where
  | nil : Course b₀ [] b₀
  | snoc {vs : List Visit} {v : Visit} {b b' : Bench} (h : Course b₀ vs b) (hs : b.Serves v b') :
      Course b₀ (vs ++ [v]) b'

namespace Course

lemma append {ws : List Visit} {b₁ : Bench} (h : b₀.Course vs b₁) (h' : b₁.Course ws b) :
    b₀.Course (vs ++ ws) b := by
  induction h' with
  | nil =>
    rw [List.append_nil]
    exact h
  | snoc _ hs ih =>
    rw [← List.append_assoc]
    exact .snoc ih hs

lemma of_run? (h : b.run? vs = some b') : b.Course vs b' := by
  induction vs generalizing b with
  | nil => exact Option.some.inj h ▸ .nil
  | cons v vs ih =>
    rw [run?_cons, Option.bind_eq_some_iff] at h
    obtain ⟨c, hc, h⟩ := h
    exact append (.snoc .nil (.of_attend? hc)) (ih h)

end Course

/-- Whether the node is started once at most in some visits. -/
def startsOnce (vs : List Visit) : Prop := vs.countP (fun v => v.call = .start) ≤ 1

instance (vs : List Visit) : Decidable (startsOnce vs) :=
  inferInstanceAs (Decidable (vs.countP (fun v => v.call = .start) ≤ 1))

lemma startsOnce_snoc (h : startsOnce (vs ++ [v])) :
    startsOnce vs ∧ (v.call = .start → ∀ w ∈ vs, w.call ≠ .start) := by
  simp only [startsOnce, List.countP_append] at h ⊢
  refine ⟨Nat.le_trans (Nat.le_add_right _ _) h, ?_⟩
  intro hv w hw hs
  have hold : 0 < vs.countP fun v => v.call = .start :=
    List.countP_pos_iff.2 ⟨w, hw, decide_eq_true hs⟩
  have hnew : 0 < [v].countP fun v => v.call = .start :=
    List.countP_pos_iff.2 ⟨v, List.mem_cons_self, decide_eq_true hv⟩
  omega

/-- Whether the node has been called for something in some visits, and not for something else since
then. -/
def calledSince (c c' : Call) (vs : List Visit) : Prop :=
  ∃ before u after, vs = before ++ u :: after ∧ u.call = c ∧ ∀ w ∈ after, w.call ≠ c'

lemma calledSince_snoc {c c' : Call} (h : calledSince c c' (vs ++ [v])) :
    v.call = c ∨ v.call ≠ c' ∧ calledSince c c' vs := by
  obtain ⟨before, u, after, he, hu, hw⟩ := h
  rcases cut_append_singleton he with ⟨-, rfl, -⟩ | ⟨rest, rfl, rfl⟩
  · exact .inl hu
  · refine .inr ⟨hw v (List.mem_append_right _ List.mem_cons_self), before, u, rest, rfl, hu, ?_⟩
    exact fun w hm => hw w (List.mem_append_left _ hm)

/-- What is known about the timer for the begin or the end of clustering after some visits: if it is
pending, it is the only one, and it has been armed but has not gone off in these visits. -/
structure Once (timer : Timer) (vs : List Visit) (as : List Alarm) : Prop where
  pending : ∀ a ∈ as, a.timer = timer → (∃ w ∈ vs, w.call = .start) ∧
    (∀ w ∈ vs, w.call ≠ .timer timer) ∧ ∀ a' ∈ as, a'.timer = timer → a' = a
  started : ∀ w ∈ vs, w.call = .timer timer → ∃ w ∈ vs, w.call = .start

namespace Once

variable {timer : Timer} {as as' : List Alarm} {n : Node} {next' : Nat}

/-- Nothing is pending before the first visit. -/
lemma nil (timer : Timer) (ha : as = []) : Once timer [] as := by
  constructor
  · intro a hm
    rw [ha] at hm
    cases hm
  · intro w hw
    cases hw

/-- The timer is armed when the node is started, and only then. -/
lemma start (h : Once timer vs as) (ht : timer.isBound) (hv : v.call = .start)
    (hs : ∀ w ∈ vs, w.call ≠ .start) :
    Once timer (vs ++ [v]) ((n.visit v).outbox.alarms v.now as) := by
  have hnone (a : Alarm) (hat : a.timer = timer) : a ∉ as := by
    intro ha
    obtain ⟨w, hw, hws⟩ := (h.pending a ha hat).1
    exact hs w hw hws
  have hrung : ∀ w ∈ vs ++ [v], w.call ≠ .timer timer := by
    intro w hw hc
    rcases List.mem_append.1 hw with hw | hw
    · obtain ⟨u, hu, hus⟩ := h.started w hw hc
      exact hs u hu hus
    · rw [List.mem_singleton.1 hw, hv] at hc
      cases hc
  constructor
  · intro a ha hat
    refine ⟨⟨v, List.mem_append_right _ List.mem_cons_self, hv⟩, hrung, ?_⟩
    intro a' ha' hat'
    have hone := n.eq_of_start hv (hat.symm ▸ ht) (hat'.trans hat.symm) ha ha'
    exact (hone.resolve_left (hnone a hat)).resolve_left (hnone a' hat')
  · intro w hw hc
    exact absurd hc (hrung w hw)

/-- Once it has gone off, it will not go off again. -/
lemma ring (h : Once timer vs as) (ht : timer.isBound) (hv : v.call = .timer timer)
    (ho : Alarm.Orderly as next') (hl : Left v as as') :
    Once timer (vs ++ [v]) ((n.visit v).outbox.alarms v.now as') := by
  cases hl with
  | all hc => exact absurd hv (hc _)
  | @others a ha hc =>
    have hat : a.timer = timer := Call.timer.inj (hc.symm.trans hv)
    obtain ⟨⟨w, hw, hws⟩, -, honly⟩ := h.pending a ha hat
    constructor
    · intro b hb hbt
      rcases n.mem_alarms_visit v hb with hb | ⟨t, _, _, hask⟩
      · have hba := honly b (List.mem_of_mem_erase hb) hbt
        exact absurd (hba ▸ hb) (ho.not_mem_erase a)
      · have hstart := hask.of_isBound (hbt.symm ▸ ht)
        rw [hv] at hstart
        cases hstart
    · intro _ _ _
      exact ⟨w, List.mem_append_left _ hw, hws⟩

/-- Nothing else has to do with it. -/
lemma other (h : Once timer vs as) (ht : timer.isBound) (hs : v.call ≠ .start)
    (hv : v.call ≠ .timer timer) (hl : Left v as as') :
    Once timer (vs ++ [v]) ((n.visit v).outbox.alarms v.now as') := by
  have hold (a : Alarm) (ha : a ∈ (n.visit v).outbox.alarms v.now as') (hat : a.timer = timer) :
      a ∈ as := by
    rcases n.mem_alarms_visit v ha with ha | ⟨t, _, _, hask⟩
    · exact hl.mem ha
    · exact absurd (hask.of_isBound (hat.symm ▸ ht)) hs
  constructor
  · intro a ha hat
    obtain ⟨⟨w, hw, hws⟩, hrung, honly⟩ := h.pending a (hold a ha hat) hat
    refine ⟨⟨w, List.mem_append_left _ hw, hws⟩, ?_, ?_⟩
    · intro u hu
      rcases List.mem_append.1 hu with hu | hu
      · exact hrung u hu
      · rw [List.mem_singleton.1 hu]
        exact hv
    · intro b hb hbt
      exact honly b (hold b hb hbt) hbt
  · intro w hw hc
    rcases List.mem_append.1 hw with hw | hw
    · obtain ⟨u, hu, hus⟩ := h.started w hw hc
      exact ⟨u, List.mem_append_left _ hu, hus⟩
    · rw [List.mem_singleton.1 hw] at hc
      exact absurd hc hv

/-- If the node is started once at most, the timer goes off once at most. -/
lemma serves (h : Once timer vs b.alarms) (ht : timer.isBound) (hk : b.Keeps)
    (hs : startsOnce (vs ++ [v])) (hv : b.Serves v b') : Once timer (vs ++ [v]) b'.alarms := by
  obtain ⟨-, hfirst⟩ := startsOnce_snoc hs
  obtain ⟨as, hl, has⟩ := hv.alarms
  by_cases hstart : v.call = .start
  · have he : as = b.alarms := by
      cases hl with
      | all => rfl
      | others _ hc =>
        rw [hstart] at hc
        cases hc
    rw [has, he]
    exact h.start ht hstart (hfirst hstart)
  · rw [has]
    by_cases hring : v.call = .timer timer
    · exact h.ring ht hring hk.orderly hl
    · exact h.other ht hstart hring hl

end Once

end Bench

end ClusterWave
