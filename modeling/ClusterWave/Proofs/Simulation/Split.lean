import ClusterWave.Proofs.Simulation.Role

/-!
# Runs in two parts

A run that stops on the way throws away the cancelled timers that were due by then, and sets the
clock to the time of the stop. A run that goes on from there notices neither: the timers would have
been thrown away before the next event in any case, and the next event sets the clock to a later
time. So it comes to the same end as a run without a stop, event by event.
-/

namespace ClusterWave

namespace Agenda

variable {g g' : Agenda} {t₁ t₂ : Timestamp}

/-! ### Taking events out up to two times -/

/-- What is due by a time is due by a later one. -/
lemma takeDue_some_of_le (ht : t₁ ≤ t₂) {cancelled cancelled' : List TimerHandle}
    {as rest : List Appointment} {a : Appointment}
    (h : takeDue t₁ cancelled as = (some a, rest, cancelled')) :
    takeDue t₂ cancelled as = (some a, rest, cancelled') := by
  induction as generalizing cancelled with
  | nil => cases h
  | cons b as ih =>
    simp only [takeDue] at h ⊢
    split at h
    · cases h
    · rename_i hdue
      rw [if_neg (Timestamp.not_lt.2 (Timestamp.le_trans (Timestamp.not_lt.1 hdue) ht))]
      split at h
      · rename_i handle _
        by_cases hm : cancelled.contains handle
        · rw [if_pos hm] at h ⊢
          exact ih h
        · rwa [if_neg hm] at h ⊢
      · exact h

/-- If nothing is due by a time, the timers that are skipped on the way to it would be skipped
later. -/
lemma takeDue_none_of_le (ht : t₁ ≤ t₂) {cancelled cancelled' : List TimerHandle}
    {as rest : List Appointment} (h : takeDue t₁ cancelled as = (none, rest, cancelled')) :
    takeDue t₂ cancelled as = takeDue t₂ cancelled' rest := by
  induction as generalizing cancelled with
  | nil =>
    cases h
    rfl
  | cons b as ih =>
    simp only [takeDue] at h
    split at h
    · cases h
      rfl
    · rename_i hdue
      have hlater : ¬ t₂ < b.time :=
        Timestamp.not_lt.2 (Timestamp.le_trans (Timestamp.not_lt.1 hdue) ht)
      split at h
      · rename_i handle hb
        split at h
        · rename_i hm
          rw [← ih h]
          simp only [takeDue, hb, if_neg hlater, if_pos hm]
        · cases h
      · cases h

lemma popDue_some_of_le (ht : t₁ ≤ t₂) {a : Appointment} (h : g.popDue t₁ = (some a, g')) :
    g.popDue t₂ = (some a, g') := by
  obtain ⟨ha, rfl⟩ := Prod.mk.inj h
  simp only [popDue, takeDue_some_of_le ht (Prod.ext ha rfl)]

lemma popDue_none_of_le (ht : t₁ ≤ t₂) (h : g.popDue t₁ = (none, g')) :
    g.popDue t₂ = g'.popDue t₂ := by
  obtain ⟨ha, rfl⟩ := Prod.mk.inj h
  simp only [popDue, takeDue_none_of_le ht (Prod.ext ha rfl)]

end Agenda

namespace Simulation

variable {s s' mid : Simulation} {t₁ t₂ limit : Timestamp}

/-! ### The agenda stays in order -/

lemma sorted_call (hs : s.agenda.Sorted) (id : NodeId) (c : Call) :
    (s.call id c).agenda.Sorted := by
  rcases s.called id c with he | ⟨n, v, -, hv⟩
  · rwa [he]
  · exact hv.agenda.sorted (hs.foldl_apply _ _ _)

lemma sorted_process (hs : s.agenda.Sorted) (e : Event) : (s.process e).agenda.Sorted := by
  cases e with
  | timer node handle timer => exact sorted_call hs node (.timer timer)
  | departure node => exact hs
  | delivery receiver sender data =>
    simp only [process, deliver]
    split
    · exact hs
    · split
      · refine sorted_call ?_ receiver _
        exact hs
      · exact hs

lemma sorted_step (hs : s.agenda.Sorted) (limit : Timestamp) : (s.step limit).1.agenda.Sorted := by
  rcases hp : s.agenda.popDue limit with ⟨found, g⟩
  have hg : g.Sorted := hs.popDue hp
  cases found with
  | none =>
    simp only [step, hp]
    exact hg
  | some a =>
    simp only [step, hp]
    refine sorted_process ?_ a.event
    rwa [agenda_advance]

/-- The agenda of a simulation is always in order. -/
lemma Reached.sorted (hs : s.Reached) : s.agenda.Sorted := by
  induction hs with
  | create h =>
    obtain ⟨channel, rfl⟩ := exists_of_create h
    exact .nil
  | @addNode s _ id _ _ _ _ _ h ih =>
    obtain ⟨node, directory, -, -, rfl⟩ := exists_of_addNode h
    exact sorted_call (s := s.join id node directory) ih id .start
  | addDropRule r _ ih => exact ih
  | scheduleDeparture id time _ ih => exact ih.push _ _
  | runUntil _ h ih =>
    refine runUntil?_induct (p := fun s => s.agenda.Sorted) ?_ ?_ ih h
    · intro s limit hs
      exact sorted_step hs limit
    · intro s limit hs
      rwa [agenda_advance]

/-! ### The stop goes unnoticed -/

/-- The clock does not remember where it stopped. -/
lemma advance_advance (ht : t₁ ≤ t₂) (s : Simulation) :
    (s.advance t₁).advance t₂ = s.advance t₂ := by
  by_cases h₁ : s.now < t₁
  · have he : s.advance t₁ = { s with now := t₁ } := if_pos h₁
    rw [he]
    simp only [advance]
    rw [if_pos (Timestamp.lt_of_lt_of_le h₁ ht)]
    split
    · rfl
    · rename_i h₂
      rw [Timestamp.le_antisymm ht (Timestamp.not_lt.1 h₂)]
  · have he : s.advance t₁ = s := if_neg h₁
    rw [he]

lemma setAgenda_advance (s : Simulation) (g : Agenda) (time : Timestamp) :
    { s.advance time with agenda := g } = ({ s with agenda := g } : Simulation).advance time := by
  simp only [advance]
  split <;> rfl

/-- The next event by a time is the next one by a later time. -/
lemma step_of_le (ht : t₁ ≤ t₂) (h : s.step t₁ = (s', true)) : s.step t₂ = (s', true) := by
  rcases hp : s.agenda.popDue t₁ with ⟨found, g⟩
  cases found with
  | none =>
    simp only [step, hp] at h
    cases h
  | some a =>
    rw [← h]
    simp only [step, hp, Agenda.popDue_some_of_le ht hp]

/-- Where a run stops, the next step is the same with and without the stop. It goes either to the
same event, or to the same end. -/
lemma step_advance (hs : s.agenda.Sorted) (ht : t₁ ≤ t₂) (h : s.step t₁ = (mid, false)) :
    (∃ s', s.step t₂ = (s', true) ∧ (mid.advance t₁).step t₂ = (s', true)) ∨
      ∃ s' s'', s.step t₂ = (s', false) ∧ (mid.advance t₁).step t₂ = (s'', false) ∧
        s''.advance t₂ = s'.advance t₂ := by
  rcases hp : s.agenda.popDue t₁ with ⟨found, g⟩
  cases found with
  | some a =>
    simp only [step, hp] at h
    cases h
  | none =>
    simp only [step, hp] at h
    cases h
    have hg : s.agenda.popDue t₂ = g.popDue t₂ := Agenda.popDue_none_of_le ht hp
    have hagenda : (advance { s with agenda := g } t₁).agenda = g := agenda_advance _ _
    rcases hp₂ : g.popDue t₂ with ⟨found, g₂⟩
    cases found with
    | none =>
      refine .inr ⟨{ s with agenda := g₂ }, advance { s with agenda := g₂ } t₁, ?_, ?_,
        advance_advance ht _⟩
      · simp only [step, hg, hp₂]
      · simp only [step, hagenda, hp₂, setAgenda_advance]
    | some a =>
      -- the event comes after the stop, so it sets the clock all the same
      have hlate : t₁ < a.time :=
        hs.lt_of_popDue hp ((Agenda.sublist_popDue hp₂).2.subset List.mem_cons_self)
      refine .inl ⟨((advance { s with agenda := g₂ } a.time).process a.event).count
        fun t => { t with events := t.events + 1 }, ?_, ?_⟩
      · simp only [step, hg, hp₂]
      · simp only [step, hagenda, hp₂, setAgenda_advance,
          advance_advance (Timestamp.le_of_lt hlate)]

/-! ### Runs -/

/-- A run to a limit comes to an end, after however many events. -/
def RunsTo (limit : Timestamp) (s s' : Simulation) : Prop :=
  ∃ fuel, s.runUntil? limit fuel = some s'

/-- More fuel makes no difference to a run that comes to an end. -/
lemma runUntil?_add {fuel : Nat} (h : s.runUntil? limit fuel = some s') (more : Nat) :
    s.runUntil? limit (fuel + more) = some s' := by
  induction fuel generalizing s with
  | zero => cases h
  | succ fuel ih =>
    rw [Nat.succ_add]
    simp only [runUntil?] at h ⊢
    split at h
    · exact h
    · exact ih h

/-- A run comes to one end only. -/
lemma RunsTo.unique {s₁ s₂ : Simulation} (h₁ : s.RunsTo limit s₁) (h₂ : s.RunsTo limit s₂) :
    s₁ = s₂ := by
  obtain ⟨f₁, h₁⟩ := h₁
  obtain ⟨f₂, h₂⟩ := h₂
  have h₁' := runUntil?_add h₁ f₂
  rw [Nat.add_comm, runUntil?_add h₂ f₁] at h₁'
  exact (Option.some.inj h₁').symm

/-- A run that has stopped on the way does what the run without the stop does with as many events
less as took place before. -/
lemma exists_runUntil?_eq (hs : s.agenda.Sorted) (ht : t₁ ≤ t₂) {fuel : Nat}
    (h : s.runUntil? t₁ fuel = some mid) :
    ∃ events, ∀ more, s.runUntil? t₂ (more + events) = mid.runUntil? t₂ more := by
  induction fuel generalizing s with
  | zero => cases h
  | succ fuel ih =>
    rcases hstep : s.step t₁ with ⟨s₁, due⟩
    simp only [runUntil?, hstep] at h
    cases due with
    | true =>
      have hs₁ : s₁.agenda.Sorted := by
        have := sorted_step hs t₁
        rwa [hstep] at this
      obtain ⟨events, heq⟩ := ih hs₁ h
      refine ⟨events + 1, fun more => ?_⟩
      rw [← heq more, ← Nat.add_assoc]
      simp only [runUntil?, step_of_le ht hstep]
    | false =>
      cases h
      refine ⟨0, fun more => ?_⟩
      cases more with
      | zero => rfl
      | succ more =>
        rcases step_advance hs ht hstep with ⟨s', h₁, h₂⟩ | ⟨s', s'', h₁, h₂, he⟩
        · simp only [runUntil?, h₁, h₂]
        · simp only [runUntil?, h₁, h₂, he]

/-- A run that comes to an end has come to one by every earlier time. -/
lemma RunsTo.exists_earlier (ht : t₁ ≤ t₂) (h : s.RunsTo t₂ s') : ∃ mid, s.RunsTo t₁ mid := by
  obtain ⟨fuel, h⟩ := h
  induction fuel generalizing s with
  | zero => cases h
  | succ fuel ih =>
    rcases hstep : s.step t₁ with ⟨s₁, due⟩
    cases due with
    | false => exact ⟨s₁.advance t₁, 1, by simp only [runUntil?, hstep]⟩
    | true =>
      simp only [runUntil?, step_of_le ht hstep] at h
      obtain ⟨mid, fuel, hmid⟩ := ih h
      refine ⟨mid, fuel + 1, ?_⟩
      simp only [runUntil?, hstep]
      exact hmid

/-- Splitting a run changes nothing. A simulation whose agenda is in order, as that of every
reached simulation is, can be run to one time and from there to a later one exactly if it can be
run to the later one at once. Whatever number of events each run is given, the simulation that comes
of the two parts is the one that comes of the whole: clock, nodes, directory, agenda with its
cancelled timers, channel, timeline and tally. -/
theorem run_in_two_parts (hs : s.agenda.Sorted) (ht : t₁ ≤ t₂) :
    (∀ s', s.RunsTo t₂ s' ↔ ∃ mid, s.RunsTo t₁ mid ∧ mid.RunsTo t₂ s') ∧
      ∀ mid parts whole fuel₁ fuel₂ fuel, s.runUntil? t₁ fuel₁ = some mid →
        mid.runUntil? t₂ fuel₂ = some parts → s.runUntil? t₂ fuel = some whole →
        parts = whole := by
  have hjoin {mid s' : Simulation} (h₁ : s.RunsTo t₁ mid) (h₂ : mid.RunsTo t₂ s') :
      s.RunsTo t₂ s' := by
    obtain ⟨fuel₁, h₁⟩ := h₁
    obtain ⟨fuel₂, h₂⟩ := h₂
    obtain ⟨events, heq⟩ := exists_runUntil?_eq hs ht h₁
    exact ⟨fuel₂ + events, (heq fuel₂).trans h₂⟩
  refine ⟨fun s' => ⟨?_, ?_⟩, ?_⟩
  · intro h
    obtain ⟨mid, fuel₁, h₁⟩ := h.exists_earlier ht
    obtain ⟨fuel, h⟩ := h
    obtain ⟨events, heq⟩ := exists_runUntil?_eq hs ht h₁
    refine ⟨mid, ⟨fuel₁, h₁⟩, fuel, ?_⟩
    rw [← heq fuel]
    exact runUntil?_add h events
  · rintro ⟨mid, h₁, h₂⟩
    exact hjoin h₁ h₂
  · intro mid parts whole fuel₁ fuel₂ fuel h₁ h₂ h
    exact (hjoin ⟨fuel₁, h₁⟩ ⟨fuel₂, h₂⟩).unique ⟨fuel, h⟩

/-- A pair of nodes that has been run for three seconds is run for another two, with a stop after
one. -/
theorem pair_run_in_two_parts : ∃ s mid whole : Simulation,
    s.Reached ∧ s.runUntil? (.ofSecs 4) 100 = some mid ∧ s.runUntil? (.ofSecs 5) 100 = some whole ∧
      s.tally.events < mid.tally.events ∧ mid.tally.events < whole.tally.events ∧
      mid.runUntil? (.ofSecs 5) 100 = some whole := by
  have h : (pair?.any fun s => (s.runUntil? (.ofSecs 4) 100).any fun mid =>
      (s.runUntil? (.ofSecs 5) 100).any fun whole => (mid.runUntil? (.ofSecs 5) 100).any fun _ =>
        s.tally.events < mid.tally.events ∧ mid.tally.events < whole.tally.events) = true := by
    decide +kernel
  simp only [Option.any_eq_true, decide_eq_true_eq] at h
  obtain ⟨s, hs, mid, hmid, whole, hwhole, parts, hparts, h₁, h₂⟩ := h
  have hreached := reached_pair hs
  have hle : Timestamp.ofSecs 4 ≤ .ofSecs 5 := by decide
  obtain ⟨-, heq⟩ := run_in_two_parts hreached.sorted hle
  rw [heq mid parts whole 100 100 100 hmid hparts hwhole] at hparts
  exact ⟨s, mid, whole, hreached, hmid, hwhole, h₁, h₂, hparts⟩

end Simulation

end ClusterWave
