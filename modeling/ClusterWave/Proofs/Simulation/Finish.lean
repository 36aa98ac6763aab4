import ClusterWave.Proofs.Simulation.Unrest
import ClusterWave.Simulation.Scenario

/-!
# Scenarios come to an end

Valid settings in whole milliseconds are steady, with two exceptions that the check lets through:
retransmissions without a wait and incidents without a wait. Apart from these every run of a
scenario comes to an end.
-/

namespace ClusterWave

/-! ### Valid settings -/

def Duration.IsWholeMillis (d : Duration) : Prop := 1000000 ∣ d.nanos

instance (d : Duration) : Decidable d.IsWholeMillis :=
  inferInstanceAs (Decidable (1000000 ∣ d.nanos))

namespace Settings

variable {s : Settings}

/-- The durations among the settings. -/
def durations (s : Settings) : List Duration :=
  [s.interval, s.slot, s.sendWindow, s.clusteringStart, s.exchangeGrace, s.startLead, s.runLength,
    s.activationDelay, s.dutyOffset, s.activeWindow, s.inactiveWindow] ++
    s.clusteringStop.toList ++ s.incidentInterval.toList

/-- The check rules out most of what keeps a node busy at one point in time. -/
lemma of_check (h : s.check = .ok ()) : s.maxNodes ≠ 0 ∧ s.interval.nanos ≠ 0 ∧
    s.slot.nanos ≠ 0 ∧ (s.reverse → s.dutyPeriod.nanos ≠ 0) := by
  have hf : s.faults = [] := by
    simp only [check] at h
    split at h
    · assumption
    · cases h
  simp [faults, Duration.isZero] at hf
  tauto

/-- Valid settings in whole milliseconds are steady, unless messages are sent again or incidents are
originated without a wait. -/
lemma steady_of_check (hc : s.check = .ok ()) (hm : ∀ d ∈ s.durations, d.IsWholeMillis)
    (hr : s.retrySlots ≠ 0) (hi : s.incidentInterval ≠ some .zero) : s.Steady := by
  obtain ⟨hn, hinterval, hslot, hduty⟩ := of_check hc
  have hlasts {d : Duration} (hd : d ∈ s.durations) (h₀ : d.nanos ≠ 0) : d.Lasts :=
    .of_dvd (hm d hd) h₀
  have hs : s.slot.Lasts := hlasts (by simp [durations]) hslot
  refine ⟨hlasts (by simp [durations]) hinterval, hs, hs.scale ?_, hs.scale ?_, ?_, ?_⟩
  · have h₁ : s.maxNodes.toNat ≠ 0 := fun h₀ => hn (UInt64.toNat_inj.1 h₀)
    have h₂ : 0 < UInt32.size - 1 := by decide
    omega
  · exact fun h₀ => hr (UInt32.toNat_inj.1 h₀)
  · intro d hd
    refine hlasts (by simp [durations, hd]) fun h₀ => hi ?_
    rw [hd, Duration.eq_zero_of_nanos h₀]
  · intro hrev
    have hsum := hduty hrev
    rw [dutyPeriod, Duration.nanos_add] at hsum
    by_cases ha : s.activeWindow.nanos = 0
    · exact .inr (hlasts (by simp [durations]) (by omega))
    · exact .inl (hlasts (by simp [durations]) ha)

end Settings

/-! ### Scenarios -/

namespace Scenario

variable {s : Scenario} {sim sim' : Simulation}

open Simulation (Steady)

lemma steady_enlist {n : NodeSpec} (hs : sim.Steady s.settings) (hσ : s.settings.Steady)
    (h : enlist s.settings sim n = .ok sim') : sim'.Steady s.settings := by
  have henter {sim₁ : Simulation} (h : enter s.settings sim n = .ok sim₁) :
      sim₁.Steady s.settings := by
    obtain ⟨node, directory, hnode, -, rfl⟩ := Simulation.exists_of_addNode h
    have hins : (sim.join n.id node directory).Steady s.settings := by
      refine ⟨hs.now, hs.nodes.insert ?_ rfl, hs.agenda⟩
      simp only [Node.create] at hnode
      split at hnode
      · cases hnode
      · cases hnode
        exact ⟨rfl, rfl, rfl⟩
    exact (hins.call hσ n.id .start trivial).1
  simp only [enlist] at h
  split at h
  · cases h
  · rename_i sim₁ he
    split at h
    · cases h
      exact henter he
    · rename_i time _
      cases h
      have hs₁ := henter he
      have hg : Agenda.Grows (fun a => a.event.Fits s.settings) sim₁.agenda
          (sim₁.agenda.push (.ofDuration time) (.departure n.id)) := .push _ trivial
      refine ⟨hs₁.now, hs₁.nodes, ?_⟩
      intro a ha
      rcases hg.mem ha with ha | ha
      · exact hs₁.agenda a ha
      · exact ha

/-- All nodes of a scenario share its settings. -/
lemma steady_build (hσ : s.settings.Steady) (h : s.build = .ok sim) : sim.Steady s.settings := by
  have hrules (rs : List DropRule) (sim : Simulation) (hs : sim.Steady s.settings) :
      (rs.foldl Simulation.addDropRule sim).Steady s.settings := by
    refine List.foldlRecOn (motive := fun sim : Simulation => sim.Steady s.settings) _ _ hs ?_
    intro sim hs r _
    exact ⟨hs.now, hs.nodes, hs.agenda⟩
  have hnodes (ns : List NodeSpec) (sim sim' : Simulation) (hs : sim.Steady s.settings)
      (h : ns.foldlM (enlist s.settings) sim = .ok sim') : sim'.Steady s.settings := by
    induction ns generalizing sim with
    | nil =>
      cases h
      exact hs
    | cons n ns ih =>
      rw [List.foldlM_cons] at h
      cases he : enlist s.settings sim n with
      | error fault =>
        rw [he] at h
        cases h
      | ok sim₁ =>
        rw [he] at h
        exact ih sim₁ (steady_enlist hs hσ he) h
  simp only [build] at h
  split at h
  · cases h
  · rename_i sim₀ hc
    have h₀ : sim₀.Steady s.settings := by
      obtain ⟨channel, rfl⟩ := Simulation.exists_of_create hc
      refine ⟨(by decide : Timestamp.start < Timestamp.never), ?_, List.forall_mem_nil _⟩
      intro id n hn
      cases hn
    split at h
    · cases h
    · rename_i sim₁ hf
      cases h
      exact hnodes _ _ _ (hrules _ _ h₀) hf

/-- A run of a valid scenario up to a given time comes to an end. -/
theorem run_finishes {limit : Timestamp} (hc : s.settings.check = .ok ())
    (hm : ∀ d ∈ s.settings.durations, d.IsWholeMillis) (hr : s.settings.retrySlots ≠ 0)
    (hi : s.settings.incidentInterval ≠ some .zero) (hb : s.build = .ok sim)
    (hl : limit < Timestamp.never) : ∃ fuel sim', sim.runUntil? limit fuel = some sim' := by
  have hσ : s.settings.Steady := Settings.steady_of_check hc hm hr hi
  exact (steady_build hσ hb).exists_runUntil hσ hl

/-- A node by itself. -/
def lone (settings : Settings) : Scenario :=
  { bare "lone" (Duration.ofSecs 1) settings with nodes := [.parked ⟨1⟩ Vec2.zero] }

/-- A node with the usual settings is run for a second. -/
theorem lone_run_finishes : ∃ sim : Simulation, (lone Settings.standard).build = .ok sim ∧
    Settings.standard.check = .ok () ∧
    (∀ d ∈ Settings.standard.durations, d.IsWholeMillis) ∧ Settings.standard.retrySlots ≠ 0 ∧
    Settings.standard.incidentInterval ≠ some .zero ∧ Timestamp.ofSecs 1 < Timestamp.never ∧
    ∃ fuel sim', sim.runUntil? (.ofSecs 1) fuel = some sim' := by
  have hbuild : ((lone Settings.standard).build.toOption).isSome = true := by decide +kernel
  obtain ⟨sim, hs⟩ := Option.isSome_iff_exists.1 hbuild
  have hs := eq_ok_of_toOption hs
  have hc : Settings.standard.check = .ok () := by decide +kernel
  have hm : ∀ d ∈ Settings.standard.durations, d.IsWholeMillis := by decide +kernel
  have hr : Settings.standard.retrySlots ≠ 0 := by decide
  have hi : Settings.standard.incidentInterval ≠ some .zero := by decide
  have hl : Timestamp.ofSecs 1 < Timestamp.never := by decide +kernel
  exact ⟨sim, hs, hc, hm, hr, hi, hl, run_finishes (s := lone Settings.standard) hc hm hr hi hs hl⟩

/-! ### Timers without a wait -/

/-- A node by itself that originates incidents without a wait, long before it forms clusters. -/
def hasty : Scenario :=
  lone
    { Settings.standard with
      clusteringStart := Duration.ofSecs 1
      incidentInterval := some Duration.zero }

/-- At the start of the run the node is there and stands alone, and no timer was cancelled. -/
structure Alone (s : Simulation) : Prop where
  now : s.now = .start
  directory : s.directory = ⟨Table.empty.insert ⟨1⟩ ⟨.parked Vec2.zero, false⟩⟩
  node : ∃ n, s.nodes.get? ⟨1⟩ = some n ∧ n.settings.incidentInterval = some .zero ∧
    n.record.degree = .standalone
  cancelled : s.agenda.cancelled = []

/-- The next event is an incident at the start of the run. -/
structure Stuck (s : Simulation) : Prop extends Alone s where
  agenda : ∃ seq handle rest, s.agenda.appointments =
    ⟨.start, seq, .timer ⟨1⟩ handle .incident⟩ :: rest ∧ ∀ a ∈ rest, Timestamp.start < a.time

/-- A node that stands alone tells everyone of an incident and sets the timer for the next one. -/
lemma visit_incident {n : Node} {v : Visit} {interval : Duration}
    (hv : v.call = .timer .incident) (hi : n.settings.incidentInterval = some interval)
    (hd : n.record.degree = .standalone) :
    (n.visit v).node.record.degree = .standalone ∧ ∃ p, (n.visit v).outbox.effects =
      [.broadcast p, .schedule ⟨v.nextHandle⟩ interval .incident] := by
  have ho (t : Turn) (hi : t.node.settings.incidentInterval = some interval)
      (hd : t.node.record.degree = .standalone) :
      t.originate.node.record = t.node.record ∧
        ∃ p, t.originate.outbox = (t.outbox.broadcast p).schedule interval .incident := by
    simp only [Turn.originate, hi, hd]
    exact ⟨rfl, _, rfl⟩
  obtain ⟨hr, p, hp⟩ := ho (Turn.start n v.now v.position v.nextHandle).locate hi hd
  simp only [Node.visit, hv, Turn.handle, Turn.onTimer, Turn.fire]
  rw [Turn.node_noteRole, Turn.outbox_noteRole, hp]
  refine ⟨?_, p, rfl⟩
  rw [hr]
  exact hd

/-- Nobody hears of an incident, and the next one is due at once. -/
lemma Alone.stuck_call {s : Simulation} (h : Alone s)
    (ha : ∀ a ∈ s.agenda.appointments, Timestamp.start < a.time) :
    Stuck (s.call ⟨1⟩ (.timer .incident)) := by
  obtain ⟨n, hn, hi, hd⟩ := h.node
  have hres : s.directory.resolve? ⟨1⟩ s.now = some Vec2.zero.lift := by
    rw [h.directory]
    rfl
  have hnobody (t : Simulation) (ht : t.directory = s.directory) (origin : Vec3) :
      t.listeners ⟨1⟩ origin = [] := by
    rw [Simulation.listeners, ht, h.directory]
    rfl
  let v : Visit := ⟨s.now, Vec2.zero.lift, s.agenda.nextHandle, .timer .incident⟩
  obtain ⟨hdeg, p, he⟩ := visit_incident (v := v) rfl hi hd
  have hcall : s.call ⟨1⟩ (.timer .incident) =
      (n.visit v).outbox.effects.foldl (Simulation.route ⟨1⟩ Vec2.zero.lift)
        (({ s with
          nodes := s.nodes.insert ⟨1⟩ (n.visit v).node
          agenda := (n.visit v).outbox.effects.foldl (Agenda.apply ⟨1⟩ s.now) s.agenda
          }).recordChanges ⟨1⟩ Vec2.zero.lift n (n.visit v).node) := by
    simp only [Simulation.call, hres, hn]
    rfl
  rw [hcall, he, Simulation.recordChanges_eq]
  simp only [List.foldl_cons, List.foldl_nil, Simulation.route]
  rw [hnobody, List.foldl_nil]
  · refine ⟨⟨h.now, h.directory, ⟨(n.visit v).node, Table.get?_insert_self _ _ _, ?_, hdeg⟩,
      h.cancelled⟩, s.agenda.nextSeq, ⟨s.agenda.nextHandle⟩, s.agenda.appointments, ?_, ha⟩
    · rw [(moves_visit n v).alike.settings]
      exact hi
    · have hnow : s.now + Duration.zero = Timestamp.start := by
        rw [h.now]
        rfl
      show Appointment.insert ⟨s.now + Duration.zero, _, _⟩ s.agenda.appointments = _
      rw [hnow]
      exact Appointment.insert_of_forall_lt ha
  · rfl

namespace Stuck

lemma step {s : Simulation} (h : Stuck s) (limit : Timestamp) :
    ∃ s', s.step limit = (s', true) ∧ Stuck s' := by
  obtain ⟨seq, handle, rest, ha, hrest⟩ := h.agenda
  have hpop : s.agenda.popDue limit = (some ⟨.start, seq, .timer ⟨1⟩ handle .incident⟩,
      { s.agenda with appointments := rest }) := by
    have hdue : ¬ limit < Timestamp.start := Nat.not_lt_zero _
    simp only [Agenda.popDue, ha, h.cancelled, Agenda.takeDue]
    rw [if_neg hdue]
    simp [Appointment.handle?]
  have hadv : ({ s with agenda := { s.agenda with appointments := rest } } : Simulation).advance
      .start = { s with agenda := { s.agenda with appointments := rest } } := by
    rw [Simulation.advance, h.now]
    rfl
  have hs : Alone { s with agenda := { s.agenda with appointments := rest } } :=
    ⟨h.now, h.directory, h.node, h.cancelled⟩
  have hcall := hs.stuck_call hrest
  refine ⟨(Simulation.call _ ⟨1⟩ (.timer .incident)).count
    fun t => { t with events := t.events + 1 }, ?_,
    ⟨⟨hcall.now, hcall.directory, hcall.node, hcall.cancelled⟩, hcall.agenda⟩⟩
  simp only [Simulation.step, hpop, hadv]
  rfl

lemma runUntil? {s : Simulation} (h : Stuck s) (limit : Timestamp) (fuel : Nat) :
    s.runUntil? limit fuel = none := by
  induction fuel generalizing s with
  | zero => rfl
  | succ fuel ih =>
    obtain ⟨s', hs, h'⟩ := h.step limit
    simp only [Simulation.runUntil?, hs]
    exact ih h'

end Stuck

/-- The settings are valid and in whole milliseconds, but the run never gets past its start. -/
theorem hasty_never_finishes : hasty.settings.check = .ok () ∧ hasty.channel.check = .ok () ∧
    (∀ d ∈ hasty.settings.durations, d.IsWholeMillis) ∧
    ∃ sim, hasty.build = .ok sim ∧ ∀ limit fuel, sim.runUntil? limit fuel = none := by
  have hb : (hasty.build.toOption.any fun s => s.now = .start ∧
      s.directory = ⟨Table.empty.insert ⟨1⟩ ⟨.parked Vec2.zero, false⟩⟩ ∧
      ((s.nodes.get? ⟨1⟩).any fun n => n.settings.incidentInterval = some .zero ∧
        n.record.degree = .standalone) ∧ s.agenda.cancelled = [] ∧
      s.agenda.appointments = [⟨.start, 1, .timer ⟨1⟩ ⟨1⟩ .incident⟩,
        ⟨.ofSecs 1, 0, .timer ⟨1⟩ ⟨0⟩ .start⟩]) = true := by
    decide +kernel
  simp only [Option.any_eq_true, decide_eq_true_eq] at hb
  obtain ⟨sim, hs, hnow, hdir, ⟨n, hn, hi, hd⟩, hcan, hag⟩ := hb
  have hstuck : Stuck sim := by
    refine ⟨⟨hnow, hdir, ⟨n, hn, hi, hd⟩, hcan⟩, 1, ⟨1⟩, _, hag, ?_⟩
    intro a ha
    rw [List.mem_singleton.1 ha]
    decide +kernel
  exact ⟨by decide +kernel, by decide +kernel, by decide +kernel, sim, eq_ok_of_toOption hs,
    hstuck.runUntil?⟩

end Scenario

end ClusterWave
