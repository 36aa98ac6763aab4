import ClusterWave.Proofs.Simulation.Calm
import ClusterWave.Proofs.Simulation.Gather

/-!
# Only the highest node leads

Nodes that have been gathered in range of each other are about to begin clustering, and nothing
that takes place then keeps them from following the highest one. So it is the only one that ever
leads, and there is no cluster but its own. After 1.2 seconds it does lead.
-/

namespace ClusterWave

variable {top id : NodeId} {own : NodeId} {now w : Timestamp} {place : Vec3} {b : Bench}

/-! ### Nodes that have been started -/

namespace Bench.Starts

lemma loyal (h : b.Starts id) : b.node.registry.Loyal top own now := by
  rw [h.registry]
  constructor
  · intro id r hr
    cases hr
  · intro hc
    cases hc

lemma not_foreign (h : b.Starts id) (c : NodeId) : ¬ b.node.registry.foreign.contains c := by
  rw [h.registry]
  intro hc
  cases hc

/-- The highest node is to transmit after a second. -/
lemma reigns (h : b.Starts top) : b.Reigns top (.ofMillis 1000) := by
  obtain ⟨handle, ha⟩ := h.alarms
  refine ⟨⟨h.settings, h.id, h.loyal, h.not_foreign⟩, .dawn ⟨h.status, h.role⟩ h.clustering h.slots
    ⟨⟨.start, handle, .start⟩, ?_, Timestamp.le_refl _⟩ (Timestamp.le_refl _)⟩
  rw [ha]
  exact List.mem_cons_self

/-- All others wait for it. -/
lemma follows (h : b.Starts id) (hl : id < top) : b.node.Follows top now := by
  refine ⟨h.settings, h.id.symm ▸ hl, h.loyal, ?_, .inl ⟨h.status, h.role⟩⟩
  intro c hc
  exact absurd hc (h.not_foreign c)

lemma deadline (h : b.Starts id) : b.node.registry.deadline top = .ofMillis 1001 := by
  rw [h.registry]
  exact Registry.deadline_of_none rfl

lemma proper (h : b.Starts id) (hm : b.Matches) : b.Proper id := by
  refine ⟨hm, h.id, ?_⟩
  intro a ha
  obtain ⟨handle, halarms⟩ := h.alarms
  rw [halarms] at ha
  rw [List.mem_singleton.1 ha]
  exact Timestamp.le_refl _

end Bench.Starts

namespace Simulation

variable {s s' : Simulation} {specs : List NodeSpec} {spec : NodeSpec} {limit : Timestamp}

/-! ### Nodes that have been gathered -/

namespace Gathered

lemma resolve?_of_mem (h : s.Gathered specs) (hm : spec ∈ specs) (now : Timestamp) :
    s.directory.resolve? spec.id now = some spec.position.lift := by
  have hr := (h.residents spec.id _).2 ⟨spec, hm, rfl, rfl⟩
  rw [Directory.resolve?, hr]
  rfl

lemma exists_of_resolve? (h : s.Gathered specs) {position : Vec3}
    (hp : s.directory.resolve? id now = some position) :
    ∃ n ∈ specs, n.id = id ∧ position = n.position.lift := by
  rw [Directory.resolve?] at hp
  split at hp
  · cases hp
  · rename_i r hr
    obtain ⟨n, hn, rfl, rfl⟩ := (h.residents id r).1 hr
    exact ⟨n, hn, rfl, (Option.some.inj hp).symm⟩

lemma close (h : s.Gathered specs) (hm : spec ∈ specs)
    (hnear : ∀ n ∈ specs, n.id ≠ spec.id →
      n.position.dist spec.position < Settings.standard.range) :
    s.directory.Close spec.id spec.position.lift := by
  constructor
  · intro now position hp
    rw [h.resolve?_of_mem hm] at hp
    exact (Option.some.inj hp).symm
  · intro id now position hne hp
    obtain ⟨n, hn, rfl, rfl⟩ := h.exists_of_resolve? hp
    exact hnear n hn hne
  · intro id now now' hs
    obtain ⟨position, hp⟩ := Option.isSome_iff_exists.1 hs
    obtain ⟨n, hn, rfl, -⟩ := h.exists_of_resolve? hp
    rw [h.resolve?_of_mem hn]
    rfl

/-- Nothing but timers has been planned. -/
lemma not_holds (h : s.Gathered specs) {time : Timestamp} {event : Event}
    (he : ∀ node handle timer, event ≠ .timer node handle timer) : ¬ s.agenda.Holds time event := by
  rintro ⟨p, hp, -, rfl⟩
  obtain ⟨n, -, handle, hev⟩ := h.starts p hp
  exact he _ _ _ hev

lemma calm (h : s.Gathered specs) (hm : spec ∈ specs)
    (hnear : ∀ n ∈ specs, n.id ≠ spec.id →
      n.position.dist spec.position < Settings.standard.range)
    (hhigh : ∀ n ∈ specs, n.id = spec.id ∨ n.id < spec.id) :
    s.Calm spec.id spec.position.lift (.ofMillis 1000) := by
  refine ⟨⟨h.channel, h.orderly, ?_, ?_, h.close hm hnear, ?_, ?_⟩, ?_, ?_⟩
  · intro p hp
    rw [h.now]
    exact Timestamp.start_le _
  · intro time id
    exact h.not_holds fun _ _ _ => Event.noConfusion
  · intro id n hn
    obtain ⟨n', hn', rfl⟩ := (h.nodes id).1 ⟨n, hn⟩
    rw [isActive, h.resolve?_of_mem hn']
    rfl
  · intro time receiver sender data hh
    exact absurd hh (h.not_holds fun _ _ _ => Event.noConfusion)
  · obtain ⟨n, hn⟩ := (h.nodes spec.id).2 ⟨spec, hm, rfl⟩
    obtain ⟨b, hseat, hmatches, hstarts⟩ := h.seats _ n hn
    exact ⟨b, hseat, hstarts.proper hmatches, hstarts.reigns⟩
  · intro id n hn hne
    obtain ⟨n', hn', rfl⟩ := (h.nodes id).1 ⟨n, hn⟩
    obtain ⟨b, hseat, hmatches, hstarts⟩ := h.seats _ n hn
    refine ⟨b, hseat, hstarts.proper hmatches, hstarts.follows ((hhigh n' hn').resolve_left hne),
      .inl ?_⟩
    rw [hstarts.deadline]
    decide

end Gathered

/-! ### Runs -/

/-- What comes of a simulation that is run for some time, as often as one likes, and looked at after
any event. -/
inductive Runs (s : Simulation) : Simulation → Prop
  | refl : Runs s s
  | step {s' : Simulation} (hs : Runs s s') (limit : Timestamp) : Runs s (s'.step limit).1
  | rest {s' : Simulation} (hs : Runs s s') {limit : Timestamp} (h : (s'.step limit).2 = false) :
      Runs s ((s'.step limit).1.advance limit)

/-- A simulation that is run until a time ends with a rest. -/
lemma Runs.exists_rest {s₀ : Simulation} {fuel : Nat} (hs : s₀.Runs s)
    (h : s.runUntil? limit fuel = some s') :
    ∃ s₁, s₀.Runs s₁ ∧ (s₁.step limit).2 = false ∧ s' = (s₁.step limit).1.advance limit := by
  induction fuel generalizing s with
  | zero => cases h
  | succ fuel ih =>
    rw [runUntil?] at h
    split at h
    · rename_i s₁ hstep
      refine ⟨s, hs, ?_, ?_⟩
      · rw [hstep]
      · rw [hstep]
        exact (Option.some.inj h).symm
    · rename_i s₁ hstep
      have hr := hs.step limit
      rw [hstep] at hr
      exact ih hr h

namespace Calm

lemma run (h : s.Calm top place w) (hr : s.Runs s') : ∃ w', s'.Calm top place w' := by
  induction hr with
  | refl => exact ⟨w, h⟩
  | step hs limit ih =>
    obtain ⟨w', hw⟩ := ih
    exact (hw.step limit).1
  | rest hs hfalse ih =>
    obtain ⟨w', hw⟩ := ih
    exact ⟨w', (hw.step _).2 hfalse⟩

/-- What the nodes are as long as they follow `top`. -/
lemma roles (h : s.Calm top place w) {n : Node} (hn : s.nodes.get? id = some n) :
    (n.record.isHead → id = top) ∧
      (n.record.cluster = none ∨ n.record.cluster = some top) := by
  by_cases hid : id = top
  · refine ⟨fun _ => hid, ?_⟩
    obtain ⟨b, hseat, -, hreigns⟩ := h.leader
    rw [hid, hseat.node] at hn
    cases hn
    exact hreigns.cluster
  · obtain ⟨b, hseat, -, hfollows, -⟩ := h.followers id n hn hid
    rw [hseat.node] at hn
    cases hn
    exact ⟨fun hh => absurd hh hfollows.not_isHead, hfollows.cluster⟩

/-- Once nothing is due before 1.2 seconds are over, `top` leads. -/
lemma leads (h : s.Calm top place w)
    (hl : ∀ p ∈ s.agenda.appointments, .ofMillis 1200 < p.time) :
    ∃ n, s.nodes.get? top = some n ∧ n.record.role = (.head, some top) := by
  obtain ⟨b, hseat, -, hreigns⟩ := h.leader
  have hlate {a : Alarm} (ha : a ∈ b.alarms) (hd : a.due ≤ .ofMillis 1200) : False := by
    obtain ⟨-, p, hp, ht, -⟩ := (hseat.alarms a).1 ha
    exact Timestamp.not_le.2 (hl p hp) (ht ▸ hd)
  rcases hreigns.stage with ⟨-, -, -, ⟨a, ha, hd⟩, -⟩ | ⟨-, -, ⟨a, ha, -, hd⟩, -⟩ |
    ⟨-, -, -, ⟨a, ha, -, hd⟩, -, -⟩ | ⟨-, -, -, ⟨a, ha, -, hd⟩, -, -⟩ | ⟨-, hr, -, -, -⟩
  · exact (hlate ha (Timestamp.le_trans hd (Timestamp.start_le _))).elim
  · exact (hlate ha (Timestamp.le_trans hd (by decide))).elim
  · exact (hlate ha (Timestamp.le_trans hd (by decide))).elim
  · exact (hlate ha hd).elim
  · exact ⟨b.node, hseat.node, hr⟩

/-- So it does after a rest at 1.2 seconds or later. -/
lemma leads_of_rest (h : s.Calm top place w) (hdone : (s.step limit).2 = false)
    (hl : .ofMillis 1200 ≤ limit) :
    ∃ n, ((s.step limit).1.advance limit).nodes.get? top = some n ∧
      n.record.role = (.head, some top) := by
  rw [nodes_advance]
  cases hp : s.agenda.popDue limit with
  | mk found g =>
  cases found with
  | none =>
    have hstep : (s.step limit).1 = { s with agenda := g } := by
      simp only [Simulation.step, hp]
    rw [hstep]
    exact (h.skip hp).leads fun p hm =>
      Timestamp.lt_of_le_of_lt hl (h.settled.orderly.lt_of_popDue hp hm)
  | some p =>
    have hstep : (s.step limit).2 = true := by
      simp only [Simulation.step, hp]
    rw [hstep] at hdone
    cases hdone

end Calm

/-- Nodes that stay where they are in range of each other run with standard settings over a standard
channel. At no time does any node lead but the one with the highest number, and at no time is any
node in another cluster than its. When they have been run for 1.2 seconds or longer, it leads. -/
theorem only_highest_leads {sc : Scenario} {top : NodeId} (h : sc.IsStatic)
    (hnear : ∀ n ∈ sc.nodes, ∀ m ∈ sc.nodes, n.id ≠ m.id →
      n.position.dist m.position < Settings.standard.range)
    (htop : ∃ n ∈ sc.nodes, n.id = top) (hhigh : ∀ n ∈ sc.nodes, n.id = top ∨ n.id < top) :
    ∃ s, sc.build = .ok s ∧
      (∀ s', s.Runs s' → ∀ id n, s'.nodes.get? id = some n →
        (n.record.isHead → id = top) ∧
          (n.record.cluster = none ∨ n.record.cluster = some top)) ∧
      ∀ s', s.Runs s' → ∀ limit fuel s'', .ofMillis 1200 ≤ limit →
        s'.runUntil? limit fuel = some s'' →
          ∃ n, s''.nodes.get? top = some n ∧ n.record.role = (.head, some top) := by
  obtain ⟨s, hbuild, hgathered⟩ := exists_gathered h
  obtain ⟨spec, hspec, rfl⟩ := htop
  have hcalm := hgathered.calm hspec (fun n hn => hnear n hn spec hspec) hhigh
  refine ⟨s, hbuild, ?_, ?_⟩
  · intro s' hr id n hn
    obtain ⟨w, hw⟩ := hcalm.run hr
    exact hw.roles hn
  · intro s' hr limit fuel s'' hl hrun
    obtain ⟨s₁, hr₁, hdone, rfl⟩ := hr.exists_rest hrun
    obtain ⟨w, hw⟩ := hcalm.run hr₁
    exact hw.leads_of_rest hdone hl

/-- Three nodes at the corners of a triangle. -/
def trio : Scenario :=
  let place (id : UInt64) (x y : Nat) : NodeSpec :=
    NodeSpec.parked ⟨id⟩ ⟨Binary64.ofNat x, Binary64.ofNat y⟩
  { Scenario.bare "trio" (Duration.ofSecs 5) Settings.standard with
    nodes := [place 5 0 0, place 9 30 0, place 2 30 40] }

theorem trio_led_by_highest : trio.IsStatic ∧
    (∀ n ∈ trio.nodes, ∀ m ∈ trio.nodes, n.id ≠ m.id →
      n.position.dist m.position < Settings.standard.range) ∧
    (∃ n ∈ trio.nodes, n.id = ⟨9⟩) ∧ (∀ n ∈ trio.nodes, n.id = ⟨9⟩ ∨ n.id < ⟨9⟩) ∧
    ∃ s, trio.build = .ok s ∧
      (∀ s', s.Runs s' → ∀ id n, s'.nodes.get? id = some n →
        (n.record.isHead → id = ⟨9⟩) ∧
          (n.record.cluster = none ∨ n.record.cluster = some ⟨9⟩)) ∧
      ∀ s', s.Runs s' → ∀ limit fuel s'', .ofMillis 1200 ≤ limit →
        s'.runUntil? limit fuel = some s'' →
          ∃ n, s''.nodes.get? ⟨9⟩ = some n ∧ n.record.role = (.head, some ⟨9⟩) := by
  have hstatic : trio.IsStatic := ⟨rfl, rfl, rfl, by decide, by decide⟩
  have hnear : ∀ n ∈ trio.nodes, ∀ m ∈ trio.nodes, n.id ≠ m.id →
      n.position.dist m.position < Settings.standard.range := by decide +kernel
  have htop : ∃ n ∈ trio.nodes, n.id = ⟨9⟩ := by decide
  have hhigh : ∀ n ∈ trio.nodes, n.id = ⟨9⟩ ∨ n.id < ⟨9⟩ := by decide
  exact ⟨hstatic, hnear, htop, hhigh, only_highest_leads hstatic hnear htop hhigh⟩

end Simulation

end ClusterWave
