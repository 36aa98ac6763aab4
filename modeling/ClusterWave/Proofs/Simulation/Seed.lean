import ClusterWave.Proofs.Simulation.Basic
import ClusterWave.Simulation.Scenario

/-!
# Runs without chance

The seed of a channel is where its random numbers come from, and these are drawn when a transmission
may be lost by chance and when its latency varies. On a channel on which neither happens two
simulations that are alike but for the seed remain so, whatever takes place in them. So nothing that
can be seen of the run of a scenario tells the seed.
-/

namespace ClusterWave

/-! ### Channels -/

/-- A zero of either sign is not positive. -/
lemma Binary64.not_zero_lt_of_isZero {x : Binary64} (h : x.isZero) : ¬ Binary64.zero < x := by
  have hm : x.magnitude = 0 := by simpa [Binary64.isZero] using h
  have hp : x.position = Binary64.zero.position := by
    simp only [Binary64.position, hm]
    split <;> rfl
  intro hlt
  have hless : Binary64.zero.less x = true := hlt
  simp [Binary64.less, hp] at hless

/-- Nothing is lost by chance, and all latencies are the same. -/
structure ChannelSettings.IsCertain (s : ChannelSettings) : Prop where
  loss : s.loss.isZero
  jitter : ∀ longest, s.jitter = some longest → longest.isZero

namespace Channel

variable {c : Channel}

/-- The channel with another seed and another source of random numbers. -/
def reseed (seed : UInt64) (randomness : Randomness) (c : Channel) : Channel :=
  { c with settings := { c.settings with seed }, randomness }

lemma drawLoss_of_isCertain (h : c.settings.IsCertain) : c.drawLoss = (false, c) := by
  rw [drawLoss, if_neg (Binary64.not_zero_lt_of_isZero h.loss)]

lemma drawJitter_of_isCertain (h : c.settings.IsCertain) :
    c.drawJitter = (Duration.zero, c) := by
  simp only [drawJitter]
  split
  · rfl
  · rename_i longest hj
    rw [if_pos (h.jitter longest hj)]

variable (seed : UInt64) (randomness : Randomness)

lemma isCertain_reseed (h : c.settings.IsCertain) :
    (c.reseed seed randomness).settings.IsCertain :=
  ⟨h.loss, h.jitter⟩

/-- The verdict on a transmission does not depend on the seed, and no number is drawn for it. -/
lemma transmit_reseed (h : c.settings.IsCertain) (sender receiver : NodeId)
    (kinds : List MessageKind) (distance : Option Binary64) :
    (c.reseed seed randomness).transmit sender receiver kinds distance =
        ((c.transmit sender receiver kinds distance).1,
          (c.transmit sender receiver kinds distance).2.reseed seed randomness) ∧
      (c.transmit sender receiver kinds distance).2.settings = c.settings := by
  have hrange : (c.reseed seed randomness).outOfRange distance = c.outOfRange distance := rfl
  have hrules : (c.reseed seed randomness).rules = c.rules := rfl
  simp only [transmit, hrange, hrules, drawLoss_of_isCertain h, drawJitter_of_isCertain h,
    drawLoss_of_isCertain (isCertain_reseed seed randomness h),
    drawJitter_of_isCertain (isCertain_reseed seed randomness h)]
  split
  · exact ⟨rfl, rfl⟩
  · split <;> exact ⟨rfl, rfl⟩

end Channel

namespace Simulation

variable {s s' : Simulation}

/-! ### Twins -/

/-- The simulation with another seed and another source of random numbers. -/
def reseed (seed : UInt64) (randomness : Randomness) (s : Simulation) : Simulation :=
  { s with channel := s.channel.reseed seed randomness }

/-- Two simulations are alike but for the seed, and leave nothing to chance. -/
structure Twins (s s' : Simulation) : Prop where
  certain : s.channel.settings.IsCertain
  exists_reseed : ∃ seed randomness, s' = s.reseed seed randomness

namespace Twins

lemma now (h : Twins s s') : s'.now = s.now := by
  obtain ⟨-, seed, randomness, rfl⟩ := h
  rfl

lemma nodes (h : Twins s s') : s'.nodes = s.nodes := by
  obtain ⟨-, seed, randomness, rfl⟩ := h
  rfl

lemma directory (h : Twins s s') : s'.directory = s.directory := by
  obtain ⟨-, seed, randomness, rfl⟩ := h
  rfl

lemma agenda (h : Twins s s') : s'.agenda = s.agenda := by
  obtain ⟨-, seed, randomness, rfl⟩ := h
  rfl

lemma isActive (h : Twins s s') (id : NodeId) : s'.isActive id = s.isActive id := by
  rw [Simulation.isActive, h.now, h.directory, Simulation.isActive]

lemma foldl {α : Type} {f : Simulation → α → Simulation}
    (hf : ∀ s s' a, Twins s s' → Twins (f s a) (f s' a)) (as : List α) (h : Twins s s') :
    Twins (as.foldl f s) (as.foldl f s') := by
  induction as generalizing s s' with
  | nil => exact h
  | cons a as ih => exact ih (hf s s' a h)

lemma record (h : Twins s s') (o : Occurrence) : Twins (s.record o) (s'.record o) := by
  obtain ⟨hc, seed, randomness, rfl⟩ := h
  exact ⟨hc, seed, randomness, rfl⟩

lemma count (h : Twins s s') (f : Tally → Tally) : Twins (s.count f) (s'.count f) := by
  obtain ⟨hc, seed, randomness, rfl⟩ := h
  exact ⟨hc, seed, randomness, rfl⟩

lemma drop (h : Twins s s') (sender receiver : NodeId) (kinds : List MessageKind)
    (reason : DropReason) : Twins (s.drop sender receiver kinds reason)
      (s'.drop sender receiver kinds reason) := by
  obtain ⟨hc, seed, randomness, rfl⟩ := h
  exact ⟨hc, seed, randomness, rfl⟩

lemma sendTo (h : Twins s s') (sender : NodeId) (kinds : List MessageKind)
    (data : List UInt8) (receiver : NodeId × Option Binary64) :
    Twins (s.sendTo sender kinds data receiver) (s'.sendTo sender kinds data receiver) := by
  obtain ⟨hc, seed, randomness, rfl⟩ := h
  obtain ⟨ht, hsettings⟩ :=
    Channel.transmit_reseed seed randomness hc sender receiver.1 kinds receiver.2
  have hchannel : (s.reseed seed randomness).channel = s.channel.reseed seed randomness := rfl
  simp only [Simulation.sendTo, hchannel, ht]
  -- whatever the verdict, the channel goes on with the same settings
  have hkept : Twins
      { s with channel := (s.channel.transmit sender receiver.1 kinds receiver.2).2 }
      { s.reseed seed randomness with
        channel := (s.channel.transmit sender receiver.1 kinds receiver.2).2.reseed seed
          randomness } :=
    ⟨hsettings.symm ▸ hc, seed, randomness, rfl⟩
  split
  · exact hkept
  · exact (hkept.count _).drop _ _ _ _
  · exact ⟨hkept.certain, seed, randomness, rfl⟩

lemma route (h : Twins s s') (id : NodeId) (origin : Vec3) (e : Effect) :
    Twins (s.route id origin e) (s'.route id origin e) := by
  cases e with
  | broadcast packet =>
    have hlisteners : s'.listeners id origin = s.listeners id origin := by
      rw [listeners, h.now, h.directory, listeners]
    simp only [Simulation.route, hlisteners]
    exact foldl (fun s s' receiver ht => ht.sendTo id packet.kinds (encode packet) receiver) _ h
  | send peer packet =>
    simp only [Simulation.route, h.isActive]
    split
    · exact h.sendTo _ _ _ _
    · exact h.drop _ _ _ _
  | schedule => exact h
  | cancel => exact h

lemma recordChanges (h : Twins s s') (id : NodeId) (position : Vec3)
    (before after : Node) : Twins (s.recordChanges id position before after)
      (s'.recordChanges id position before after) := by
  obtain ⟨hc, seed, randomness, rfl⟩ := h
  simp only [Simulation.recordChanges]
  split <;> split <;> split <;> exact ⟨hc, seed, randomness, rfl⟩

lemma call (h : Twins s s') (id : NodeId) (c : Call) :
    Twins (s.call id c) (s'.call id c) := by
  simp only [Simulation.call, h.now, h.directory, h.nodes, h.agenda]
  split
  · refine foldl (fun s s' e ht => ht.route id _ e) _ (recordChanges ?_ id _ _ _)
    obtain ⟨hc, seed, randomness, rfl⟩ := h
    exact ⟨hc, seed, randomness, rfl⟩
  · exact h

lemma advance (h : Twins s s') (time : Timestamp) :
    Twins (s.advance time) (s'.advance time) := by
  simp only [Simulation.advance, h.now]
  split
  · obtain ⟨hc, seed, randomness, rfl⟩ := h
    exact ⟨hc, seed, randomness, rfl⟩
  · exact h

lemma deliver (h : Twins s s') (receiver sender : NodeId) (data : List UInt8) :
    Twins (s.deliver receiver sender data) (s'.deliver receiver sender data) := by
  simp only [Simulation.deliver]
  split
  · exact h.count _
  · rename_i packet _
    rw [h.isActive]
    split
    · have hcount := h.count fun t => { t with deliveries := t.deliveries + 1 }
      rw [hcount.now]
      exact (hcount.record _).call receiver (.packet sender packet)
    · exact h.drop _ _ _ _

lemma process (h : Twins s s') (e : Event) :
    Twins (s.process e) (s'.process e) := by
  cases e with
  | timer node handle timer => exact h.call node (.timer timer)
  | delivery receiver sender data => exact h.deliver receiver sender data
  | departure node =>
    obtain ⟨hc, seed, randomness, rfl⟩ := h
    exact ⟨hc, seed, randomness, rfl⟩

/-- Twins take the same step, and stop at the same time. -/
lemma step (h : Twins s s') (limit : Timestamp) :
    Twins (s.step limit).1 (s'.step limit).1 ∧
      (s'.step limit).2 = (s.step limit).2 := by
  have hpop (g : Agenda) : Twins { s with agenda := g } { s' with agenda := g } := by
    obtain ⟨hc, seed, randomness, rfl⟩ := h
    exact ⟨hc, seed, randomness, rfl⟩
  simp only [Simulation.step, h.agenda]
  split
  · exact ⟨hpop _, rfl⟩
  · rename_i a _
    refine ⟨?_, rfl⟩
    dsimp only
    exact (((hpop _).advance a.time).process a.event).count _

/-- Twins take the same run. -/
lemma runUntil (h : Twins s s') (limit : Timestamp) (fuel : Nat) :
    Option.Rel (Twins) (s.runUntil? limit fuel) (s'.runUntil? limit fuel) := by
  induction fuel generalizing s s' with
  | zero => exact .none
  | succ fuel ih =>
    obtain ⟨hstep, hdue⟩ := h.step limit
    rcases hs : s.step limit with ⟨t, due⟩
    rcases hs' : s'.step limit with ⟨t', due'⟩
    rw [hs, hs'] at hstep hdue
    obtain rfl : due' = due := hdue
    simp only [runUntil?, hs, hs']
    cases due' with
    | true => exact ih hstep
    | false => exact .some (hstep.advance limit)

end Twins

/-! ### Setting up -/

/-- Two attempts fail in the same way, or twins come of them. -/
inductive Alike {ε : Type} : Except ε Simulation → Except ε Simulation → Prop where
  | error (fault : ε) : Alike (.error fault) (.error fault)
  | ok {s s' : Simulation} (h : Twins s s') : Alike (.ok s) (.ok s')

lemma alike_create {settings : ChannelSettings} (h : settings.IsCertain) (seed : UInt64) :
    Alike (create settings) (create { settings with seed }) := by
  have hcheck : ({ settings with seed } : ChannelSettings).check = settings.check := rfl
  simp only [create, Channel.create, hcheck]
  cases settings.check with
  | error fault => exact .error fault
  | ok => exact .ok ⟨h, seed, Randomness.ofSeed seed, rfl⟩

namespace Twins

lemma addNode (h : Twins s s') (id : NodeId) (settings : Settings) (isStarter : Bool)
    (velocity : Option Vec2) (motion : Motion) :
    Alike (s.addNode id settings isStarter velocity motion)
      (s'.addNode id settings isStarter velocity motion) := by
  simp only [Simulation.addNode, h.directory]
  split
  · exact .error _
  · split
    · exact .error _
    · refine .ok (call ?_ id .start)
      obtain ⟨hc, seed, randomness, rfl⟩ := h
      exact ⟨hc, seed, randomness, rfl⟩

lemma addDropRule (h : Twins s s') (r : DropRule) : Twins (s.addDropRule r) (s'.addDropRule r) := by
  obtain ⟨hc, seed, randomness, rfl⟩ := h
  exact ⟨hc, seed, randomness, rfl⟩

lemma scheduleDeparture (h : Twins s s') (id : NodeId) (time : Timestamp) :
    Twins (s.scheduleDeparture id time) (s'.scheduleDeparture id time) := by
  obtain ⟨hc, seed, randomness, rfl⟩ := h
  exact ⟨hc, seed, randomness, rfl⟩

lemma enlist (h : Twins s s') (settings : Settings) (n : NodeSpec) :
    Alike (Scenario.enlist settings s n) (Scenario.enlist settings s' n) := by
  have hadd := h.addNode n.id settings n.isStarter n.waveVelocity n.motion
  simp only [Scenario.enlist, Scenario.enter]
  generalize s.addNode n.id settings n.isStarter n.waveVelocity n.motion = x at hadd
  generalize s'.addNode n.id settings n.isStarter n.waveVelocity n.motion = x' at hadd
  cases hadd with
  | error fault => exact .error fault
  | ok ht =>
    cases n.departure with
    | none => exact .ok ht
    | some time => exact .ok (ht.scheduleDeparture n.id _)

lemma enlist_all (settings : Settings) (ns : List NodeSpec) (h : Twins s s') :
    Alike (ns.foldlM (Scenario.enlist settings) s) (ns.foldlM (Scenario.enlist settings) s') := by
  induction ns generalizing s s' with
  | nil => exact .ok h
  | cons n ns ih =>
    have hn := h.enlist settings n
    simp only [List.foldlM_cons]
    generalize Scenario.enlist settings s n = x at hn
    generalize Scenario.enlist settings s' n = x' at hn
    cases hn with
    | error fault => exact .error fault
    | ok ht => exact ih ht

end Twins

end Simulation

/-! ### Scenarios -/

namespace Scenario

/-- The scenario with another seed. -/
def reseed (seed : UInt64) (sc : Scenario) : Scenario :=
  { sc with channel := { sc.channel with seed } }

/-- The same nodes join on both channels. -/
lemma alike_build {sc : Scenario} (h : sc.channel.IsCertain) (seed : UInt64) :
    Simulation.Alike sc.build (sc.reseed seed).build := by
  have hcreate := Simulation.alike_create h seed
  simp only [build, reseed]
  generalize Simulation.create sc.channel = x at hcreate
  generalize Simulation.create { sc.channel with seed } = x' at hcreate
  cases hcreate with
  | error fault => exact .error _
  | ok ht =>
    have hnodes := (Simulation.Twins.foldl (fun _ _ r hr => hr.addDropRule r) sc.dropRules
      ht).enlist_all sc.settings sc.nodes
    dsimp only
    revert hnodes
    generalize sc.nodes.foldlM (enlist sc.settings) (sc.dropRules.foldl _ _) = y
    generalize sc.nodes.foldlM (enlist sc.settings) (sc.dropRules.foldl _ _) = y'
    rintro (fault | ht)
    · exact .error _
    · exact .ok ht

end Scenario

/-! ### What can be seen -/

/-- All that can be seen of a simulation: everything but its channel. -/
structure Sight where
  now : Timestamp
  nodes : Table NodeId Node
  directory : Directory
  agenda : Agenda
  timeline : Timeline
  tally : Tally
  snapshot : Snapshot

namespace Simulation

def sight (s : Simulation) : Sight :=
  ⟨s.now, s.nodes, s.directory, s.agenda, s.timeline, s.tally, s.snapshot⟩

/-- What can be seen of a simulation at first and after each of some runs, which are given by their
limits and by how many events they may take. There is no answer if a run takes more. -/
def watch? : List (Timestamp × Nat) → Simulation → Option (List Sight)
  | [], s => some [s.sight]
  | (limit, fuel) :: stops, s =>
    (s.runUntil? limit fuel).bind fun s' => (watch? stops s').map (s.sight :: ·)

variable {s s' : Simulation}

lemma Twins.sight (h : Twins s s') : s'.sight = s.sight := by
  obtain ⟨-, seed, randomness, rfl⟩ := h
  rfl

lemma Twins.watch? (h : Twins s s') (stops : List (Timestamp × Nat)) :
    s'.watch? stops = s.watch? stops := by
  induction stops generalizing s s' with
  | nil => simp only [Simulation.watch?, h.sight]
  | cons stop stops ih =>
    have hrun := h.runUntil stop.1 stop.2
    simp only [Simulation.watch?, h.sight]
    generalize s.runUntil? stop.1 stop.2 = x at hrun
    generalize s'.runUntil? stop.1 stop.2 = x' at hrun
    cases hrun with
    | none => rfl
    | some ht => simp only [Option.bind_some, ih ht]

end Simulation

namespace Scenario

/-- What can be seen of the simulation of a scenario, run by run. -/
def watch (sc : Scenario) (stops : List (Timestamp × Nat)) :
    Except ScenarioFault (Option (List Sight)) :=
  sc.build.map (Simulation.watch? stops)

/-- If a scenario leaves nothing to chance, its seed does not show: with another seed it is set up
with the same outcome, and at every stop of the same runs the clock, the nodes, what is planned, the
timeline, the tally and the snapshot are the same. -/
theorem watch_reseed_of_isCertain (sc : Scenario) (seed : UInt64) (h : sc.channel.IsCertain)
    (stops : List (Timestamp × Nat)) : (sc.reseed seed).watch stops = sc.watch stops := by
  have halike := alike_build h seed
  simp only [watch]
  generalize sc.build = x at halike
  generalize (sc.reseed seed).build = x' at halike
  cases halike with
  | error fault => rfl
  | ok ht => exact congrArg Except.ok (ht.watch? stops)

/-- Two nodes at the same place, on a standard channel. -/
def duo : Scenario :=
  { bare "duo" (Duration.ofSecs 3) Settings.standard with
    nodes := [.parked ⟨1⟩ Vec2.zero, .parked ⟨2⟩ Vec2.zero] }

/-- Two nodes are run with two seeds, to the end of a second and on to three, and packets arrive. -/
theorem duo_watch_reseed :
    duo.channel.IsCertain ∧ (duo.reseed 7).channel.seed ≠ duo.channel.seed ∧
    (∃ sights, duo.watch [(.ofSecs 1, 50), (.ofSecs 3, 100)] = .ok (some sights) ∧
      ∃ sight ∈ sights, 0 < sight.tally.deliveries) ∧
    (duo.reseed 7).watch [(.ofSecs 1, 50), (.ofSecs 3, 100)] =
      duo.watch [(.ofSecs 1, 50), (.ofSecs 3, 100)] := by
  have hcertain : duo.channel.IsCertain := ⟨rfl, fun _ hj => nomatch hj⟩
  refine ⟨hcertain, by decide, ?_, watch_reseed_of_isCertain duo 7 hcertain _⟩
  have h : ((duo.watch [(.ofSecs 1, 50), (.ofSecs 3, 100)]).toOption.any fun answer =>
      answer.any fun sights => sights.any fun sight => 0 < sight.tally.deliveries) = true := by
    decide +kernel
  simp only [Option.any_eq_true, List.any_eq_true, decide_eq_true_eq] at h
  obtain ⟨answer, hanswer, sights, rfl, hsights⟩ := h
  exact ⟨sights, eq_ok_of_toOption hanswer, hsights⟩

end Scenario

end ClusterWave
