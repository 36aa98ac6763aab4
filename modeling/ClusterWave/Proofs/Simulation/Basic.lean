import ClusterWave.Proofs.Node.Visit
import ClusterWave.Proofs.Simulation.Agenda
import ClusterWave.Simulation.Run

/-!
# What becomes of a simulation

A simulation is created on a channel. After that nodes join it, drop rules and departures are added
and it is run, in any order. `Simulation.Reached` lists what can come of this. Whatever it is, a
simulation does nothing to its nodes but let them be visited.
-/

namespace ClusterWave

namespace Simulation

/-- The simulations that there can be. -/
inductive Reached : Simulation → Prop where
  | create {settings : ChannelSettings} {s : Simulation} (h : create settings = .ok s) : Reached s
  | addNode {s s' : Simulation} {id : NodeId} {settings : Settings} {isStarter : Bool}
      {velocity : Option Vec2} {motion : Motion} (hs : Reached s)
      (h : s.addNode id settings isStarter velocity motion = .ok s') : Reached s'
  | addDropRule {s : Simulation} (r : DropRule) (hs : Reached s) : Reached (s.addDropRule r)
  | scheduleDeparture {s : Simulation} (id : NodeId) (time : Timestamp) (hs : Reached s) :
      Reached (s.scheduleDeparture id time)
  | runUntil {s s' : Simulation} {limit : Timestamp} {fuel : Nat} (hs : Reached s)
      (h : s.runUntil? limit fuel = some s') : Reached s'

variable {s s' : Simulation}

/-! ### Set up and run -/

/-- A simulation in which nothing has happened yet. -/
def blank (channel : Channel) : Simulation where
  now := Timestamp.start
  nodes := Table.empty
  directory := Directory.empty
  agenda := Agenda.empty
  channel := channel
  timeline := Timeline.empty
  tally := Tally.zero

lemma exists_of_create {settings : ChannelSettings} (h : create settings = .ok s) :
    ∃ channel, s = blank channel := by
  simp only [create] at h
  split at h
  · cases h
  · cases h
    exact ⟨_, rfl⟩

/-- A node has joined and is about to be started. -/
def join (s : Simulation) (id : NodeId) (node : Node) (directory : Directory) : Simulation :=
  { s with directory, nodes := s.nodes.insert id node }

lemma exists_of_addNode {id : NodeId} {settings : Settings} {isStarter : Bool}
    {velocity : Option Vec2} {motion : Motion}
    (h : s.addNode id settings isStarter velocity motion = .ok s') :
    ∃ node directory, Node.create id settings isStarter velocity = .ok node ∧
      s.directory.register? id motion = some directory ∧
      s' = (s.join id node directory).call id .start := by
  simp only [addNode] at h
  split at h
  · cases h
  · rename_i node hn
    split at h
    · cases h
    · rename_i directory hd
      cases h
      exact ⟨node, directory, hn, hd, rfl⟩

/-- What is kept by every step, and when the clock goes on, is kept by a run. -/
lemma runUntil?_induct {p : Simulation → Prop}
    (step : ∀ (s : Simulation) (limit : Timestamp), p s → p (s.step limit).1)
    (advance : ∀ (s : Simulation) (limit : Timestamp), p s → p (s.advance limit))
    {limit : Timestamp} {fuel : Nat} (h : p s) (hr : s.runUntil? limit fuel = some s') :
    p s' := by
  induction fuel generalizing s with
  | zero => cases hr
  | succ fuel ih =>
    simp only [runUntil?] at hr
    have hstep := step s limit h
    split at hr
    · rename_i t heq
      rw [heq] at hstep
      cases hr
      exact advance t limit hstep
    · rename_i t heq
      rw [heq] at hstep
      exact ih hstep hr

/-! ### What leaves the nodes alone -/

/-- Neither time nor the nodes nor their places change, and some packets that pass a test come into
the agenda. -/
structure Adds (ok : Appointment → Prop) (s s' : Simulation) : Prop where
  now : s'.now = s.now
  nodes : s'.nodes = s.nodes
  directory : s'.directory = s.directory
  agenda : s.agenda.Mails ok s'.agenda

namespace Adds

variable {ok : Appointment → Prop} {s'' : Simulation}

lemma of_eq (hn : s'.now = s.now) (hns : s'.nodes = s.nodes) (hd : s'.directory = s.directory)
    (ha : s'.agenda = s.agenda) : Adds ok s s' := ⟨hn, hns, hd, ha ▸ .refl _⟩

lemma refl (s : Simulation) : Adds ok s s := of_eq rfl rfl rfl rfl

lemma trans (h : Adds ok s s') (h' : Adds ok s' s'') : Adds ok s s'' :=
  ⟨h'.now.trans h.now, h'.nodes.trans h.nodes, h'.directory.trans h.directory,
    h.agenda.trans h'.agenda⟩

/-- A loop adds what its rounds add, which may depend on the time. -/
lemma foldl {α : Type} {f : Simulation → α → Simulation} {as : List α}
    (h : ∀ s', s'.now = s.now → ∀ a ∈ as, Adds ok s' (f s' a)) : Adds ok s (as.foldl f s) := by
  refine List.foldlRecOn (motive := fun s' => Adds ok s s') _ _ (refl s) ?_
  intro s' hs a ha
  exact hs.trans (h s' hs.now a ha)

lemma sendTo {sender : NodeId} {kinds : List MessageKind} {data : List UInt8}
    {receiver : NodeId × Option Binary64}
    (h : ∀ (latency : Duration) seq,
      ok ⟨s.now + latency, seq, .delivery receiver.1 sender data⟩) :
    Adds ok s (Simulation.sendTo sender kinds data s receiver) := by
  simp only [Simulation.sendTo]
  split
  · exact of_eq rfl rfl rfl rfl
  · exact of_eq rfl rfl rfl rfl
  · exact ⟨rfl, rfl, rfl, .push _ (h _ _)⟩

/-- A packet that is sent comes into the agenda for its receivers, and for nobody else. -/
lemma route {id : NodeId} {origin : Vec3} {e : Effect} (h : ∀ a, e.Books id s.now a → ok a) :
    Adds ok s (Simulation.route id origin s e) := by
  cases e with
  | broadcast packet =>
    refine foldl fun s' hn receiver _ => sendTo fun latency seq => ?_
    rw [hn]
    exact h _ (.broadcast _ _ _ _)
  | send peer packet =>
    simp only [Simulation.route]
    split
    · exact sendTo fun latency seq => h _ (.send _ _ _ _)
    · exact of_eq rfl rfl rfl rfl
  | schedule => exact refl s
  | cancel => exact refl s

end Adds

/-- Taking changes down touches nothing but the timeline. -/
lemma recordChanges_eq (s : Simulation) (id : NodeId) (position : Vec3) (before after : Node) :
    s.recordChanges id position before after =
      { s with timeline := (s.recordChanges id position before after).timeline } := by
  simp only [recordChanges]
  split <;> split <;> split <;> rfl

lemma nodes_advance (s : Simulation) (time : Timestamp) : (s.advance time).nodes = s.nodes := by
  simp only [advance]
  split <;> rfl

lemma le_now_advance (s : Simulation) (time : Timestamp) :
    s.now ≤ (s.advance time).now ∧ time ≤ (s.advance time).now := by
  simp only [advance]
  split
  · rename_i hlt
    exact ⟨Timestamp.le_of_lt hlt, Timestamp.le_refl _⟩
  · rename_i hge
    exact ⟨Timestamp.le_refl _, Timestamp.not_lt.1 hge⟩

lemma agenda_advance (s : Simulation) (time : Timestamp) : (s.advance time).agenda = s.agenda := by
  simp only [advance]
  split <;> rfl

/-! ### Visits -/

/-- What a visit of a node makes of a simulation. -/
structure Called (s : Simulation) (id : NodeId) (n : Node) (v : Visit) (s' : Simulation) :
    Prop where
  node : s.nodes.get? id = some n
  position : s.directory.resolve? id s.now = some v.position
  visit_now : v.now = s.now
  nextHandle : v.nextHandle = s.agenda.nextHandle
  now : s'.now = s.now
  directory : s'.directory = s.directory
  nodes : s'.nodes = s.nodes.insert id (n.visit v).node
  agenda : Agenda.Mails (fun a => ∃ e ∈ (n.visit v).outbox.effects, e.Books id s.now a)
    ((n.visit v).outbox.effects.foldl (Agenda.apply id s.now) s.agenda) s'.agenda

lemma Called.grows {id : NodeId} {n : Node} {v : Visit} (h : s.Called id n v s') :
    s.agenda.Grows (fun a => ∃ e ∈ (n.visit v).outbox.effects, e.Books id s.now a) s'.agenda :=
  (Agenda.grows_foldl_apply _ _ fun e he _ ha => ⟨e, he, ha⟩).trans h.agenda.grows

/-- A call is a visit of the node. -/
lemma called_of_resolve {id : NodeId} {n : Node} {position : Vec3} (c : Call)
    (hp : s.directory.resolve? id s.now = some position) (hn : s.nodes.get? id = some n) :
    s.Called id n ⟨s.now, position, s.agenda.nextHandle, c⟩ (s.call id c) := by
  let v : Visit := ⟨s.now, position, s.agenda.nextHandle, c⟩
  let ok (a : Appointment) : Prop := ∃ e ∈ (n.visit v).outbox.effects, e.Books id s.now a
  -- timers are put in at once, and packets when the turn is over
  have hroute (t : Simulation) (ht : t.now = s.now) :
      Adds ok t ((n.visit v).outbox.effects.foldl (route id position) t) :=
    Adds.foldl fun t' ht' e he => Adds.route fun a ha => ⟨e, he, ht ▸ ht' ▸ ha⟩
  have hrecord (t : Simulation) : Adds ok t (t.recordChanges id position n (n.visit v).node) := by
    rw [recordChanges_eq]
    exact .of_eq rfl rfl rfl rfl
  have hall := (hrecord _).trans (hroute _ (hrecord { s with
    nodes := s.nodes.insert id (n.visit v).node
    agenda := (n.visit v).outbox.effects.foldl (Agenda.apply id s.now) s.agenda }).now)
  simp only [call, hp, hn]
  exact ⟨hn, hp, rfl, rfl, hall.now, hall.directory, hall.nodes, hall.agenda⟩

/-- A call is a visit of the node, or nothing if the node is not there. -/
lemma called (s : Simulation) (id : NodeId) (c : Call) :
    s.call id c = s ∨ ∃ n v, v.call = c ∧ s.Called id n v (s.call id c) := by
  cases hp : s.directory.resolve? id s.now with
  | none =>
    simp only [call, hp]
    exact .inl trivial
  | some position =>
    cases hn : s.nodes.get? id with
    | none =>
      simp only [call, hp, hn]
      exact .inl trivial
    | some n => exact .inr ⟨n, _, rfl, called_of_resolve c hp hn⟩

/-- What holds of the nodes of a simulation if every one is there by itself. -/
def Each (p : NodeId → Node → Prop) (s : Simulation) : Prop :=
  ∀ id n, s.nodes.get? id = some n → p id n

section

variable {p : NodeId → Node → Prop}

lemma Each.of_nodes (h : s.Each p) (hn : s'.nodes = s.nodes) : s'.Each p := by
  intro id n hget
  rw [hn] at hget
  exact h id n hget

lemma Each.insert (h : s.Each p) {id : NodeId} {n : Node} (hp : p id n)
    (hn : s'.nodes = s.nodes.insert id n) : s'.Each p := by
  intro id' n' hget
  rw [hn] at hget
  rcases Table.of_get?_insert hget with ⟨rfl, rfl⟩ | ⟨-, hget⟩
  · exact hp
  · exact h id' n' hget

variable (visit : ∀ id n v, p id n → p id (n.visit v).node)

include visit

lemma Each.call (h : s.Each p) (id : NodeId) (c : Call) : (s.call id c).Each p := by
  rcases s.called id c with he | ⟨n, v, -, hv⟩
  · exact h.of_nodes (congrArg nodes he)
  · exact h.insert (visit id n v (h id n hv.node)) hv.nodes

lemma Each.process (h : s.Each p) (e : Event) : (s.process e).Each p := by
  cases e with
  | timer node handle timer => exact h.call visit node (.timer timer)
  | departure node => exact h.of_nodes rfl
  | delivery receiver sender data =>
    simp only [Simulation.process, deliver]
    split
    · exact h.of_nodes rfl
    · split
      · refine Each.call visit ?_ receiver _
        exact h.of_nodes rfl
      · exact h.of_nodes rfl

lemma Each.step (h : s.Each p) (limit : Timestamp) : (s.step limit).1.Each p := by
  simp only [Simulation.step]
  split
  · exact h.of_nodes rfl
  · rename_i a _
    have ha : ({ s with agenda := (s.agenda.popDue limit).2 }.advance a.time).Each p :=
      h.of_nodes (nodes_advance _ _)
    exact (ha.process visit a.event).of_nodes rfl

lemma Each.runUntil {limit : Timestamp} {fuel : Nat} (h : s.Each p)
    (hr : s.runUntil? limit fuel = some s') : s'.Each p :=
  runUntil?_induct (p := Each p) (fun _ limit hs => hs.step visit limit)
    (fun t limit ht => ht.of_nodes (nodes_advance t limit)) h hr

/-- What holds of every new node and is kept by every visit holds of all nodes of a simulation. -/
lemma Reached.each (hs : s.Reached)
    (new : ∀ id settings isStarter velocity n,
      Node.create id settings isStarter velocity = .ok n → p id n) : s.Each p := by
  induction hs with
  | create h =>
    obtain ⟨channel, rfl⟩ := exists_of_create h
    intro id n hget
    cases hget
  | addNode _ h ih =>
    obtain ⟨node, directory, hn, -, rfl⟩ := exists_of_addNode h
    exact Each.call visit (ih.insert (new _ _ _ _ node hn) rfl) _ _
  | addDropRule r _ ih => exact ih.of_nodes rfl
  | scheduleDeparture id time _ ih => exact ih.of_nodes rfl
  | runUntil _ h ih => exact ih.runUntil visit h

end

end Simulation

end ClusterWave
