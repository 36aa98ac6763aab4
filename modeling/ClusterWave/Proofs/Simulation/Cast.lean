import ClusterWave.Proofs.Simulation.Seat

/-!
# Broadcasts over a clear channel

A clear channel has standard settings and no drop rules: it loses nothing and delivers every packet
after a millisecond. So what a node broadcasts over it is on its way to every other node that can be
reached, and nothing else is.
-/

namespace ClusterWave

/-- Whether a channel has standard settings and nothing to drop. -/
structure Channel.IsClear (c : Channel) : Prop where
  settings : c.settings = .standard
  rules : c.rules = []

lemma Channel.IsClear.transmit {c : Channel} (h : c.IsClear) (sender receiver : NodeId)
    (kinds : List MessageKind) (distance : Option Binary64) :
    c.transmit sender receiver kinds distance = (.deliver (Duration.ofMillis 1), c) := by
  have hrange : c.outOfRange distance = false := by
    simp only [outOfRange, h.settings]
    rfl
  have hloss : c.drawLoss = (false, c) := if_neg (by rw [h.settings]; decide)
  have hjitter : c.drawJitter = (Duration.zero, c) := by
    simp only [drawJitter, h.settings]
    rfl
  have hlatency : c.settings.latency + Duration.zero = Duration.ofMillis 1 := by
    rw [h.settings]
    decide
  simp only [Channel.transmit, hrange, h.rules, DropRule.charge?, hloss, hjitter, hlatency,
    Bool.false_eq_true, if_false]

/-! ### What an agenda holds -/

namespace Agenda

variable {g g' : Agenda} {time time' : Timestamp} {event event' : Event}

/-- Whether an event is to take place at a given time. -/
def Holds (g : Agenda) (time : Timestamp) (event : Event) : Prop :=
  ∃ p ∈ g.appointments, p.time = time ∧ p.event = event

lemma holds_push : (g.push time event).Holds time' event' ↔
    g.Holds time' event' ∨ time' = time ∧ event' = event := by
  have hmem (p : Appointment) : p ∈ (g.push time event).appointments ↔
      p = ⟨time, g.nextSeq, event⟩ ∨ p ∈ g.appointments :=
    (Appointment.perm_insert _ _).mem_iff.trans List.mem_cons
  constructor
  · rintro ⟨p, hp, rfl, rfl⟩
    rcases (hmem p).1 hp with rfl | hp
    · exact .inr ⟨rfl, rfl⟩
    · exact .inl ⟨p, hp, rfl, rfl⟩
  · rintro (⟨p, hp, ht, he⟩ | ⟨rfl, rfl⟩)
    · exact ⟨p, (hmem p).2 (.inr hp), ht, he⟩
    · exact ⟨_, (hmem _).2 (.inl rfl), rfl, rfl⟩

/-- What a node asks of its timers changes nothing else. -/
lemma holds_foldl_apply {id : NodeId} {now : Timestamp} (es : List Effect)
    (he : ∀ node handle timer, event ≠ .timer node handle timer) :
    (es.foldl (apply id now) g).Holds time event ↔ g.Holds time event := by
  have happly (g : Agenda) (e : Effect) :
      (apply id now g e).Holds time event ↔ g.Holds time event := by
    cases e with
    | schedule handle delay timer =>
      refine (holds_push (g := { g with nextHandle := g.nextHandle + 1 })).trans ?_
      refine or_iff_left ?_
      rintro ⟨-, rfl⟩
      exact he _ _ _ rfl
    | cancel handle =>
      simp only [apply, cancel]
      split
      · exact Iff.rfl
      · exact Iff.rfl
    | broadcast | send => exact Iff.rfl
  induction es generalizing g with
  | nil => exact Iff.rfl
  | cons e es ih => exact ih.trans (happly g e)

namespace Orderly

/-- Nothing but what is taken out is lost, timers apart. -/
lemma holds_popDue (h : g.Orderly) {limit : Timestamp} {found : Option Appointment}
    (hp : g.popDue limit = (found, g'))
    (he : ∀ node handle timer, event ≠ .timer node handle timer) :
    g.Holds time event ↔
      g'.Holds time event ∨ ∃ p, found = some p ∧ p.time = time ∧ p.event = event := by
  have ht := h.takes_popDue hp
  constructor
  · rintro ⟨p, hm, rfl, rfl⟩
    rcases ht.skipped p hm with hm | ⟨handle, -, hh⟩
    · rcases List.mem_append.1 hm with hm | hm
      · exact .inr ⟨p, Option.mem_toList.1 hm, rfl, rfl⟩
      · exact .inl ⟨p, hm, rfl, rfl⟩
    · cases hpe : p.event with
      | timer node handle' timer => exact absurd hpe (he node handle' timer)
      | delivery | departure =>
        rw [Appointment.handle?, hpe] at hh
        cases hh
  · rintro (⟨p, hm, ht', he'⟩ | ⟨p, rfl, ht', he'⟩)
    · exact ⟨p, ht.kept.subset (List.mem_append_right _ hm), ht', he'⟩
    · exact ⟨p, ht.kept.subset List.mem_cons_self, ht', he'⟩

/-- What is taken out comes before every packet that is on its way. -/
lemma le_of_holds (h : g.Orderly) {limit : Timestamp} {p : Appointment}
    (hp : g.popDue limit = (some p, g'))
    (he : ∀ node handle timer, event ≠ .timer node handle timer) (hh : g.Holds time event) :
    p.time ≤ time := by
  rcases (h.holds_popDue hp he).1 hh with ⟨q, hq, rfl, -⟩ | ⟨q, hq, rfl, -⟩
  · exact h.le_of_popDue hp hq
  · rw [Option.some.inj hq]
    exact Timestamp.le_refl _

/-- It comes before every timer that is awaited. -/
lemma le_of_awaits (h : g.Orderly) {limit : Timestamp} {p : Appointment} {id : NodeId} {a : Alarm}
    (hp : g.popDue limit = (some p, g')) (ha : g.Awaits id a) : p.time ≤ a.due := by
  by_cases he : p.event = .timer id a.handle a.timer
  · have hp' : g.Awaits id ⟨p.time, a.handle, a.timer⟩ := h.awaits_of_popDue hp he rfl
    obtain ⟨-, ha⟩ := h.awaits_unique ha hp' rfl
    rw [ha]
    exact Timestamp.le_refl _
  · obtain ⟨-, q, hq, hd, -⟩ := (h.awaits_popDue hp).2 ⟨ha, fun q hq => Option.some.inj hq ▸ he⟩
    exact hd ▸ h.le_of_popDue hp hq

end Orderly

end Agenda

/-! ### What is sent -/

lemma Directory.mem_reachable_iff {d : Directory} {id : NodeId} {now : Timestamp}
    {position : Vec3} : (id, position) ∈ d.reachable now ↔ d.resolve? id now = some position := by
  simp only [reachable, List.mem_filterMap, resolve?]
  constructor
  · rintro ⟨⟨id', r⟩, hm, h⟩
    split at h
    · cases h
    · rename_i hd
      obtain ⟨rfl, rfl⟩ := Prod.mk.inj (Option.some.inj h)
      rw [Table.get?_eq_some_iff.2 hm]
      exact if_neg hd
  · intro h
    split at h
    · cases h
    · rename_i r hr
      split at h
      · cases h
      · rename_i hd
        refine ⟨(id, r), Table.get?_eq_some_iff.1 hr, ?_⟩
        rw [if_neg hd, Option.some.inj h]

namespace Simulation

variable {s s' s'' : Simulation} {new new' : Event → Prop}

/-- Over a clear channel some events come into the agenda, all a millisecond ahead. -/
structure Posts (new : Event → Prop) (s s' : Simulation) : Prop where
  now : s'.now = s.now
  directory : s'.directory = s.directory
  channel : s'.channel = s.channel
  holds : ∀ time event, s'.agenda.Holds time event ↔
    s.agenda.Holds time event ∨ time = s.now + Duration.ofMillis 1 ∧ new event

namespace Posts

lemma of_eq (hn : s'.now = s.now) (hd : s'.directory = s.directory)
    (hc : s'.channel = s.channel) (ha : s'.agenda = s.agenda) :
    Posts (fun _ => False) s s' := by
  refine ⟨hn, hd, hc, ?_⟩
  intro time event
  rw [ha]
  exact (or_iff_left fun h => h.2).symm

lemma trans (h : Posts new s s') (h' : Posts new' s' s'') :
    Posts (fun e => new e ∨ new' e) s s'' := by
  refine ⟨h'.now.trans h.now, h'.directory.trans h.directory, h'.channel.trans h.channel, ?_⟩
  intro time event
  rw [h'.holds, h.holds, h.now, or_assoc, ← and_or_left]

lemma congr (h : Posts new s s') (he : ∀ event, new event ↔ new' event) : Posts new' s s' := by
  refine ⟨h.now, h.directory, h.channel, ?_⟩
  intro time event
  rw [h.holds, he]

lemma sendTo (h : s.channel.IsClear) (sender : NodeId) (kinds : List MessageKind)
    (data : List UInt8) (receiver : NodeId × Option Binary64) :
    Posts (· = .delivery receiver.1 sender data) s
      (Simulation.sendTo sender kinds data s receiver) := by
  simp only [Simulation.sendTo, h.transmit]
  exact ⟨rfl, rfl, rfl, fun _ _ => Agenda.holds_push⟩

lemma foldl_sendTo (h : s.channel.IsClear) (sender : NodeId) (kinds : List MessageKind)
    (data : List UInt8) (receivers : List (NodeId × Option Binary64)) :
    Posts (fun e => ∃ r ∈ receivers, e = .delivery r.1 sender data) s
      (receivers.foldl (Simulation.sendTo sender kinds data) s) := by
  induction receivers generalizing s with
  | nil => exact (of_eq rfl rfl rfl rfl).congr (by simp)
  | cons r rs ih =>
    have hsend := sendTo h sender kinds data r
    refine (hsend.trans (ih (hsend.channel ▸ h))).congr ?_
    simp

/-- A broadcast goes to every other node that can be reached. -/
lemma route_broadcast (h : s.channel.IsClear) (sender : NodeId) (origin : Vec3)
    (packet : Packet) :
    Posts (fun e => ∃ receiver, receiver ≠ sender ∧ s.isActive receiver ∧
        e = .delivery receiver sender (encode packet)) s
      (s.route sender origin (.broadcast packet)) := by
  refine (foldl_sendTo h sender packet.kinds (encode packet) _).congr ?_
  intro event
  have hmem (receiver : NodeId) : (∃ d, (receiver, d) ∈ s.listeners sender origin) ↔
      receiver ≠ sender ∧ s.isActive receiver := by
    simp only [listeners, List.mem_map, List.mem_filter, isActive, Option.isSome_iff_exists]
    constructor
    · rintro ⟨d, ⟨id, position⟩, ⟨hm, hne⟩, he⟩
      obtain ⟨rfl, -⟩ := Prod.mk.inj he
      exact ⟨bne_iff_ne.1 hne, position, Directory.mem_reachable_iff.1 hm⟩
    · rintro ⟨hne, position, hp⟩
      exact ⟨_, (receiver, position), ⟨Directory.mem_reachable_iff.2 hp, bne_iff_ne.2 hne⟩, rfl⟩
  constructor
  · rintro ⟨⟨receiver, d⟩, hm, rfl⟩
    obtain ⟨hne, ha⟩ := (hmem receiver).1 ⟨d, hm⟩
    exact ⟨receiver, hne, ha, rfl⟩
  · rintro ⟨receiver, hne, ha, rfl⟩
    obtain ⟨d, hm⟩ := (hmem receiver).2 ⟨hne, ha⟩
    exact ⟨(receiver, d), hm, rfl⟩

/-- So does everything that is broadcast in a turn. -/
lemma foldl_route (h : s.channel.IsClear) (sender : NodeId) (origin : Vec3) (es : List Effect)
    (hes : ∀ peer packet, .send peer packet ∉ es) :
    Posts (fun e => ∃ packet receiver, .broadcast packet ∈ es ∧ receiver ≠ sender ∧
        s.isActive receiver ∧ e = .delivery receiver sender (encode packet)) s
      (es.foldl (route sender origin) s) := by
  induction es generalizing s with
  | nil => exact (of_eq rfl rfl rfl rfl).congr (by simp)
  | cons e es ih =>
    have hrest {new : Event → Prop} (s' : Simulation) (hs : Posts new s s') :
        Posts (fun e => ∃ packet receiver, .broadcast packet ∈ es ∧ receiver ≠ sender ∧
          s.isActive receiver ∧ e = .delivery receiver sender (encode packet)) s'
            (es.foldl (route sender origin) s') := by
      have hpost := ih (s := s') (hs.channel ▸ h)
        fun peer packet hm => hes peer packet (List.mem_cons_of_mem e hm)
      have hactive (receiver : NodeId) : s'.isActive receiver = s.isActive receiver := by
        rw [isActive, isActive, hs.directory, hs.now]
      simp only [hactive] at hpost
      exact hpost
    cases e with
    | broadcast packet =>
      have hb := route_broadcast h sender origin packet
      refine (hb.trans (hrest _ hb)).congr ?_
      intro event
      constructor
      · rintro (⟨receiver, hrest⟩ | ⟨packet', receiver, hm, hrest⟩)
        · exact ⟨packet, receiver, List.mem_cons_self, hrest⟩
        · exact ⟨packet', receiver, List.mem_cons_of_mem _ hm, hrest⟩
      · rintro ⟨packet', receiver, hm, hrest⟩
        rcases List.mem_cons.1 hm with he | hm
        · rw [Effect.broadcast.inj he] at hrest
          exact .inl ⟨receiver, hrest⟩
        · exact .inr ⟨packet', receiver, hm, hrest⟩
    | send peer packet => exact absurd List.mem_cons_self (hes peer packet)
    | schedule | cancel =>
      refine (hrest s (of_eq rfl rfl rfl rfl)).congr ?_
      simp

end Posts

/-- What a visit over a clear channel puts in, timers apart. -/
lemma Called.posts {id : NodeId} {n : Node} {v : Visit} (h : s.Called id n v (s.call id v.call))
    (hc : s.channel.IsClear)
    (hes : ∀ peer packet, .send peer packet ∉ (n.visit v).outbox.effects) :
    (s.call id v.call).channel = s.channel ∧
      ∀ time event, (∀ node handle timer, event ≠ .timer node handle timer) →
        ((s.call id v.call).agenda.Holds time event ↔ s.agenda.Holds time event ∨
          time = s.now + Duration.ofMillis 1 ∧ ∃ packet receiver,
            .broadcast packet ∈ (n.visit v).outbox.effects ∧ receiver ≠ id ∧
              s.isActive receiver ∧ event = .delivery receiver id (encode packet)) := by
  obtain ⟨now, position, nextHandle, c⟩ := v
  obtain rfl : now = s.now := h.visit_now
  obtain rfl : nextHandle = s.agenda.nextHandle := h.nextHandle
  let v : Visit := ⟨s.now, position, s.agenda.nextHandle, c⟩
  let s₁ : Simulation := { s with
    nodes := s.nodes.insert id (n.visit v).node
    agenda := (n.visit v).outbox.effects.foldl (Agenda.apply id s.now) s.agenda }
  let s₂ : Simulation := s₁.recordChanges id position n (n.visit v).node
  have hs₂ : s₂ = { s₁ with timeline := s₂.timeline } := recordChanges_eq _ _ _ _ _
  have hcall : s.call id c = (n.visit v).outbox.effects.foldl (route id position) s₂ := by
    simp only [Simulation.call, h.position, h.node]
    rfl
  have hclear : s₂.channel.IsClear := by
    rw [hs₂]
    exact hc
  have hpost := Posts.foldl_route hclear id position _ hes
  rw [← hcall] at hpost
  have hactive (receiver : NodeId) : s₂.isActive receiver = s.isActive receiver := by
    rw [hs₂]
    rfl
  have hnow : s₂.now = s.now := by rw [hs₂]
  have hagenda : s₂.agenda = s₁.agenda := by rw [hs₂]
  constructor
  · rw [hpost.channel, hs₂]
  · intro time event he
    have hiff := hpost.holds time event
    simp only [hactive, hnow] at hiff
    rw [hiff, hagenda, Agenda.holds_foldl_apply _ he]

end Simulation

end ClusterWave
