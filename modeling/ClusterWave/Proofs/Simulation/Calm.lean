import ClusterWave.Proofs.Clustering.Reign
import ClusterWave.Proofs.Simulation.Cast
import ClusterWave.Proofs.Wire.Exact

/-!
# All follow the highest node

A number of nodes that stay where they are run with standard settings over a clear channel, all of
them in range of the highest one. That one transmits at least every 300 milliseconds, so every other
node hears it in time and follows it, whatever takes place.
-/

namespace ClusterWave

/-- Where the nodes are: they stay, and all are in range of `top`. -/
structure Directory.Close (top : NodeId) (place : Vec3) (d : Directory) : Prop where
  home : ∀ now position, d.resolve? top now = some position → position = place
  near : ∀ id now position, id ≠ top → d.resolve? id now = some position →
    position.ground.dist place.ground < Settings.standard.range
  stays : ∀ id now now', (d.resolve? id now).isSome → (d.resolve? id now').isSome

/-- What is known about a node at its bench. -/
structure Bench.Proper (id : NodeId) (b : Bench) : Prop where
  matched : b.Matches
  id : b.node.record.id = id
  timely : ∀ a ∈ b.alarms, a.Timely

/-- A transmission every 300 milliseconds is heard before the timeout. -/
lemma Timestamp.add_add_le {a b : Timestamp} (h : a ≤ b + Duration.ofMillis 300) :
    a + Duration.ofMillis 1 ≤ b + Duration.ofMillis 301 := by
  have h300 : (Duration.ofMillis 300).micros.toNat = 300000 := by decide
  have h1 : (Duration.ofMillis 1).micros.toNat = 1000 := by decide
  have h301 : (Duration.ofMillis 301).micros.toNat = 301000 := by decide
  rw [le_iff, toNat_add, h300] at h
  rw [le_iff, toNat_add, toNat_add, h1, h301]
  omega

namespace Simulation

/-- Whether a node hears of `top` by the time by which it has to, given the time by which `top`
transmits: either the next transmission is early enough, or a packet is on its way. -/
def OnTime (top : NodeId) (w : Timestamp) (id : NodeId) (deadline : Timestamp) (s : Simulation) :
    Prop :=
  w + Duration.ofMillis 1 ≤ deadline ∨
    ∃ time data, s.agenda.Holds time (.delivery id top data) ∧ time ≤ deadline ∧
      w ≤ time + Duration.ofMillis 300

/-- What is known about a simulation apart from its nodes. -/
structure Settled (top : NodeId) (place : Vec3) (s : Simulation) : Prop where
  channel : s.channel.IsClear
  orderly : s.agenda.Orderly
  ahead : ∀ p ∈ s.agenda.appointments, s.now ≤ p.time
  staying : ∀ time id, ¬ s.agenda.Holds time (.departure id)
  close : s.directory.Close top place
  present : ∀ id n, s.nodes.get? id = some n → s.isActive id
  packets : ∀ time receiver sender data, s.agenda.Holds time (.delivery receiver sender data) →
    sender ≠ receiver ∧ .ofMillis 1001 ≤ time ∧
      ∃ m, data = encode (Packet.single m) ∧ m.Loyal top place sender time

/-- A simulation in which `top` transmits by the time `w`, and all other nodes follow it. -/
structure Calm (top : NodeId) (place : Vec3) (w : Timestamp) (s : Simulation) : Prop where
  settled : s.Settled top place
  leader : ∃ b, s.Seat top b ∧ b.Proper top ∧ b.Reigns top w
  followers : ∀ id n, s.nodes.get? id = some n → id ≠ top → ∃ b, s.Seat id b ∧ b.Proper id ∧
    b.node.Follows top b.now ∧ s.OnTime top w id (b.node.registry.deadline top)

/-- An appointment is taken out of the agenda, and the clock is set to its time. -/
structure Draws (limit : Timestamp) (p : Appointment) (s s₁ : Simulation) : Prop where
  pop : s.agenda.popDue limit = (some p, s₁.agenda)
  now : s₁.now = p.time
  nodes : s₁.nodes = s.nodes
  directory : s₁.directory = s.directory
  channel : s₁.channel = s.channel

variable {top id : NodeId} {place : Vec3} {w w' limit deadline : Timestamp} {p : Appointment}
  {s s₁ s' : Simulation} {n : Node} {v : Visit} {b b' : Bench}

/-- A proper node stays one in a visit in which it asks for nothing that is out of order. -/
lemma proper_of_serves (h : b.Proper id) (hs : b.Serves v b')
    (he : ∀ e ∈ (b.node.visit v).outbox.effects, e.Loyal top place id v.now) : b'.Proper id := by
  refine ⟨h.matched.serves hs, ?_, ?_⟩
  · rw [hs.node]
    exact (moves_visit b.node v).alike.id.trans h.id
  · intro a ha
    obtain ⟨as, hl, has⟩ := hs.alarms
    rw [has] at ha
    rcases Outbox.mem_of_mem_alarms ha with hold | ⟨delay, hm, hd⟩
    · exact h.timely a (hl.mem hold)
    · cases he _ hm with
      | schedule ht =>
        rw [← hd] at ht
        exact ht

namespace Draws

variable {time : Timestamp} {receiver sender : NodeId} {data : List UInt8}

/-- A packet that is on its way stays so, unless it is the one that arrives. -/
lemma holds (hd : s.Draws limit p s₁) (h : s.Settled top place) :
    s.agenda.Holds time (.delivery receiver sender data) ↔
      s₁.agenda.Holds time (.delivery receiver sender data) ∨
        p.time = time ∧ p.event = .delivery receiver sender data := by
  refine (h.orderly.holds_popDue hd.pop fun _ _ _ => Event.noConfusion).trans
    (or_congr_right ?_)
  constructor
  · rintro ⟨q, hq, hrest⟩
    exact Option.some.inj hq ▸ hrest
  · intro hrest
    exact ⟨p, rfl, hrest⟩

lemma le_of_holds (hd : s.Draws limit p s₁) (h : s.Settled top place)
    (hh : s.agenda.Holds time (.delivery receiver sender data)) : p.time ≤ time :=
  h.orderly.le_of_holds hd.pop (fun _ _ _ => Event.noConfusion) hh

lemma le_of_mem (hd : s.Draws limit p s₁) (h : s.Settled top place) (hs : s.Seat id b) {a : Alarm}
    (ha : a ∈ b.alarms) : p.time ≤ a.due :=
  h.orderly.le_of_awaits hd.pop ((hs.alarms a).1 ha)

end Draws

namespace Settled

/-- What a visit in which a node asks for nothing out of order puts in, timers apart. -/
lemma posts (h : s.Settled top place) (hd : s.Draws limit p s₁)
    (hv : s₁.Called id n v (s₁.call id v.call))
    (he : ∀ e ∈ (n.visit v).outbox.effects, e.Loyal top place id v.now) :
    (s₁.call id v.call).channel = s₁.channel ∧
      ∀ time event, (∀ node handle timer, event ≠ .timer node handle timer) →
        ((s₁.call id v.call).agenda.Holds time event ↔ s₁.agenda.Holds time event ∨
          time = s₁.now + Duration.ofMillis 1 ∧ ∃ packet receiver,
            .broadcast packet ∈ (n.visit v).outbox.effects ∧ receiver ≠ id ∧
              s₁.isActive receiver ∧ event = .delivery receiver id (encode packet)) := by
  refine hv.posts (hd.channel ▸ h.channel) ?_
  intro peer packet hm
  cases he _ hm

lemma visit (h : s.Settled top place) (hd : s.Draws limit p s₁)
    (hv : s₁.Called id n v (s₁.call id v.call))
    (he : ∀ e ∈ (n.visit v).outbox.effects, e.Loyal top place id v.now)
    (ho : (s₁.call id v.call).agenda.Orderly) : (s₁.call id v.call).Settled top place := by
  obtain ⟨hchannel, hholds⟩ := h.posts hd hv he
  have hdirectory : (s₁.call id v.call).directory = s.directory := hv.directory.trans hd.directory
  have hnodelivery {event : Event} (hne : ∀ node handle timer, event ≠ .timer node handle timer)
      {time : Timestamp} (hh : s₁.agenda.Holds time event) : s.agenda.Holds time event :=
    (h.orderly.holds_popDue hd.pop hne).2 (.inl hh)
  constructor
  · rw [hchannel, hd.channel]
    exact h.channel
  · exact ho
  · intro q hq
    rw [hv.now]
    rcases hv.grows.mem hq with hq | ⟨e, -, hb⟩
    · rw [hd.now]
      exact h.orderly.le_of_popDue hd.pop hq
    · cases hb with
      | timer | broadcast | send => exact Timestamp.le_add _ _
  · intro time id' hh
    rcases (hholds time _ fun _ _ _ => Event.noConfusion).1 hh with hh | ⟨-, _, _, -, -, -, hev⟩
    · exact h.staying time id' (hnodelivery (fun _ _ _ => Event.noConfusion) hh)
    · cases hev
  · rw [hdirectory]
    exact h.close
  · intro id' n' hn'
    have hactive : s.isActive id' := by
      by_cases hid : id' = id
      · rw [hid]
        exact h.present id n (hd.nodes ▸ hv.node)
      · rw [hv.nodes, Table.get?_insert_of_ne _ _ hid, hd.nodes] at hn'
        exact h.present id' n' hn'
    rw [isActive, hdirectory]
    exact h.close.stays id' _ _ hactive
  · intro time receiver sender data hh
    rcases (hholds time _ fun _ _ _ => Event.noConfusion).1 hh with
      hh | ⟨rfl, packet, receiver', hm, hne, -, hev⟩
    · exact h.packets time receiver sender data (hnodelivery (fun _ _ _ => Event.noConfusion) hh)
    · obtain ⟨rfl, rfl, rfl⟩ := Event.delivery.inj hev
      cases he _ hm with
      | broadcast hn hl =>
        rw [hv.visit_now] at hn hl
        refine ⟨hne.symm, ?_, _, rfl, hl⟩
        exact Timestamp.le_trans (by decide) (Timestamp.add_le_add hn _)

end Settled

/-! ### Visits -/

/-- A node is visited for the appointment that is taken out, and its bench serves it. -/
structure Attends (top : NodeId) (place : Vec3) (limit : Timestamp) (p : Appointment)
    (s s₁ : Simulation) (id : NodeId) (n : Node) (v : Visit) : Prop where
  draws : s.Draws limit p s₁
  called : s₁.Called id n v (s₁.call id v.call)
  loyal : v.call.Loyal top place id v.now
  receiver : ∀ receiver sender data, p.event = .delivery receiver sender data →
    receiver = id ∧ ∃ packet, v.call = .packet sender packet
  seats : ∀ b, s.Seat id b → b.Matches → (s₁.call id v.call).agenda.Orderly ∧
    (∃ b', b.Serves v b' ∧ (s₁.call id v.call).Seat id b') ∧
    ∀ id' b', id' ≠ id → s.Seat id' b' → (s₁.call id v.call).Seat id' b'

namespace Attends

variable {id' : NodeId}

lemma now (h : s.Attends top place limit p s₁ id n v) : v.now = p.time :=
  h.called.visit_now.trans h.draws.now

lemma node (h : s.Attends top place limit p s₁ id n v) (hs : s.Seat id b) : b.node = n := by
  have hn := h.called.node
  rw [h.draws.nodes] at hn
  exact Option.some.inj (hs.node.symm.trans hn)

lemma get?_of_ne (h : s.Attends top place limit p s₁ id n v) (hne : id' ≠ id) :
    (s₁.call id v.call).nodes.get? id' = s.nodes.get? id' := by
  rw [h.called.nodes, Table.get?_insert_of_ne _ _ hne, h.draws.nodes]

lemma place_of_top (h : s.Attends top place limit p s₁ top n v) (hs : s.Settled top place) :
    v.position = place := by
  have hp := h.called.position
  rw [h.draws.directory] at hp
  exact hs.close.home _ _ hp

lemma near (h : s.Attends top place limit p s₁ id n v) (hs : s.Settled top place)
    (hne : id ≠ top) : v.position.ground.dist place.ground < Settings.standard.range := by
  have hp := h.called.position
  rw [h.draws.directory] at hp
  exact hs.close.near id _ _ hne hp

/-- Packets to other nodes stay on their way. -/
lemma kept (h : s.Attends top place limit p s₁ id n v) (hs : s.Settled top place)
    (he : ∀ e ∈ (n.visit v).outbox.effects, e.Loyal top place id v.now) {time : Timestamp}
    {sender : NodeId} {data : List UInt8}
    (hh : s.agenda.Holds time (.delivery id' sender data))
    (hne : ¬ (p.time = time ∧ p.event = .delivery id' sender data)) :
    (s₁.call id v.call).agenda.Holds time (.delivery id' sender data) := by
  have hold := ((h.draws.holds hs).1 hh).resolve_right hne
  exact ((hs.posts h.draws h.called he).2 _ _ fun _ _ _ => Event.noConfusion).2 (.inl hold)

/-- The other nodes are on time as before. -/
lemma onTime (h : s.Attends top place limit p s₁ id n v) (hs : s.Settled top place)
    (he : ∀ e ∈ (n.visit v).outbox.effects, e.Loyal top place id v.now) (hne : id' ≠ id)
    (hon : s.OnTime top w id' deadline) : (s₁.call id v.call).OnTime top w id' deadline := by
  rcases hon with hon | ⟨time, data, hh, hrest⟩
  · exact .inl hon
  · refine .inr ⟨time, data, h.kept hs he hh ?_, hrest⟩
    rintro ⟨-, hev⟩
    exact hne (h.receiver _ _ _ hev).1

/-- When `top` transmits the others hear of it in time. -/
lemma onTime_of_broadcast (h : s.Attends top place limit p s₁ top n v) (hs : s.Settled top place)
    (he : ∀ e ∈ (n.visit v).outbox.effects, e.Loyal top place top v.now)
    (hb : ∃ packet, .broadcast packet ∈ (n.visit v).outbox.effects) (hw : p.time ≤ w)
    (hne : id' ≠ top) (ha : s.isActive id') (hon : s.OnTime top w id' deadline) :
    (s₁.call top v.call).OnTime top (v.now + Duration.ofMillis 300) id' deadline := by
  right
  rcases hon with hon | ⟨time, data, hh, hle, -⟩
  · obtain ⟨packet, hm⟩ := hb
    have hactive : s₁.isActive id' := by
      rw [isActive, h.draws.directory]
      exact hs.close.stays id' _ _ ha
    refine ⟨v.now + Duration.ofMillis 1, encode packet, ?_, ?_, ?_⟩
    · refine ((hs.posts h.draws h.called he).2 _ _ fun _ _ _ => Event.noConfusion).2 (.inr ?_)
      exact ⟨by rw [h.called.visit_now], packet, id', hm, hne, hactive, rfl⟩
    · rw [h.now]
      exact Timestamp.le_trans (Timestamp.add_le_add hw _) hon
    · exact Timestamp.add_le_add (Timestamp.le_add _ _) _
  · refine ⟨time, data, h.kept hs he hh ?_, hle, ?_⟩
    · rintro ⟨-, hev⟩
      exact hne (h.receiver _ _ _ hev).1
    · rw [h.now]
      exact Timestamp.add_le_add (h.draws.le_of_holds hs hh) _

end Attends

namespace Calm

/-- Nothing that takes place is later than the next transmission. -/
lemma le (h : s.Calm top place w) (hd : s.Draws limit p s₁) : p.time ≤ w := by
  obtain ⟨b, hs, -, hr⟩ := h.leader
  exact hr.le fun a ha => hd.le_of_mem h.settled hs ha

lemma le_deadline (h : s.Calm top place w) (hd : s.Draws limit p s₁)
    (hon : s.OnTime top w id deadline) : p.time ≤ deadline := by
  rcases hon with hon | ⟨time, data, hh, hle, -⟩
  · exact Timestamp.le_trans (h.le hd) (Timestamp.le_trans (Timestamp.le_add _ _) hon)
  · exact Timestamp.le_trans (hd.le_of_holds h.settled hh) hle

lemma visit_leader (h : s.Calm top place w) (ha : s.Attends top place limit p s₁ top n v) :
    ∃ w', (s₁.call top v.call).Calm top place w' := by
  obtain ⟨b, hseat, hproper, hreigns⟩ := h.leader
  obtain ⟨horderly, ⟨b', hserves, hseat'⟩, hothers⟩ := ha.seats b hseat hproper.matched
  have hnode := ha.node hseat
  have hvisit := hreigns.visit hproper.matched hserves (ha.place_of_top h.settled) ha.loyal
    fun a hm => ha.now ▸ ha.draws.le_of_mem h.settled hseat hm
  have he := hvisit.effects
  have hproper' := proper_of_serves hproper hserves he
  rw [hnode] at he
  have hsettled := h.settled.visit ha.draws ha.called he horderly
  have hfollowers {w' : Timestamp} (hon : ∀ id deadline, id ≠ top → s.isActive id →
      s.OnTime top w id deadline → (s₁.call top v.call).OnTime top w' id deadline) :
      ∀ id n, (s₁.call top v.call).nodes.get? id = some n → id ≠ top →
        ∃ b, (s₁.call top v.call).Seat id b ∧ b.Proper id ∧ b.node.Follows top b.now ∧
          (s₁.call top v.call).OnTime top w' id (b.node.registry.deadline top) := by
    intro id n hn hne
    rw [ha.get?_of_ne hne] at hn
    obtain ⟨b, hs, hp, hf, ho⟩ := h.followers id n hn hne
    exact ⟨b, hothers id b hne hs, hp, hf, hon id _ hne (h.settled.present id n hn) ho⟩
  rcases hvisit.reigns with hr | ⟨hr, hb⟩
  · refine ⟨w, hsettled, ⟨b', hseat', hproper', hr⟩, hfollowers ?_⟩
    intro id deadline hne _ ho
    exact ha.onTime h.settled he hne ho
  · rw [hnode] at hb
    refine ⟨_, hsettled, ⟨b', hseat', hproper', hr⟩, hfollowers ?_⟩
    intro id deadline hne hactive ho
    exact ha.onTime_of_broadcast h.settled he hb (h.le ha.draws) hne hactive ho

lemma visit_follower (h : s.Calm top place w) (ha : s.Attends top place limit p s₁ id n v)
    (hne : id ≠ top) : (s₁.call id v.call).Calm top place w := by
  have hn := ha.called.node
  rw [ha.draws.nodes] at hn
  obtain ⟨b, hseat, hproper, hfollows, hon⟩ := h.followers id n hn hne
  obtain ⟨horderly, ⟨b', hserves, hseat'⟩, hothers⟩ := ha.seats b hseat hproper.matched
  have hnode := ha.node hseat
  have hdue : v.now ≤ b.node.registry.deadline top := ha.now ▸ h.le_deadline ha.draws hon
  have hloyal : v.call.Loyal top place b.node.record.id v.now := hproper.id.symm ▸ ha.loyal
  obtain ⟨hfollows', he, hlater, hheard⟩ := (hfollows.later hserves.clock).visit hdue
    (ha.near h.settled hne) hloyal
  rw [hproper.id] at he
  have hproper' := proper_of_serves hproper hserves he
  rw [hnode] at he
  rw [← hserves.node] at hfollows' hlater hheard
  refine ⟨h.settled.visit ha.draws ha.called he horderly, ?_, ?_⟩
  · obtain ⟨b₀, hs, hp, hr⟩ := h.leader
    exact ⟨b₀, hothers top b₀ hne.symm hs, hp, hr⟩
  · intro id' n' hn' hne'
    by_cases hid : id' = id
    · subst hid
      refine ⟨b', hseat', hproper', hserves.now.symm ▸ hfollows', ?_⟩
      rcases hon with hon | ⟨time, data, hh, hle, hw⟩
      · exact .inl (Timestamp.le_trans hon hlater)
      · by_cases hpop : p.time = time ∧ p.event = .delivery id' top data
        · -- the packet has arrived
          obtain ⟨rfl, hev⟩ := hpop
          obtain ⟨-, packet, hcall⟩ := ha.receiver _ _ _ hev
          have hnext := hheard packet hcall
          rw [ha.now] at hnext
          exact .inl (Timestamp.le_trans (Timestamp.add_add_le hw) hnext)
        · exact .inr ⟨time, data, ha.kept h.settled he hh hpop, Timestamp.le_trans hle hlater, hw⟩
    · rw [ha.get?_of_ne hid] at hn'
      obtain ⟨b₀, hs, hp, hf, ho⟩ := h.followers id' n' hn' hne'
      exact ⟨b₀, hothers id' b₀ hid hs, hp, hf, ha.onTime h.settled he hid ho⟩

end Calm

/-! ### Steps -/

namespace Draws

/-- The next event is taken out of the agenda. -/
lemma of_popDue (h : s.Settled top place) {g : Agenda}
    (hp : s.agenda.popDue limit = (some p, g)) :
    s.Draws limit p (advance { s with agenda := g } p.time) := by
  have hm : p ∈ s.agenda.appointments :=
    (h.orderly.takes_popDue hp).kept.subset List.mem_cons_self
  have hle := h.ahead p hm
  simp only [advance]
  split
  · exact ⟨hp, rfl, rfl, rfl, rfl⟩
  · rename_i hge
    exact ⟨hp, Timestamp.le_antisymm hle (Timestamp.not_lt.1 hge), rfl, rfl, rfl⟩

lemma mem (hd : s.Draws limit p s₁) (h : s.Settled top place) : p ∈ s.agenda.appointments :=
  (h.orderly.takes_popDue hd.pop).kept.subset List.mem_cons_self

lemma seat (hd : s.Draws limit p s₁) (h : s.Settled top place) (hs : s.Seat id b)
    (hne : ∀ handle timer, p.event ≠ .timer id handle timer) : s₁.Seat id b := by
  have hpop := hs.pop h.orderly hd.pop
    fun q handle timer hq => Option.some.inj hq ▸ hne handle timer
  refine ⟨?_, ?_, hpop.handles, hpop.alarms⟩
  · rw [hd.nodes]
    exact hs.node
  · rw [hd.now]
    exact Timestamp.le_trans hs.clock (h.ahead p (hd.mem h))

lemma settled (hd : s.Draws limit p s₁) (h : s.Settled top place) : s₁.Settled top place := by
  constructor
  · rw [hd.channel]
    exact h.channel
  · exact h.orderly.popDue hd.pop
  · intro q hq
    rw [hd.now]
    exact h.orderly.le_of_popDue hd.pop hq
  · intro time id hh
    exact h.staying time id
      ((h.orderly.holds_popDue hd.pop fun _ _ _ => Event.noConfusion).2 (.inl hh))
  · rw [hd.directory]
    exact h.close
  · intro id n hn
    rw [hd.nodes] at hn
    rw [isActive, hd.directory]
    exact h.close.stays id _ _ (h.present id n hn)
  · intro time receiver sender data hh
    exact h.packets time receiver sender data ((hd.holds h).2 (.inl hh))

end Draws

namespace Calm

lemma seat (h : s.Calm top place w) (hn : s.nodes.get? id = some n) :
    ∃ b, s.Seat id b ∧ b.Proper id := by
  by_cases hid : id = top
  · obtain ⟨b, hs, hp, -⟩ := h.leader
    exact ⟨b, hid ▸ hs, hid ▸ hp⟩
  · obtain ⟨b, hs, hp, -⟩ := h.followers id n hn hid
    exact ⟨b, hs, hp⟩

/-- An event that is about no node passes. -/
lemma draws (h : s.Calm top place w) (hd : s.Draws limit p s₁)
    (hgone : ∀ id n, s.nodes.get? id = some n →
      (∀ handle timer, p.event ≠ .timer id handle timer) ∧
        ∀ sender data, p.event ≠ .delivery id sender data) : s₁.Calm top place w := by
  refine ⟨hd.settled h.settled, ?_, ?_⟩
  · obtain ⟨b, hs, hp, hr⟩ := h.leader
    exact ⟨b, hd.seat h.settled hs (hgone top _ hs.node).1, hp, hr⟩
  · intro id n hn hne
    rw [hd.nodes] at hn
    obtain ⟨htimer, hdelivery⟩ := hgone id n hn
    obtain ⟨b, hs, hp, hf, ho⟩ := h.followers id n hn hne
    refine ⟨b, hd.seat h.settled hs htimer, hp, hf, ?_⟩
    rcases ho with ho | ⟨time, data, hh, hrest⟩
    · exact .inl ho
    · refine .inr ⟨time, data, ((hd.holds h.settled).1 hh).resolve_right ?_, hrest⟩
      rintro ⟨-, hev⟩
      exact hdelivery _ _ hev

/-- So does one that is about a node that is not there. -/
lemma draws_of_none (h : s.Calm top place w) (hd : s.Draws limit p s₁)
    (hn : s.nodes.get? id = none)
    (he : (∃ handle timer, p.event = .timer id handle timer) ∨
      ∃ sender data, p.event = .delivery id sender data) : s₁.Calm top place w := by
  refine h.draws hd fun id' n hn' => ?_
  have hne : id ≠ id' := by
    rintro rfl
    rw [hn] at hn'
    cases hn'
  rcases he with ⟨handle, timer, he⟩ | ⟨sender, data, he⟩
  · rw [he]
    exact ⟨fun _ _ he' => hne (Event.timer.inj he').1, fun _ _ => Event.noConfusion⟩
  · rw [he]
    exact ⟨fun _ _ => Event.noConfusion, fun _ _ he' => hne (Event.delivery.inj he').1⟩

/-- Neither the timeline nor the tally matters. -/
lemma of_eq (h : s.Calm top place w) (hn : s'.now = s.now) (hns : s'.nodes = s.nodes)
    (hd : s'.directory = s.directory) (ha : s'.agenda = s.agenda) (hc : s'.channel = s.channel) :
    s'.Calm top place w := by
  have seat {id : NodeId} {b : Bench} (hs : s.Seat id b) : s'.Seat id b :=
    ⟨hns.symm ▸ hs.node, hn.symm ▸ hs.clock, ha.symm ▸ hs.handles, ha.symm ▸ hs.alarms⟩
  obtain ⟨hchannel, horderly, hahead, hstaying, hclose, hpresent, hpackets⟩ := h.settled
  refine ⟨⟨hc.symm ▸ hchannel, ha.symm ▸ horderly, ?_, ha.symm ▸ hstaying, hd.symm ▸ hclose, ?_,
    ha.symm ▸ hpackets⟩, ?_, ?_⟩
  · rw [ha, hn]
    exact hahead
  · intro id n hget
    rw [hns] at hget
    rw [isActive, hd, hn]
    exact hpresent id n hget
  · obtain ⟨b, hs, hrest⟩ := h.leader
    exact ⟨b, seat hs, hrest⟩
  · intro id n hget hne
    rw [hns] at hget
    obtain ⟨b, hs, hp, hf, ho⟩ := h.followers id n hget hne
    refine ⟨b, seat hs, hp, hf, ?_⟩
    rw [OnTime, ha]
    exact ho

lemma visit (h : s.Calm top place w) (ha : s.Attends top place limit p s₁ id n v) :
    ∃ w', (s₁.call id v.call).Calm top place w' := by
  by_cases hid : id = top
  · subst hid
    exact h.visit_leader ha
  · exact ⟨w, h.visit_follower ha hid⟩

/-- The clock may be set to a time by which nothing is due. -/
lemma advance (h : s.Calm top place w) (hl : ∀ p ∈ s.agenda.appointments, limit < p.time) :
    (s.advance limit).Calm top place w := by
  obtain ⟨hchannel, horderly, hahead, hstaying, hclose, hpresent, hpackets⟩ := h.settled
  have hagenda := agenda_advance s limit
  have hnodes := nodes_advance s limit
  have hdirectory : (s.advance limit).directory = s.directory := by
    simp only [Simulation.advance]
    split <;> rfl
  have hch : (s.advance limit).channel = s.channel := by
    simp only [Simulation.advance]
    split <;> rfl
  refine ⟨⟨hch ▸ hchannel, hagenda ▸ horderly, ?_, hagenda ▸ hstaying, hdirectory ▸ hclose, ?_,
    hagenda ▸ hpackets⟩, ?_, ?_⟩
  · intro p hp
    rw [hagenda] at hp
    simp only [Simulation.advance]
    split
    · exact Timestamp.le_of_lt (hl p hp)
    · exact hahead p hp
  · intro id n hn
    rw [hnodes] at hn
    rw [isActive, hdirectory]
    exact hclose.stays id _ _ (hpresent id n hn)
  · obtain ⟨b, hs, hrest⟩ := h.leader
    exact ⟨b, hs.advance limit, hrest⟩
  · intro id n hn hne
    rw [hnodes] at hn
    obtain ⟨b, hs, hp, hf, ho⟩ := h.followers id n hn hne
    refine ⟨b, hs.advance limit, hp, hf, ?_⟩
    rw [OnTime, hagenda]
    exact ho

/-- Cancelled timers may be passed over. -/
lemma skip (h : s.Calm top place w) {g : Agenda} (hp : s.agenda.popDue limit = (none, g)) :
    Calm top place w { s with agenda := g } := by
  obtain ⟨hchannel, horderly, hahead, hstaying, hclose, hpresent, hpackets⟩ := h.settled
  have hholds {time : Timestamp} {event : Event}
      (he : ∀ node handle timer, event ≠ .timer node handle timer) :
      s.agenda.Holds time event ↔ g.Holds time event := by
    refine (horderly.holds_popDue hp he).trans (or_iff_left ?_)
    rintro ⟨p, hnone, -⟩
    cases hnone
  have hseat {id : NodeId} {b : Bench} (hs : s.Seat id b) : Seat { s with agenda := g } id b :=
    hs.pop horderly hp fun p _ _ hnone => by cases hnone
  refine ⟨⟨hchannel, horderly.popDue hp, ?_, ?_, hclose, hpresent, ?_⟩, ?_, ?_⟩
  · intro p hm
    exact hahead p ((horderly.takes_popDue hp).kept.subset hm)
  · intro time id hh
    exact hstaying time id ((hholds fun _ _ _ => Event.noConfusion).2 hh)
  · intro time receiver sender data hh
    exact hpackets time receiver sender data ((hholds fun _ _ _ => Event.noConfusion).2 hh)
  · obtain ⟨b, hs, hrest⟩ := h.leader
    exact ⟨b, hseat hs, hrest⟩
  · intro id n hn hne
    obtain ⟨b, hs, hpr, hf, ho⟩ := h.followers id n hn hne
    refine ⟨b, hseat hs, hpr, hf, ho.imp_right ?_⟩
    rintro ⟨time, data, hh, hrest⟩
    exact ⟨time, data, (hholds fun _ _ _ => Event.noConfusion).1 hh, hrest⟩

/-! #### Events -/

/-- A node that is not there is not called. -/
lemma call_of_none (hn : s.nodes.get? id = none) (c : Call) : s.call id c = s := by
  rcases s.called id c with h | ⟨n, v, -, h⟩
  · exact h
  · have hget := h.node
    rw [hn] at hget
    cases hget

lemma ring (h : s.Calm top place w) {g : Agenda} {handle : TimerHandle} {timer : Timer}
    (hp : s.agenda.popDue limit = (some p, g)) (he : p.event = .timer id handle timer) :
    ∃ w', ((Simulation.advance { s with agenda := g } p.time).call id (.timer timer)).Calm
      top place w' := by
  have hd : s.Draws limit p (Simulation.advance { s with agenda := g } p.time) :=
    .of_popDue h.settled hp
  have hnodes := congrArg (·.get? id) hd.nodes
  cases hn : s.nodes.get? id with
  | none =>
    refine ⟨w, ?_⟩
    rw [call_of_none (hnodes.trans hn)]
    exact h.draws_of_none hd hn (.inl ⟨_, _, he⟩)
  | some n =>
    obtain ⟨position, hposition⟩ := Option.isSome_iff_exists.1
      ((hd.settled h.settled).present id n (hnodes.trans hn))
    have hcalled := called_of_resolve (.timer timer) hposition (hnodes.trans hn)
    refine h.visit (n := n) (v := ⟨_, position, _, .timer timer⟩)
      ⟨hd, hcalled, ?_, ?_, ?_⟩
    · obtain ⟨b, hseat, hproper⟩ := h.seat hn
      have ha : ⟨p.time, handle, timer⟩ ∈ b.alarms :=
        (hseat.alarms _).2 (h.settled.orderly.awaits_of_popDue hp he rfl)
      refine .timer handle ?_
      rw [hd.now]
      exact hproper.timely _ ha
    · intro receiver sender data he'
      cases he.symm.trans he'
    · intro b hseat hm
      exact hcalled.ring h.settled.orderly hp he rfl hseat hm

lemma deliver (h : s.Calm top place w) {receiver sender : NodeId} {data : List UInt8}
    (hd : s.Draws limit p s₁) (he : p.event = .delivery receiver sender data) :
    ∃ w', (s₁.deliver receiver sender data).Calm top place w' := by
  obtain ⟨hne, hn, m, rfl, hm⟩ := h.settled.packets p.time receiver sender data
    ⟨p, hd.mem h.settled, rfl, he⟩
  have hdecode : Packet.decode? (encode (Packet.single m)) = .ok (Packet.single m) := by
    apply Packet.decode?_encode
    refine ⟨show 1 < UInt64.size by decide, ?_⟩
    intro m' hm'
    rw [List.mem_singleton.1 hm']
    cases hm with
    | info | candidacy => trivial
  have hgone (hn : s.nodes.get? receiver = none) : s₁.Calm top place w :=
    h.draws_of_none hd hn (.inr ⟨_, _, he⟩)
  simp only [Simulation.deliver, hdecode]
  split
  · let s₂ : Simulation := (s₁.count fun t => { t with deliveries := t.deliveries + 1 }).record
      (.delivered sender receiver (Packet.single m).kinds s₁.now)
    have hd₂ : s.Draws limit p s₂ := ⟨hd.pop, hd.now, hd.nodes, hd.directory, hd.channel⟩
    show ∃ w', (s₂.call receiver (.packet sender (Packet.single m))).Calm top place w'
    cases hn' : s.nodes.get? receiver with
    | none =>
      refine ⟨w, ?_⟩
      rw [call_of_none (hd.nodes ▸ hn')]
      exact (hgone hn').of_eq rfl rfl rfl rfl rfl
    | some n =>
      obtain ⟨position, hposition⟩ := Option.isSome_iff_exists.1
        ((hd₂.settled h.settled).present receiver n (hd.nodes ▸ hn'))
      have hcalled := called_of_resolve (.packet sender (Packet.single m)) hposition
        (hd₂.nodes ▸ hn')
      have htimer (id : NodeId) (handle : TimerHandle) (timer : Timer) :
          p.event ≠ .timer id handle timer := by
        rw [he]
        exact Event.noConfusion
      refine h.visit (n := n) (v := ⟨_, position, _, .packet sender (Packet.single m)⟩)
        ⟨hd₂, hcalled, ?_, ?_, ?_⟩
      · refine .packet hne ?_ ?_
        · rw [hd₂.now]
          exact hn
        · rw [hd₂.now]
          exact hm
      · intro receiver' sender' data' he'
        obtain ⟨rfl, rfl, -⟩ := Event.delivery.inj (he.symm.trans he')
        exact ⟨rfl, _, rfl⟩
      · intro b hseat hmatched
        obtain ⟨ho, hself, hothers⟩ := hcalled.call (hd₂.settled h.settled).orderly
          (hd₂.seat h.settled hseat (htimer receiver)) hmatched fun _ => Call.noConfusion
        exact ⟨ho, hself, fun id' b' hid hs =>
          hothers id' b' hid (hd₂.seat h.settled hs (htimer id'))⟩
  · rename_i hinactive
    refine ⟨w, (hgone ?_).of_eq rfl rfl rfl rfl rfl⟩
    cases hn' : s.nodes.get? receiver with
    | none => rfl
    | some n => exact absurd ((hd.settled h.settled).present receiver n (hd.nodes ▸ hn')) hinactive

/-- Whatever takes place, the other nodes keep following. -/
lemma step (h : s.Calm top place w) (limit : Timestamp) :
    (∃ w', (s.step limit).1.Calm top place w') ∧
      ((s.step limit).2 = false → ((s.step limit).1.advance limit).Calm top place w) := by
  cases hp : s.agenda.popDue limit with
  | mk found g =>
  cases found with
  | none =>
    have hskip := h.skip hp
    have hstep : s.step limit = ({ s with agenda := g }, false) := by
      simp only [Simulation.step, hp]
    rw [hstep]
    exact ⟨⟨w, hskip⟩, fun _ => hskip.advance fun p hm => h.settled.orderly.lt_of_popDue hp hm⟩
  | some p =>
    have hd : s.Draws limit p (Simulation.advance { s with agenda := g } p.time) :=
      .of_popDue h.settled hp
    have hstep : s.step limit = (((Simulation.advance { s with agenda := g } p.time).process
        p.event).count fun t => { t with events := t.events + 1 }, true) := by
      simp only [Simulation.step, hp]
    have hprocess : ∃ w', ((Simulation.advance { s with agenda := g } p.time).process
        p.event).Calm top place w' := by
      cases he : p.event with
      | timer id handle timer => exact h.ring hp he
      | delivery receiver sender data => exact h.deliver hd he
      | departure id =>
        exact absurd ⟨p, hd.mem h.settled, rfl, he⟩ (h.settled.staying p.time id)
    obtain ⟨w', hcalm⟩ := hprocess
    rw [hstep]
    exact ⟨⟨w', hcalm.of_eq rfl rfl rfl rfl rfl⟩, fun hf => by cases hf⟩

end Calm

end Simulation

end ClusterWave
