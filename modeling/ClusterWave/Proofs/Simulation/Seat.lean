import ClusterWave.Proofs.Bench.Match
import ClusterWave.Proofs.Simulation.Basic
import Mathlib.Data.List.Nodup

/-!
# Nodes of a simulation at their benches

A simulation serves each of its nodes as a bench does. Every handle is given out once, and a node
cancels only timers of its own that are pending. So the timers of a node that the agenda holds are
the alarms at a bench, whatever the other nodes do.
-/

namespace ClusterWave

namespace Agenda

/-- Whether a timer of a node is in the agenda and has not been cancelled. -/
def Awaits (g : Agenda) (id : NodeId) (a : Alarm) : Prop :=
  a.handle ∉ g.cancelled ∧
    ∃ p ∈ g.appointments, p.time = a.due ∧ p.event = .timer id a.handle a.timer

/-- Appointments are in order, and every handle was given out once. -/
structure Orderly (g : Agenda) : Prop where
  sorted : g.Sorted
  distinct : (g.appointments.filterMap Appointment.handle?).Nodup
  fresh : ∀ h ∈ g.appointments.filterMap Appointment.handle?, h.val < g.nextHandle
  given : ∀ h ∈ g.cancelled, h.val < g.nextHandle
  once : g.cancelled.Nodup

variable {g g' g'' : Agenda} {id id' : NodeId} {a a' : Alarm} {now : Timestamp} {e : Effect}

lemma orderly_empty : empty.Orderly := by
  constructor
  · exact .nil
  · exact .nil
  · intro h hm
    cases hm
  · intro h hm
    cases hm
  · exact .nil

lemma Awaits.mem_handles (h : g.Awaits id a) :
    a.handle ∈ g.appointments.filterMap Appointment.handle? := by
  obtain ⟨-, p, hp, -, he⟩ := h
  exact List.mem_filterMap.2 ⟨p, hp, by rw [Appointment.handle?, he]⟩

namespace Orderly

lemma eq_of_handle (h : g.Orderly) {p q : Appointment} {handle : TimerHandle}
    (hp : p ∈ g.appointments) (hq : q ∈ g.appointments) (hph : p.handle? = some handle)
    (hqh : q.handle? = some handle) : p = q := by
  have hd := List.pairwise_filterMap.1 h.distinct
  have hsymm : Std.Symm fun p q : Appointment =>
      ∀ b, p.handle? = some b → ∀ b', q.handle? = some b' → b ≠ b' :=
    ⟨fun _ _ hpq b hb b' hb' => (hpq b' hb' b hb).symm⟩
  by_contra hne
  exact hd.forall hp hq hne handle hph handle hqh rfl

/-- A handle tells the node and the timer. -/
lemma awaits_unique (h : g.Orderly) (ha : g.Awaits id a) (ha' : g.Awaits id' a')
    (he : a.handle = a'.handle) : id = id' ∧ a = a' := by
  obtain ⟨-, p, hp, hd, hev⟩ := ha
  obtain ⟨-, p', hp', hd', hev'⟩ := ha'
  have hpp : p = p' := h.eq_of_handle hp hp' (by rw [Appointment.handle?, hev])
    (by rw [Appointment.handle?, hev', he])
  rw [← hpp] at hd' hev'
  obtain ⟨hid, -, ht⟩ := Event.timer.inj (hev.symm.trans hev')
  refine ⟨hid, ?_⟩
  cases a
  cases a'
  rw [Alarm.mk.injEq]
  exact ⟨hd.symm.trans hd', he, ht⟩

lemma lt_of_awaits (h : g.Orderly) (ha : g.Awaits id a) : a.handle.val < g.nextHandle :=
  h.fresh _ ha.mem_handles

end Orderly

/-! ### Timers -/

lemma awaits_scheduleTimer (h : g.Orderly) {delay : Duration} {timer : Timer} :
    (g.scheduleTimer id now delay timer).Awaits id' a ↔
      id' = id ∧ a = ⟨now + delay, ⟨g.nextHandle⟩, timer⟩ ∨ g.Awaits id' a := by
  have hmem (p : Appointment) : p ∈ (g.scheduleTimer id now delay timer).appointments ↔
      p = ⟨now + delay, g.nextSeq, .timer id ⟨g.nextHandle⟩ timer⟩ ∨ p ∈ g.appointments :=
    (Appointment.perm_insert _ _).mem_iff.trans List.mem_cons
  constructor
  · rintro ⟨hc, p, hp, hd, he⟩
    rcases (hmem p).1 hp with rfl | hp
    · obtain ⟨rfl, hh, ht⟩ := Event.timer.inj he
      refine .inl ⟨rfl, ?_⟩
      cases a
      rw [Alarm.mk.injEq]
      exact ⟨hd.symm, hh.symm, ht.symm⟩
    · exact .inr ⟨hc, p, hp, hd, he⟩
  · rintro (⟨rfl, rfl⟩ | ⟨hc, p, hp, hd, he⟩)
    · refine ⟨?_, _, (hmem _).2 (.inl rfl), rfl, rfl⟩
      intro hm
      exact Nat.lt_irrefl _ (h.given _ hm)
    · exact ⟨hc, p, (hmem p).2 (.inr hp), hd, he⟩

lemma Orderly.scheduleTimer (h : g.Orderly) (id : NodeId) (now : Timestamp) (delay : Duration)
    (timer : Timer) : (g.scheduleTimer id now delay timer).Orderly := by
  have hperm : ((g.scheduleTimer id now delay timer).appointments.filterMap
      Appointment.handle?).Perm
      (⟨g.nextHandle⟩ :: g.appointments.filterMap Appointment.handle?) :=
    (Appointment.perm_insert _ _).filterMap _
  constructor
  · exact h.sorted.push (g := { g with nextHandle := g.nextHandle + 1 }) _ _
  · rw [hperm.nodup_iff, List.nodup_cons]
    refine ⟨?_, h.distinct⟩
    intro hm
    exact Nat.lt_irrefl _ (h.fresh _ hm)
  · intro handle hm
    rcases List.mem_cons.1 (hperm.mem_iff.1 hm) with rfl | hm
    · exact Nat.lt_succ_self _
    · exact Nat.lt_succ_of_lt (h.fresh handle hm)
  · intro handle hm
    exact Nat.lt_succ_of_lt (h.given handle hm)
  · exact h.once

lemma awaits_cancel (h : g.Orderly) (handle : TimerHandle) :
    (g.cancel handle).Awaits id a ↔ g.Awaits id a ∧ a.handle ≠ handle := by
  simp only [cancel]
  split
  · constructor
    · rintro ⟨hc, hp⟩
      refine ⟨⟨fun hm => hc (List.mem_insert_of_mem hm), hp⟩, ?_⟩
      rintro rfl
      exact hc List.mem_insert_self
    · rintro ⟨⟨hc, hp⟩, hne⟩
      refine ⟨?_, hp⟩
      intro hm
      rcases List.mem_insert_iff.1 hm with he | hm
      · exact hne he
      · exact hc hm
  · rename_i hge
    constructor
    · intro ha
      refine ⟨ha, ?_⟩
      rintro rfl
      exact hge (h.lt_of_awaits ha)
    · exact And.left

lemma Orderly.cancel (h : g.Orderly) (handle : TimerHandle) : (g.cancel handle).Orderly := by
  simp only [Agenda.cancel]
  split
  · rename_i hlt
    refine ⟨h.sorted, h.distinct, h.fresh, ?_, List.Nodup.insert h.once⟩
    intro handle' hm
    rcases List.mem_insert_iff.1 hm with rfl | hm
    · exact hlt
    · exact h.given handle' hm
  · exact h

/-! ### Effects of a visit -/

/-- The timers of a node are some alarms, and those of all other nodes are the ones in `g₀`. -/
structure Mirrors (id : NodeId) (g g₀ : Agenda) (next : Nat) (as : List Alarm) : Prop where
  orderly : g.Orderly
  nextHandle : g.nextHandle = next
  own : ∀ a, a ∈ as ↔ g.Awaits id a
  others : ∀ id', id' ≠ id → ∀ a, g.Awaits id' a ↔ g₀.Awaits id' a

namespace Mirrors

variable {g₀ : Agenda} {next : Nat} {as : List Alarm}

lemma scheduleTimer (h : g.Mirrors id g₀ next as) (now : Timestamp) (delay : Duration)
    (timer : Timer) : (g.scheduleTimer id now delay timer).Mirrors id g₀ (next + 1)
      (Alarm.insert ⟨now + delay, ⟨next⟩, timer⟩ as) := by
  refine ⟨h.orderly.scheduleTimer _ _ _ _, congrArg (· + 1) h.nextHandle, ?_, ?_⟩
  · intro a
    rw [Alarm.mem_insert, h.own]
    refine Iff.trans ?_ (awaits_scheduleTimer h.orderly).symm
    rw [h.nextHandle]
    simp
  · intro id' hne a
    rw [← h.others id' hne a]
    refine (awaits_scheduleTimer h.orderly).trans ?_
    simp [hne]

/-- The timer that is cancelled is one of this node. -/
lemma cancel (h : g.Mirrors id g₀ next as) {handle : TimerHandle}
    (hm : ∃ a ∈ as, a.handle = handle) :
    (g.cancel handle).Mirrors id g₀ next (as.filter fun a => a.handle != handle) := by
  have hnext : (g.cancel handle).nextHandle = g.nextHandle := by
    simp only [Agenda.cancel]
    split <;> rfl
  refine ⟨h.orderly.cancel handle, hnext.trans h.nextHandle, ?_, ?_⟩
  · intro a
    rw [List.mem_filter, h.own, bne_iff_ne]
    exact (awaits_cancel h.orderly handle).symm
  · intro id' hne a
    rw [← h.others id' hne a]
    refine (awaits_cancel h.orderly handle).trans ?_
    refine and_iff_left_of_imp fun ha he => ?_
    obtain ⟨b, hb, hbh⟩ := hm
    exact hne (h.orderly.awaits_unique ha ((h.own b).1 hb) (he.trans hbh.symm)).1

end Mirrors

/-- What a node asks of its timers is done to the agenda as it is done at a bench, and the timers of
other nodes stay. -/
lemma Orderly.foldl_apply {ok : Effect → Prop} {o : Outbox} {as : List Alarm} (h : g.Orderly)
    (ho : Outbox.Steps ok (Outbox.fresh g.nextHandle) o) (hs : o.Sound now as)
    (ha : ∀ a, a ∈ as ↔ g.Awaits id a) :
    (o.effects.foldl (apply id now) g).Mirrors id g o.nextHandle (o.alarms now as) := by
  induction ho with
  | refl => exact ⟨h, rfl, ha, fun _ _ _ => Iff.rfl⟩
  | @tail o o' _ step ih =>
    have hsound {e : Effect} (he : o'.effects = o.effects ++ [e]) : o.Sound now as := by
      intro before handle after heff
      apply hs before handle (after ++ [e])
      rw [he, heff, List.append_assoc]
      rfl
    have hfold {e : Effect} (he : o'.effects = o.effects ++ [e]) :
        o'.effects.foldl (apply id now) g = apply id now (o.effects.foldl (apply id now) g) e := by
      rw [he, List.foldl_append]
      rfl
    cases step with
    | @schedule delay timer =>
      rw [hfold rfl, Outbox.alarms_schedule]
      exact (ih (hsound rfl)).scheduleTimer now delay timer
    | cancel handle =>
      rw [hfold rfl, Outbox.alarms_cancel]
      exact (ih (hsound rfl)).cancel (hs o.effects handle [] rfl)
    | broadcast =>
      rw [hfold rfl, Outbox.alarms_broadcast]
      exact ih (hsound rfl)
    | send =>
      rw [hfold rfl, Outbox.alarms_send]
      exact ih (hsound rfl)

/-! ### Taking out -/

/-- What it means to take the next appointment out: whatever is passed over has been cancelled, and
its handle is forgotten. -/
structure Takes (cancelled : List TimerHandle) (as : List Appointment)
    (found : Option Appointment) (rest : List Appointment) (cancelled' : List TimerHandle) :
    Prop where
  kept : (found.toList ++ rest).Sublist as
  recalled : cancelled'.Sublist cancelled
  skipped : ∀ p ∈ as, p ∈ found.toList ++ rest ∨ ∃ h ∈ cancelled, p.handle? = some h
  gone : ∀ h ∈ cancelled, h ∈ cancelled' ∨ ∀ p ∈ found.toList ++ rest, p.handle? ≠ some h
  live : ∀ p h, found = some p → p.handle? = some h → h ∉ cancelled

lemma Takes.stop (cancelled : List TimerHandle) (as : List Appointment) :
    Takes cancelled as none as cancelled := by
  constructor
  · exact .refl _
  · exact .refl _
  · intro p hp
    exact .inl hp
  · intro h hm
    exact .inl hm
  · intro p h hf
    cases hf

lemma Takes.find {cancelled : List TimerHandle} {p : Appointment} (as : List Appointment)
    (hl : ∀ h, p.handle? = some h → h ∉ cancelled) :
    Takes cancelled (p :: as) (some p) as cancelled := by
  constructor
  · exact .refl _
  · exact .refl _
  · intro q hq
    exact .inl hq
  · intro h hm
    exact .inl hm
  · rintro _ h ⟨⟩
    exact hl h

lemma Takes.skip {cancelled cancelled' : List TimerHandle} {p : Appointment}
    {as rest : List Appointment} {found : Option Appointment} {h : TimerHandle}
    (hp : p.handle? = some h) (hm : h ∈ cancelled)
    (hn : ∀ q ∈ as, q.handle? ≠ some h) (ht : Takes (cancelled.erase h) as found rest cancelled') :
    Takes cancelled (p :: as) found rest cancelled' := by
  constructor
  · exact ht.kept.cons p
  · exact ht.recalled.trans List.erase_sublist
  · intro q hq
    rcases List.mem_cons.1 hq with rfl | hq
    · exact .inr ⟨h, hm, hp⟩
    · rcases ht.skipped q hq with hq | ⟨h', hm', hq⟩
      · exact .inl hq
      · exact .inr ⟨h', List.mem_of_mem_erase hm', hq⟩
  · intro h' hm'
    by_cases he : h' = h
    · rw [he]
      exact .inr fun q hq => hn q (ht.kept.subset hq)
    · exact ht.gone h' ((List.mem_erase_of_ne he).2 hm')
  · intro q h' hf hq hm'
    have hq' : q ∈ as := ht.kept.subset (by rw [hf]; exact List.mem_cons_self)
    have he : h' ≠ h := fun he => hn q hq' (he ▸ hq)
    exact ht.live q h' hf hq ((List.mem_erase_of_ne he).2 hm')

lemma takes_takeDue {limit : Timestamp} {cancelled cancelled' : List TimerHandle}
    {as rest : List Appointment} {found : Option Appointment}
    (hn : (as.filterMap Appointment.handle?).Nodup)
    (h : takeDue limit cancelled as = (found, rest, cancelled')) :
    Takes cancelled as found rest cancelled' := by
  induction as generalizing cancelled with
  | nil =>
    cases h
    exact .stop _ _
  | cons p as ih =>
    simp only [takeDue] at h
    split at h
    · cases h
      exact .stop _ _
    · split at h
      · rename_i handle hp
        rw [List.filterMap_cons_some hp, List.nodup_cons] at hn
        split at h
        · rename_i hm
          refine .skip hp (List.contains_iff_mem.1 hm) ?_ (ih hn.2 h)
          intro q hq he
          exact hn.1 (List.mem_filterMap.2 ⟨q, hq, he⟩)
        · rename_i hm
          cases h
          refine .find _ ?_
          intro handle' hp'
          rw [hp] at hp'
          rw [← Option.some.inj hp']
          exact fun h => hm (List.contains_iff_mem.2 h)
      · rename_i hp
        cases h
        refine .find _ ?_
        intro handle hp'
        rw [hp] at hp'
        cases hp'

lemma Orderly.takes_popDue (h : g.Orderly) {limit : Timestamp} {found : Option Appointment}
    (hp : g.popDue limit = (found, g')) :
    Takes g.cancelled g.appointments found g'.appointments g'.cancelled := by
  obtain ⟨hf, rfl⟩ := Prod.mk.inj hp
  exact takes_takeDue h.distinct (Prod.ext hf rfl)

lemma Orderly.popDue (h : g.Orderly) {limit : Timestamp} {found : Option Appointment}
    (hp : g.popDue limit = (found, g')) : g'.Orderly := by
  have ht := h.takes_popDue hp
  have hs : g'.appointments.Sublist g.appointments := (List.sublist_append_right _ _).trans ht.kept
  have hn : g'.nextHandle = g.nextHandle := by
    obtain ⟨-, rfl⟩ := Prod.mk.inj hp
    rfl
  constructor
  · exact h.sorted.sublist hs
  · exact h.distinct.sublist (hs.filterMap _)
  · intro handle hm
    rw [hn]
    exact h.fresh handle ((hs.filterMap _).subset hm)
  · intro handle hm
    rw [hn]
    exact h.given handle (ht.recalled.subset hm)
  · exact h.once.sublist ht.recalled

/-- The timers that are awaited after something was taken out. -/
lemma Orderly.awaits_popDue (h : g.Orderly) {limit : Timestamp} {found : Option Appointment}
    (hp : g.popDue limit = (found, g')) :
    g'.Awaits id a ↔
      g.Awaits id a ∧ ∀ p, found = some p → p.event ≠ .timer id a.handle a.timer := by
  have ht := h.takes_popDue hp
  have hs : g'.appointments.Sublist g.appointments := (List.sublist_append_right _ _).trans ht.kept
  constructor
  · rintro ⟨hc, p, hm, hd, he⟩
    have hph : p.handle? = some a.handle := by rw [Appointment.handle?, he]
    refine ⟨⟨?_, p, hs.subset hm, hd, he⟩, ?_⟩
    · intro hold
      rcases ht.gone _ hold with hold | hold
      · exact hc hold
      · exact hold p (List.mem_append_right _ hm) hph
    · rintro q rfl hq
      have hqh : q.handle? = some a.handle := by rw [Appointment.handle?, hq]
      have hd : (q :: g'.appointments).Pairwise _ :=
        (List.pairwise_filterMap.1 h.distinct).sublist ht.kept
      exact (List.pairwise_cons.1 hd).1 p hm _ hqh _ hph rfl
  · rintro ⟨⟨hc, p, hp, hd, he⟩, hne⟩
    refine ⟨fun hm => hc (ht.recalled.subset hm), p, ?_, hd, he⟩
    rcases ht.skipped p hp with hp | ⟨handle, hm, hph⟩
    · rcases List.mem_append.1 hp with hp | hp
      · exact absurd he (hne p (Option.mem_toList.1 hp))
      · exact hp
    · rw [Appointment.handle?, he] at hph
      exact absurd (Option.some.inj hph ▸ hm) hc

/-- A timer that is taken out has been awaited. -/
lemma Orderly.awaits_of_popDue (h : g.Orderly) {limit : Timestamp} {p : Appointment}
    (hp : g.popDue limit = (some p, g')) (he : p.event = .timer id a.handle a.timer)
    (hd : p.time = a.due) : g.Awaits id a := by
  have ht := h.takes_popDue hp
  refine ⟨ht.live p a.handle rfl ?_, p, ht.kept.subset List.mem_cons_self, hd, he⟩
  rw [Appointment.handle?, he]

/-- What is taken out comes before what is left. -/
lemma Orderly.le_of_popDue (h : g.Orderly) {limit : Timestamp} {p q : Appointment}
    (hp : g.popDue limit = (some p, g')) (hq : q ∈ g'.appointments) : p.time ≤ q.time := by
  have ht := h.takes_popDue hp
  exact (List.pairwise_cons.1 (h.sorted.sublist ht.kept)).1 q hq

lemma Orderly.lt_of_popDue (h : g.Orderly) {limit : Timestamp} {p : Appointment}
    (hp : g.popDue limit = (none, g')) (hm : p ∈ g'.appointments) : limit < p.time :=
  h.sorted.lt_of_popDue hp hm

/-! ### Packets -/

namespace Mails

variable {ok : Appointment → Prop}

lemma handles (h : Mails ok g g') : (g'.appointments.filterMap Appointment.handle?).Perm
    (g.appointments.filterMap Appointment.handle?) := by
  obtain ⟨new, hperm, hnew⟩ := h.packets
  have hnil : new.filterMap Appointment.handle? = [] :=
    List.filterMap_eq_nil_iff.2 fun p hp => (hnew p hp).2
  have hf := hperm.filterMap Appointment.handle?
  rwa [List.filterMap_append, hnil] at hf

lemma orderly (h : Mails ok g g') (hg : g.Orderly) : g'.Orderly := by
  constructor
  · exact h.sorted hg.sorted
  · exact h.handles.nodup_iff.2 hg.distinct
  · intro handle hm
    rw [h.nextHandle]
    exact hg.fresh handle (h.handles.mem_iff.1 hm)
  · intro handle hm
    rw [h.nextHandle]
    rw [h.cancelled] at hm
    exact hg.given handle hm
  · rw [h.cancelled]
    exact hg.once

lemma awaits (h : Mails ok g g') : g'.Awaits id a ↔ g.Awaits id a := by
  rw [Awaits, Awaits, h.cancelled]
  refine and_congr_right fun _ => exists_congr fun p => and_congr_left ?_
  rintro ⟨-, he⟩
  constructor
  · intro hp
    refine (h.packets.mem hp).resolve_right ?_
    rintro ⟨-, hnone⟩
    rw [Appointment.handle?, he] at hnone
    cases hnone
  · intro hp
    obtain ⟨new, hperm, -⟩ := h.packets
    exact hperm.mem_iff.2 (List.mem_append_right _ hp)

end Mails

end Agenda

/-! ### Seats -/

namespace Simulation

open Bench (Left)

variable {s s' : Simulation} {id id' : NodeId} {n : Node} {v : Visit} {b : Bench}
  {as : List Alarm}

/-- A node of a simulation with its timers, seen as a bench. -/
structure Seat (s : Simulation) (id : NodeId) (b : Bench) : Prop where
  node : s.nodes.get? id = some b.node
  clock : b.now ≤ s.now
  handles : b.nextHandle ≤ s.agenda.nextHandle
  alarms : ∀ a, a ∈ b.alarms ↔ s.agenda.Awaits id a

/-- A visit of a node is carried out as at a bench, if the agenda holds the alarms that are left
when the visit begins. -/
lemma Called.seats (h : s.Called id b.node v s') (hg : s.agenda.Orderly) (hm : b.Matches)
    (hh : b.nextHandle ≤ s.agenda.nextHandle) (hl : Left v b.alarms as)
    (ha : ∀ a, a ∈ as ↔ s.agenda.Awaits id a) :
    s'.agenda.Orderly ∧ s.agenda.nextHandle ≤ s'.agenda.nextHandle ∧
      (∀ b', b.Serves v b' → b'.alarms = (b.node.visit v).outbox.alarms v.now as →
        s'.Seat id b') ∧
      ∀ id' b', id' ≠ id → s.Seat id' b' → s'.Seat id' b' := by
  have hsound := (hm.visit (h.nextHandle ▸ hh) hl).sound
  have hsteps := b.node.steps_visit v
  rw [(moves_visit b.node v).alike.now, show (Turn.start b.node v.now v.position v.nextHandle).now =
    s.now from h.visit_now] at hsound
  rw [h.nextHandle] at hsteps
  obtain ⟨horder, hnext, hself, hothers⟩ := hg.foldl_apply hsteps hsound ha
  have hle : s.agenda.nextHandle ≤ s'.agenda.nextHandle := by
    rw [h.agenda.nextHandle, hnext]
    exact hsteps.nextHandle_le
  refine ⟨h.agenda.orderly horder, hle, ?_, ?_⟩
  · intro b' hs hb
    constructor
    · rw [h.nodes, Table.get?_insert_self, hs.node]
    · rw [hs.now, h.visit_now, h.now]
      exact Timestamp.le_refl _
    · exact Nat.le_of_eq (hs.nextHandle.trans (h.agenda.nextHandle.trans hnext).symm)
    · intro a
      rw [hb, h.visit_now, hself a]
      exact h.agenda.awaits.symm
  · intro id' b' hne hseat
    constructor
    · rw [h.nodes, Table.get?_insert_of_ne _ _ hne]
      exact hseat.node
    · rw [h.now]
      exact hseat.clock
    · exact Nat.le_trans hseat.handles hle
    · intro a
      rw [hseat.alarms a, ← hothers id' hne a]
      exact h.agenda.awaits.symm

/-- What a call of a node is to the benches, unless it is about a timer. -/
lemma Called.call (h : s.Called id n v s') (hg : s.agenda.Orderly) (hb : s.Seat id b)
    (hm : b.Matches) (hv : ∀ timer, v.call ≠ .timer timer) :
    s'.agenda.Orderly ∧ (∃ b', b.Serves v b' ∧ s'.Seat id b') ∧
      ∀ id' b', id' ≠ id → s.Seat id' b' → s'.Seat id' b' := by
  obtain rfl := Option.some.inj (hb.node.symm.trans h.node)
  obtain ⟨horder, -, hself, hothers⟩ := h.seats hg hm hb.handles (.all hv) hb.alarms
  have hs : b.Serves v ((b.receive v).call v.call) :=
    .call (h.visit_now ▸ hb.clock) (h.nextHandle ▸ hb.handles) hv
  exact ⟨horder, ⟨_, hs, hself _ hs rfl⟩, hothers⟩

namespace Seat

lemma advance (hb : s.Seat id b) (time : Timestamp) : (s.advance time).Seat id b := by
  constructor
  · rw [nodes_advance]
    exact hb.node
  · exact Timestamp.le_trans hb.clock (s.le_now_advance time).1
  · rw [agenda_advance]
    exact hb.handles
  · rw [agenda_advance]
    exact hb.alarms

/-- What is taken out of the agenda and is not a timer of the node leaves the node alone. -/
lemma pop {limit : Timestamp} {found : Option Appointment} {g : Agenda} (hb : s.Seat id b)
    (hg : s.agenda.Orderly) (hp : s.agenda.popDue limit = (found, g))
    (hne : ∀ p handle timer, found = some p → p.event ≠ .timer id handle timer) :
    Seat { s with agenda := g } id b := by
  refine ⟨hb.node, hb.clock, ?_, ?_⟩
  · obtain ⟨-, rfl⟩ := Prod.mk.inj hp
    exact hb.handles
  · intro a
    rw [hb.alarms a]
    refine (and_iff_left ?_).symm.trans (hg.awaits_popDue hp).symm
    intro p hf
    exact hne p _ _ hf

end Seat

/-- What a timer that goes off is to the benches. -/
lemma Called.ring {limit : Timestamp} {p : Appointment} {g : Agenda} {handle : TimerHandle}
    {timer : Timer} (hg : s.agenda.Orderly) (hp : s.agenda.popDue limit = (some p, g))
    (he : p.event = .timer id handle timer)
    (h : Called (advance { s with agenda := g } p.time) id n v s') (hv : v.call = .timer timer)
    (hb : s.Seat id b) (hm : b.Matches) :
    s'.agenda.Orderly ∧ (∃ b', b.Serves v b' ∧ s'.Seat id b') ∧
      ∀ id' b', id' ≠ id → s.Seat id' b' → s'.Seat id' b' := by
  let a : Alarm := ⟨p.time, handle, timer⟩
  have ha : s.agenda.Awaits id a := hg.awaits_of_popDue hp he rfl
  have hmem : a ∈ b.alarms := (hb.alarms a).2 ha
  have hnode := h.node
  rw [nodes_advance] at hnode
  obtain rfl := Option.some.inj (hb.node.symm.trans hnode)
  have hagenda := agenda_advance { s with agenda := g } p.time
  have hnext : g.nextHandle = s.agenda.nextHandle := by
    obtain ⟨-, rfl⟩ := Prod.mk.inj hp
    rfl
  have hleft (x : Alarm) : x ∈ b.alarms.erase a ↔
      (advance { s with agenda := g } p.time).agenda.Awaits id x := by
    rw [hagenda]
    refine Iff.trans ?_ (hg.awaits_popDue hp).symm
    constructor
    · intro hx
      refine ⟨(hb.alarms x).1 (List.mem_of_mem_erase hx), ?_⟩
      rintro q ⟨⟩ hq
      obtain ⟨-, hh, -⟩ := Event.timer.inj (he.symm.trans hq)
      have hxa := hm.keeps.orderly.eq_of_handle (List.mem_of_mem_erase hx) hmem hh.symm
      exact hm.keeps.orderly.not_mem_erase a (hxa ▸ hx)
    · rintro ⟨hx, hne⟩
      refine (List.mem_erase_of_ne ?_).2 ((hb.alarms x).2 hx)
      rintro rfl
      exact hne p rfl he
  have hhandles : b.nextHandle ≤ (advance { s with agenda := g } p.time).agenda.nextHandle := by
    rw [hagenda]
    exact Nat.le_trans hb.handles (Nat.le_of_eq hnext.symm)
  have horder : (advance { s with agenda := g } p.time).agenda.Orderly := by
    rw [hagenda]
    exact hg.popDue hp
  obtain ⟨horder, -, hself, hothers⟩ := h.seats horder hm hhandles (.others hmem hv) hleft
  obtain ⟨hclock, hdue⟩ := le_now_advance { s with agenda := g } p.time
  have hs : b.Serves v _ := .ring (h.visit_now ▸ Timestamp.le_trans hb.clock hclock)
    (h.nextHandle ▸ hhandles) hmem (h.visit_now ▸ hdue) hv
  refine ⟨horder, ⟨_, hs, hself _ hs rfl⟩, ?_⟩
  intro id' b' hne hseat
  refine hothers id' b' hne ((hseat.pop hg hp ?_).advance p.time)
  rintro q handle' timer' ⟨⟩ hq
  exact hne (Event.timer.inj (hq.symm.trans he)).1

end Simulation

end ClusterWave
