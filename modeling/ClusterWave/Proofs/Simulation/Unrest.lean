import ClusterWave.Proofs.Node.PacedVisit
import ClusterWave.Proofs.Simulation.Basic
import Mathlib.Data.Multiset.DershowitzManna
import Mathlib.Tactic.Abel

/-!
# Unrest

Events at one point in time set off further ones at the same time, but only ones of lower levels,
unless a node gets an earlier start or decides. So the levels of what is due, put together with
what may still become of the nodes, decrease in the Dershowitz-Manna order until time goes on. A run
up to a given time therefore takes place in finitely many events.
-/

namespace Multiset.IsDershowitzMannaLT

variable {α : Type} [Preorder α] {M N P : Multiset α}

lemma add_left (P : Multiset α) (h : IsDershowitzMannaLT M N) :
    IsDershowitzMannaLT (P + M) (P + N) := by
  obtain ⟨X, Y, Z, hZ, rfl, rfl, hYZ⟩ := h
  exact ⟨P + X, Y, Z, hZ, (add_assoc _ _ _).symm, (add_assoc _ _ _).symm, hYZ⟩

lemma trans_le (h : IsDershowitzMannaLT M N) (hle : N ≤ P) : IsDershowitzMannaLT M P := by
  obtain ⟨X, Y, Z, hZ, rfl, rfl, hYZ⟩ := h
  obtain ⟨Q, rfl⟩ := Multiset.le_iff_exists_add.1 hle
  refine ⟨X, Y, Z + Q, ?_, rfl, add_assoc _ _ _, ?_⟩
  · intro h0
    exact hZ (add_eq_zero.1 h0).1
  · intro y hy
    obtain ⟨z, hz, hlt⟩ := hYZ y hy
    exact ⟨z, Multiset.mem_add.2 (.inl hz), hlt⟩

/-- One element is replaced by some that are smaller. -/
lemma of_forall_lt (P : Multiset α) {a : α} (h : ∀ y ∈ M, y < a) :
    IsDershowitzMannaLT (P + M) (P + {a}) :=
  ⟨P, M, {a}, Multiset.singleton_ne_zero a, rfl, rfl,
    fun y hy => ⟨a, Multiset.mem_singleton_self a, h y hy⟩⟩

end Multiset.IsDershowitzMannaLT

namespace ClusterWave

open Multiset (IsDershowitzMannaLT)

/-! ### Nodes -/

/-- How much a node may still change at one point in time: it may get an earlier start, which ranks
above all events, and it may decide. -/
def Node.unrest (n : Node) : Multiset Nat :=
  {7 + n.schedule.start.micros.toNat} + if n.isUndecided then {5} else 0

namespace Node

variable {n n' : Node} {b e : Nat}

lemma mem_unrest : e ∈ n.unrest ↔
    e = 7 + n.schedule.start.micros.toNat ∨ n.isUndecided ∧ e = 5 := by
  simp only [unrest, Multiset.mem_add, Multiset.mem_singleton]
  cases n.isUndecided <;> simp

/-- A node that keeps pace gives up more than it asks for. -/
lemma unrest_lt (hs : n'.schedule.start ≤ n.schedule.start)
    (hu : n'.isUndecided → n.isUndecided ∨ 6 ≤ b) {E : Multiset Nat}
    (hE : ∀ e ∈ E, e < n.allowance n' b) :
    IsDershowitzMannaLT (n'.unrest + E) (n.unrest + {b}) := by
  have hb : b ∈ ({b} : Multiset Nat) := Multiset.mem_singleton_self b
  by_cases hlt : n'.schedule.start < n.schedule.start
  · -- the earlier start pays for everything
    have hlt' : n'.schedule.start.micros.toNat < n.schedule.start.micros.toNat := hlt
    have hstart : 7 + n.schedule.start.micros.toNat ∈ n.unrest + {b} :=
      Multiset.mem_add.2 (.inl (mem_unrest.2 (.inl rfl)))
    rw [allowance_of_lt hlt] at hE
    refine ⟨0, n'.unrest + E, n.unrest + {b}, ?_, (zero_add _).symm, (zero_add _).symm, ?_⟩
    · intro h0
      exact Multiset.notMem_zero _ (h0 ▸ hstart)
    · intro y hy
      rcases Multiset.mem_add.1 hy with hy | hy
      · refine ⟨_, hstart, ?_⟩
        rcases mem_unrest.1 hy with rfl | ⟨-, rfl⟩ <;> omega
      · have hy := hE y hy
        by_cases h7 : y < 7
        · exact ⟨_, hstart, by omega⟩
        · exact ⟨b, Multiset.mem_add.2 (.inr hb), by omega⟩
  · have he : n'.schedule.start = n.schedule.start :=
      Timestamp.le_antisymm hs (Timestamp.not_lt.1 hlt)
    rw [allowance_of_eq he] at hE
    simp only [unrest, he]
    cases hn : n.isUndecided <;> cases hn' : n'.isUndecided <;> simp only [hn, hn'] at hE hu
    · exact .of_forall_lt _ (by simpa using hE)
    · -- the call is of a higher level than a decision
      have h6 : 6 ≤ b := by simpa using hu
      simp only [if_true, Bool.false_eq_true, if_false, add_zero, add_assoc]
      apply IsDershowitzMannaLT.of_forall_lt
      intro y hy
      rcases Multiset.mem_add.1 hy with hy | hy
      · rw [Multiset.mem_singleton.1 hy]
        omega
      · exact (by simpa using hE : ∀ e ∈ E, e < b) y hy
    · -- the decision pays for what is due at once
      have hE : ∀ e ∈ E, e < max 5 b := by simpa using hE
      refine ⟨{7 + n.schedule.start.micros.toNat}, E, {5} + {b}, by simp, by simp, ?_, ?_⟩
      · rw [if_pos rfl, add_assoc]
      intro y hy
      have hy := hE y hy
      by_cases h5 : y < 5
      · exact ⟨5, by simp, h5⟩
      · exact ⟨b, by simp, by omega⟩
    · exact .of_forall_lt _ (by simpa using hE)

end Node

/-! ### Simulations -/

def Event.level (s : Settings) : Event → Nat
  | .timer _ _ t => t.level s
  | .delivery _ sender data => dataLevel sender data
  | .departure _ => 0

def Event.Fits (s : Settings) : Event → Prop
  | .timer _ _ t => t.Fits s
  | _ => True

variable {σ : Settings} {s s' : Simulation} {now limit : Timestamp}

/-- What a node asks for in keeping with a bound is below it if it is due at once. -/
lemma Effect.Paced.books {id : NodeId} {b : Nat} {e : Effect} {a : Appointment}
    (h : e.Paced σ id b) (ha : e.Books id now a) (hn : now < Timestamp.never) :
    a.event.Fits σ ∧ (a.time ≤ now → a.event.level σ < b) := by
  cases ha with
  | timer handle handle' delay timer seq =>
    refine ⟨h.1, ?_⟩
    intro hle
    rcases h.2 with hl | hl
    · exact absurd hle (Timestamp.not_le.2 (Timestamp.lt_add hn hl))
    · exact hl
  | broadcast => exact ⟨trivial, fun _ => h⟩
  | send => exact ⟨trivial, fun _ => h⟩

/-- The levels of what is due. -/
def Agenda.dueLevels (σ : Settings) (now : Timestamp) (g : Agenda) : Multiset Nat :=
  ((g.appointments.filter fun a => a.time ≤ now).map fun a => a.event.level σ : List Nat)

lemma Agenda.Grows.dueLevels {g g' : Agenda} {b : Nat}
    (h : Grows (fun a => a.time ≤ now → a.event.level σ < b) g g') :
    ∃ E, g'.dueLevels σ now = g.dueLevels σ now + E ∧ ∀ e ∈ E, e < b := by
  obtain ⟨new, hp, hok⟩ := h
  refine ⟨((new.filter fun a => a.time ≤ now).map fun a => a.event.level σ : List Nat), ?_, ?_⟩
  · simp only [Agenda.dueLevels]
    rw [add_comm, Multiset.coe_add, ← List.map_append, ← List.filter_append]
    exact Multiset.coe_eq_coe.2 ((hp.filter _).map _)
  · intro e he
    obtain ⟨a, ha, rfl⟩ := List.mem_map.1 (Multiset.mem_coe.1 he)
    obtain ⟨ha, hdue⟩ := List.mem_filter.1 ha
    exact hok a ha (of_decide_eq_true hdue)

namespace Simulation

/-- All nodes have the same settings, and the agenda is in keeping with them. -/
structure Steady (σ : Settings) (s : Simulation) : Prop where
  now : s.now < Timestamp.never
  nodes : s.Each fun id n =>
    n.settings = σ ∧ n.reliable.retryInterval = σ.retryInterval ∧ n.id = id
  agenda : ∀ a ∈ s.agenda.appointments, a.event.Fits σ

/-- How much may still happen before time goes on. -/
def unrest (σ : Settings) (s : Simulation) : Multiset Nat :=
  (s.nodes.values.map Node.unrest).sum + s.agenda.dueLevels σ s.now

/-- What changes neither the nodes nor the agenda gives up what it took. -/
lemma unrest_lt_of_eq {b : Nat} (h : s'.unrest σ = s.unrest σ) :
    IsDershowitzMannaLT (s'.unrest σ) (s.unrest σ + {b}) := by
  have hb := IsDershowitzMannaLT.of_forall_lt (M := 0) (s.unrest σ) (a := b) (by simp)
  rw [add_zero] at hb
  rwa [h]

/-- A visit gives up the node as it was and the call, for the node as it is and what is asked for
at once. -/
lemma Called.unrest_lt {id : NodeId} {n : Node} {v : Visit} {b : Nat} (h : s.Called id n v s')
    (hnode : ∀ E : Multiset Nat, (∀ e ∈ E, e < n.allowance (n.visit v).node b) →
      IsDershowitzMannaLT ((n.visit v).node.unrest + E) (n.unrest + {b}))
    (hagenda : s.agenda.Grows
      (fun a => a.time ≤ s.now → a.event.level σ < n.allowance (n.visit v).node b) s'.agenda) :
    IsDershowitzMannaLT (s'.unrest σ) (s.unrest σ + {b}) := by
  obtain ⟨l, r, hv, hv'⟩ := Table.exists_values h.node
  obtain ⟨E, hE, hlt⟩ := hagenda.dueLevels
  have hlt := (hnode E hlt).add_left
    ((l.map Node.unrest).sum + (r.map Node.unrest).sum + s.agenda.dueLevels σ s.now)
  simp only [unrest, h.nodes, h.now, hv, hv', hE, List.map_append, List.map_cons, List.sum_append,
    List.sum_cons]
  convert hlt using 1 <;> abel

/-- A call gives up more than it leads to at once. -/
lemma Steady.call (hs : s.Steady σ) (hσ : σ.Steady) (id : NodeId) (c : Call) (hc : c.Fits σ) :
    (s.call id c).Steady σ ∧ (s.call id c).now = s.now ∧
      IsDershowitzMannaLT ((s.call id c).unrest σ) (s.unrest σ + {c.level σ}) := by
  rcases s.called id c with he | ⟨n, v, rfl, hv⟩
  · rw [he]
    exact ⟨hs, rfl, unrest_lt_of_eq rfl⟩
  · obtain ⟨rfl, hr, rfl⟩ := hs.nodes id n hv.node
    have hp := pace_visit n v hσ (hr ▸ hσ.retryInterval) hc
    have hbooks (a : Appointment) (ha : ∃ e ∈ (n.visit v).outbox.effects, e.Books n.id s.now a) :
        a.event.Fits n.settings ∧ (a.time ≤ s.now → a.event.level n.settings <
          n.allowance (n.visit v).node (v.call.level n.settings)) := by
      obtain ⟨e, he, ha⟩ := ha
      rcases hp.asked.mem_effects he with he | ⟨handle, rfl⟩ | he
      · cases he
      · cases ha
      · exact he.books ha hs.now
    refine ⟨⟨hv.now ▸ hs.now, hs.nodes.insert ?_ hv.nodes, ?_⟩, hv.now, ?_⟩
    · exact ⟨hp.alike.settings, hp.alike.retryInterval.trans hr, hp.alike.id⟩
    · intro a ha
      rcases hv.grows.mem ha with ha | ha
      · exact hs.agenda a ha
      · exact (hbooks a ha).1
    · exact hv.unrest_lt (fun E hE => Node.unrest_lt hp.start hp.undecided hE)
        (hv.grows.mono fun a ha => (hbooks a ha).2)

/-- An event gives up more than it leads to at once. -/
lemma Steady.process (hs : s.Steady σ) (hσ : σ.Steady) (e : Event) (he : e.Fits σ) :
    (s.process e).Steady σ ∧ (s.process e).now = s.now ∧
      IsDershowitzMannaLT ((s.process e).unrest σ) (s.unrest σ + {e.level σ}) := by
  have hidle (t : Simulation) (hn : t.now = s.now) (hns : t.nodes = s.nodes)
      (ha : t.agenda = s.agenda) : t.Steady σ ∧ t.now = s.now ∧
        IsDershowitzMannaLT (t.unrest σ) (s.unrest σ + {e.level σ}) := by
    refine ⟨⟨hn ▸ hs.now, hs.nodes.of_nodes hns, ha ▸ hs.agenda⟩, hn, unrest_lt_of_eq ?_⟩
    rw [unrest, hn, hns, ha]
    rfl
  cases e with
  | timer node handle timer => exact hs.call hσ node (.timer timer) he
  | departure node => exact hidle _ rfl rfl rfl
  | delivery receiver sender data =>
    simp only [Simulation.process, deliver]
    split
    · exact hidle _ rfl rfl rfl
    · rename_i packet hd
      split
      · have hl : Event.level σ (.delivery receiver sender data) = packet.level sender := by
          simp only [Event.level, dataLevel, hd]
        rw [hl]
        exact Steady.call (s := (s.count _).record _) ⟨hs.now, hs.nodes, hs.agenda⟩ hσ receiver
          (.packet sender packet) trivial
      · exact hidle _ rfl rfl rfl

/-- The time that is left, and how much may still happen before it goes on. -/
def outlook (σ : Settings) (limit : Timestamp) (s : Simulation) : Nat × Multiset Nat :=
  (limit.micros.toNat - s.now.micros.toNat, s.unrest σ)

/-- Time goes on, or there is less to happen. -/
def Shrinks : Nat × Multiset Nat → Nat × Multiset Nat → Prop :=
  Prod.Lex (· < ·) IsDershowitzMannaLT

lemma wellFounded_shrinks : WellFounded Shrinks :=
  WellFounded.prod_lex Nat.lt_wfRel.wf Multiset.wellFounded_isDershowitzMannaLT

/-- Taking out what is due leaves less. -/
lemma dueLevels_le {g g' : Agenda} {a : Appointment}
    (h : (a :: g'.appointments).Sublist g.appointments) (hdue : a.time ≤ now) :
    g'.dueLevels σ now + {a.event.level σ} ≤ g.dueLevels σ now := by
  have hs := (h.filter fun a => a.time ≤ now).map fun a => a.event.level σ
  rw [List.filter_cons_of_pos (by simpa using hdue), List.map_cons] at hs
  rw [add_comm, Multiset.singleton_add]
  exact Multiset.coe_le.2 hs.subperm

lemma Steady.advance (hs : s.Steady σ) {time : Timestamp} (h : time < Timestamp.never) :
    (s.advance time).Steady σ := by
  simp only [Simulation.advance]
  split
  · exact ⟨h, hs.nodes, hs.agenda⟩
  · exact hs

lemma Steady.step (hs : s.Steady σ) (hσ : σ.Steady) (hl : limit < Timestamp.never)
    (h : s.step limit = (s', true)) :
    s'.Steady σ ∧ Shrinks (s'.outlook σ limit) (s.outlook σ limit) := by
  simp only [Simulation.step] at h
  generalize hp : s.agenda.popDue limit = p at h
  obtain ⟨next, g⟩ := p
  cases next with
  | none => cases h
  | some a =>
    cases h
    obtain ⟨hle, hsub⟩ := Agenda.sublist_popDue hp
    have hfits (b : Appointment) (hb : b ∈ a :: g.appointments) : b.event.Fits σ :=
      hs.agenda b (hsub.subset hb)
    have hpop : ({ s with agenda := g } : Simulation).Steady σ :=
      ⟨hs.now, hs.nodes, fun b hb => hfits b (List.mem_cons_of_mem a hb)⟩
    obtain ⟨hst, hn, hu⟩ := (hpop.advance (Timestamp.lt_of_le_of_lt hle hl)).process hσ a.event
      (hfits a List.mem_cons_self)
    refine ⟨⟨hst.now, hst.nodes, hst.agenda⟩, ?_⟩
    by_cases hlt : s.now < a.time
    · -- time goes on, so it does not matter what happens
      have hnow : (({ s with agenda := g } : Simulation).advance a.time).now = a.time :=
        congrArg Simulation.now (if_pos hlt)
      have h₁ : s.now.micros.toNat < a.time.micros.toNat := hlt
      have h₂ : a.time.micros.toNat ≤ limit.micros.toNat := hle
      refine Prod.Lex.left _ _ ?_
      show limit.micros.toNat - (Simulation.process _ a.event).now.micros.toNat < _
      rw [hn, hnow]
      show limit.micros.toNat - a.time.micros.toNat < limit.micros.toNat - s.now.micros.toNat
      omega
    · -- the event was due, so it is paid for by its level
      have he : ({ s with agenda := g } : Simulation).advance a.time = { s with agenda := g } :=
        if_neg hlt
      rw [he] at hn hu ⊢
      refine Prod.Lex.right' _ (Nat.le_of_eq ?_) (hu.trans_le ?_)
      · exact congrArg (fun t : Timestamp => limit.micros.toNat - t.micros.toNat) hn
      · simp only [unrest, add_assoc]
        exact add_le_add_right (dueLevels_le hsub (Timestamp.not_lt.1 hlt)) _

/-- A run comes to an end. -/
lemma Steady.exists_runUntil (hs : s.Steady σ) (hσ : σ.Steady) (hl : limit < Timestamp.never) :
    ∃ fuel s', s.runUntil? limit fuel = some s' := by
  induction s using (InvImage.wf (outlook σ limit) wellFounded_shrinks).induction with
  | _ s ih =>
    rcases hstep : s.step limit with ⟨t, due⟩
    cases due with
    | false =>
      refine ⟨1, t.advance limit, ?_⟩
      simp only [runUntil?, hstep]
    | true =>
      obtain ⟨ht, hlt⟩ := hs.step hσ hl hstep
      obtain ⟨fuel, s', hr⟩ := ih t hlt ht
      refine ⟨fuel + 1, s', ?_⟩
      simp only [runUntil?, hstep]
      exact hr

end Simulation

end ClusterWave
