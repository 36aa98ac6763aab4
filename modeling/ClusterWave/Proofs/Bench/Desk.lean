import ClusterWave.Proofs.Bench.Errand
import Mathlib.Data.List.Basic
import Mathlib.Data.List.Induction

/-!
# A reliable sender at its desk

A desk runs errands for a reliable sender and keeps its alarms: time goes on from errand to errand,
no alarm is passed over, and an alarm goes off when it is due. All that is posted can be told from
the errands alone. A message goes out after its delay, and after that at a fixed period, until it is
acknowledged or given up or another one takes its place.
-/

namespace ClusterWave

/-- A reliable sender with a clock and its alarms. -/
structure Desk where
  sender : ReliableSender
  now : Timestamp
  nextHandle : Nat
  alarms : List Alarm
  /-- What was sent, and when. -/
  posted : List (Timestamp × Note)
deriving DecidableEq

namespace Desk

/-- Nothing is pending. -/
def idle (retryInterval : Duration) : Desk := ⟨.idle retryInterval, .start, 0, [], []⟩

/-- The alarms that an errand finds at a time. One that goes off has to be due, and is gone. -/
def left? (d : Desk) (t : Timestamp) : Errand → Option (List Alarm)
  | .ring peer kind =>
    (d.alarms.find? fun a => a.timer == .retransmit peer kind && a.due == t).map d.alarms.erase
  | _ => some d.alarms

/-- How a desk is left by an errand at a time, which finds some alarms. -/
def carry (d : Desk) (t : Timestamp) (e : Errand) (as : List Alarm) : Desk :=
  let (s, o) := e.carryOut d.sender (Outbox.fresh d.nextHandle)
  { sender := s
    now := t
    nextHandle := o.nextHandle
    alarms := o.alarms t as
    posted := d.posted ++ (o.effects.filterMap Note.ofEffect?).map fun n => (t, n) }

/-- Run an errand at a time, but not if time would go back or an alarm would be passed over. -/
def act? (d : Desk) (t : Timestamp) (e : Errand) : Option Desk :=
  if d.now ≤ t ∧ ∀ a ∈ d.alarms, t ≤ a.due then (d.left? t e).map (d.carry t e) else none

/-- Run errands, one after the other. -/
def run? (d : Desk) (history : List (Timestamp × Errand)) : Option Desk :=
  history.foldlM (fun d x => d.act? x.1 x.2) d

end Desk

/-! ### What can be told from the errands -/

/-- A message that is to reach a peer. -/
structure Delivery where
  message : Message
  since : Timestamp
  /-- How long it waits for the first time. -/
  delay : Duration
  /-- How often its alarm has gone off. -/
  count : Nat

/-- When a message goes out next, if it goes out again after each `interval`. -/
def Delivery.due (interval : Duration) (x : Delivery) : Timestamp :=
  .ofNat (x.since.micros.toNat + x.delay.micros.toNat + x.count * interval.micros.toNat)

/-- Whether something was sent to a peer that is of a kind. -/
def Note.isAbout (key : NodeId × MessageKind) : Note → Bool
  | .send peer packet => decide (peer = key.1 ∧ key.2 ∈ packet.kinds)
  | _ => false

/-- What becomes of a message by an errand that concerns it. -/
def Errand.yield (t : Timestamp) (x : Option Delivery) : Errand → Option Delivery
  | .arm _ message delay => some ⟨message, t, delay, 0⟩
  | .ring _ _ => x.map fun x => { x with count := x.count + 1 }
  | _ => none

/-- What becomes of the message of a kind to a peer by an errand at a time. -/
def Errand.follow (key : NodeId × MessageKind) (t : Timestamp) (x : Option Delivery) (e : Errand) :
    Option Delivery :=
  if e.concerns key then e.yield t x else x

/-- The message of a kind to a peer that was armed last, unless it was acknowledged or given up. -/
def standing? (key : NodeId × MessageKind) (history : List (Timestamp × Errand)) :
    Option Delivery :=
  history.foldl (fun x e => e.2.follow key e.1 x) none

/-- What an errand posts that comes after others: if an alarm goes off, the message that stands. -/
def mail? (interval : Duration) (before : List (Timestamp × Errand)) :
    Errand → Option (Timestamp × Note)
  | .ring peer kind =>
    (standing? (peer, kind) before).map fun x =>
      (x.due interval, .send peer (.single x.message))
  | _ => none

/-- What is posted by some errands. -/
def mail (interval : Duration) (history : List (Timestamp × Errand)) :
    List (Timestamp × Note) :=
  (List.range history.length).filterMap fun i =>
    history[i]?.bind fun e => mail? interval (history.take i) e.2

/-! ### Messages that stand -/

section

variable {key : NodeId × MessageKind} {history : List (Timestamp × Errand)} {x : Delivery}
  {t : Timestamp} {e : Errand} {interval : Duration}

lemma standing?_snoc (key : NodeId × MessageKind) (history : List (Timestamp × Errand))
    (t : Timestamp) (e : Errand) :
    standing? key (history ++ [(t, e)]) = e.follow key t (standing? key history) :=
  List.foldl_concat _ _ _ _

lemma Errand.follow_of_concerns (h : e.concerns key) (x : Option Delivery) :
    e.follow key t x = e.yield t x := if_pos h

lemma Errand.follow_of_not_concerns (h : ¬ e.concerns key) (x : Option Delivery) :
    e.follow key t x = x := if_neg h

/-- The message that stands for a kind is of that kind. -/
lemma kind_of_standing? (h : standing? key history = some x) : x.message.kind = key.2 := by
  induction history using List.reverseRecOn generalizing x with
  | nil => cases h
  | append_singleton history y ih =>
    obtain ⟨t, e⟩ := y
    rw [standing?_snoc] at h
    by_cases he : e.concerns key
    · rw [Errand.follow_of_concerns he] at h
      cases e with
      | arm peer message delay =>
        cases h
        exact (congrArg Prod.snd (of_decide_eq_true he)).symm
      | ring peer kind =>
        obtain ⟨y, hy, rfl⟩ := Option.map_eq_some_iff.1 h
        exact ih (x := y) hy
      | acknowledge | cancelKind | satisfyAll => cases h
    · rw [Errand.follow_of_not_concerns he] at h
      exact ih h

/-- What is posted last is what the last errand posts. -/
lemma mail_snoc (interval : Duration) (history : List (Timestamp × Errand)) (t : Timestamp)
    (e : Errand) : mail interval (history ++ [(t, e)]) =
      mail interval history ++ (mail? interval history e).toList := by
  have hlast : (history ++ [(t, e)])[history.length]? = some (t, e) := List.getElem?_concat_length
  rw [mail, List.length_append, List.length_singleton, List.range_succ, List.filterMap_append]
  congr 1
  · refine List.filterMap_congr fun i hi => ?_
    have hi : i < history.length := List.mem_range.1 hi
    rw [List.getElem?_append_left hi, List.take_append_of_le_length (Nat.le_of_lt hi)]
  · simp only [List.filterMap_cons, hlast, List.take_left, Option.bind_some]
    cases mail? interval history e <;> rfl

/-- A message stands as long as nothing but its alarm concerns it. -/
lemma standing?_of_kept {since : List (Timestamp × Errand)} {peer : NodeId} {message : Message}
    (before : List (Timestamp × Errand)) (t₀ : Timestamp) (delay : Duration)
    (h : ∀ y ∈ since, y.2.concerns (peer, message.kind) → y.2.rings (peer, message.kind)) :
    standing? (peer, message.kind) (before ++ (t₀, .arm peer message delay) :: since) =
      some ⟨message, t₀, delay, since.countP fun y => y.2.rings (peer, message.kind)⟩ := by
  induction since using List.reverseRecOn with
  | nil =>
    rw [standing?_snoc, Errand.follow_of_concerns (by simp [Errand.concerns])]
    rfl
  | append_singleton since y ih =>
    obtain ⟨t, e⟩ := y
    have hy := h (t, e) (List.mem_append_right _ List.mem_cons_self)
    rw [← List.cons_append, ← List.append_assoc, standing?_snoc,
      ih fun y hy => h y (List.mem_append_left _ hy), List.countP_append]
    by_cases he : e.concerns (peer, message.kind)
    · rw [Errand.follow_of_concerns he, List.countP_singleton, if_pos (hy he)]
      cases e with
      | ring => rfl
      | _ => cases hy he
    · rw [Errand.follow_of_not_concerns he, List.countP_singleton,
        if_neg fun hr => he (Errand.concerns_of_rings hr), Nat.add_zero]

/-- An errand posts nothing about a message unless the alarm for it goes off. -/
lemma filter_isAbout_mail? (interval : Duration) (history : List (Timestamp × Errand))
    (he : ¬ e.rings key) :
    ((mail? interval history e).toList.filter fun y => y.2.isAbout key) = [] := by
  refine List.filter_eq_nil_iff.2 fun y hy ha => ?_
  cases e with
  | ring peer kind =>
    obtain ⟨x, hx, rfl⟩ := Option.map_eq_some_iff.1 (Option.mem_toList.1 hy)
    obtain ⟨hpeer, hkind⟩ := of_decide_eq_true ha
    rw [Packet.kinds, Packet.single, List.map_singleton, List.mem_singleton,
      kind_of_standing? hx] at hkind
    exact he (decide_eq_true (Prod.ext hpeer.symm hkind))
  | _ => cases hy

namespace Delivery

lemma due_zero (interval : Duration) (message : Message) (t : Timestamp) (delay : Duration) :
    (Delivery.mk message t delay 0).due interval = t + delay := by
  rw [due, Nat.zero_mul]
  rfl

lemma due_succ (interval : Duration) (x : Delivery) :
    { x with count := x.count + 1 }.due interval = x.due interval + interval := by
  apply Timestamp.eq_of_toNat
  rw [Timestamp.toNat_add, due, due, Timestamp.toNat_ofNat, Timestamp.toNat_ofNat]
  simp only [Nat.succ_mul]
  omega

end Delivery

end

/-! ### The desk -/

namespace Desk

open Alarm (resending)

variable {d d' : Desk} {t : Timestamp} {e : Errand} {as : List Alarm} {interval : Duration}
  {history history' : List (Timestamp × Errand)} {key : NodeId × MessageKind}
  {peer : NodeId} {kind : MessageKind}

lemma act?_eq_some (h : d.act? t e = some d') :
    (d.now ≤ t ∧ ∀ a ∈ d.alarms, t ≤ a.due) ∧
      ∃ as, d.left? t e = some as ∧ d.carry t e as = d' := by
  rw [act?, Option.ite_none_right_eq_some] at h
  exact ⟨h.1, Option.map_eq_some_iff.1 h.2⟩

/-- An alarm that goes off is one that is due for the message. -/
lemma exists_alarm (h : d.left? t (.ring peer kind) = some as) :
    ∃ a ∈ d.alarms, a.timer = .retransmit peer kind ∧ a.due = t ∧ as = d.alarms.erase a := by
  obtain ⟨a, ha, rfl⟩ := Option.map_eq_some_iff.1 h
  have hdue := List.find?_some ha
  rw [Bool.and_eq_true, beq_iff_eq, beq_iff_eq] at hdue
  exact ⟨a, List.mem_of_find?_eq_some ha, hdue.1, hdue.2, rfl⟩

lemma subset_of_left? (h : d.left? t e = some as) : as ⊆ d.alarms := by
  cases e with
  | ring peer kind =>
    obtain ⟨a, -, -, -, rfl⟩ := exists_alarm h
    exact List.erase_subset
  | _ =>
    cases h
    exact List.Subset.refl _

lemma resending_of_left? (h : d.left? t e = some as) (he : ¬ e.concerns key) :
    resending key as = resending key d.alarms := by
  cases e with
  | ring peer kind =>
    obtain ⟨a, -, ht, -, rfl⟩ := exists_alarm h
    rw [resending, ← List.erase_filter, List.erase_of_not_mem, resending]
    intro hm
    have hkey : key = (peer, kind) :=
      Timer.eq_of_retransmit (of_decide_eq_true (List.mem_filter.1 hm).2) ht
    exact he (decide_eq_true hkey)
  | _ =>
    cases h
    rfl

/-- How a desk stands after some errands, as can be told from the errands. -/
structure Follows (interval : Duration) (history : List (Timestamp × Errand)) (d : Desk) :
    Prop where
  period : d.sender.retryInterval = interval
  kept : Kept Slots.empty d.sender.pending d.nextHandle d.alarms
  matched : Matched Slots.empty d.sender.pending d.alarms none
  entry : ∀ key, (d.sender.pending.get? key).map (fun p => (p.message, p.attempts)) =
    (standing? key history).map fun x => (x.message, x.count)
  due : ∀ key, (resending key d.alarms).map Alarm.due =
    ((standing? key history).map (Delivery.due interval)).toList
  ahead : ∀ a ∈ d.alarms, d.now ≤ a.due
  only : ∀ a ∈ d.alarms, ∃ peer kind, a.timer = .retransmit peer kind
  posted : d.posted = mail interval history

namespace Follows

lemma idle (interval : Duration) : (idle interval).Follows interval [] := by
  refine ⟨rfl, ⟨.nil _, ?_, ?_, ?_⟩, ⟨?_, ?_, ?_⟩, fun _ => rfl, fun _ => rfl, ?_, ?_, rfl⟩
  · intro slot handle h
    cases slot <;> cases h
  · intro key p h
    cases h
  · intro key p h
    cases h
  · exact List.forall_mem_nil _
  · exact List.forall_mem_nil _
  · intro key p h
    cases h
  · exact List.forall_mem_nil _
  · exact List.forall_mem_nil _

/-- A message is due when its alarm goes off. -/
lemma exists_due (h : d.Follows interval history) (hl : d.left? t (.ring peer kind) = some as) :
    ∃ x, standing? (peer, kind) history = some x ∧ x.due interval = t := by
  obtain ⟨a, ha, ht, rfl, -⟩ := exists_alarm hl
  have hm : a.due ∈ (resending (peer, kind) d.alarms).map Alarm.due :=
    List.mem_map_of_mem (List.mem_filter.2 ⟨ha, decide_eq_true ht⟩)
  rw [h.due, Option.mem_toList] at hm
  exact Option.map_eq_some_iff.1 hm

lemma keeps_left (h : d.Follows interval history) (hl : d.left? t e = some as) :
    (Outbox.fresh d.nextHandle).Keeps Slots.empty d.sender t as := by
  cases e with
  | ring peer kind =>
    obtain ⟨a, -, ht, -, rfl⟩ := exists_alarm hl
    have hring := h.kept.ring (a := a)
    rw [ht] at hring
    exact hring
  | _ =>
    cases hl
    exact h.kept

lemma matches_carry (h : d.Follows interval history) (hl : d.left? t e = some as) :
    (e.carryOut d.sender (.fresh d.nextHandle)).2.Matches Slots.empty (d.carry t e as).sender t
      as := by
  have hk := h.keeps_left hl
  cases e with
  | ring peer kind =>
    obtain ⟨a, ha, ht, -, rfl⟩ := exists_alarm hl
    have hr : a.timer.resends? = some (peer, kind) := Timer.resends?_iff.2 ht
    have hring := h.matched.ring h.kept ha
    rw [hr, ht] at hring
    exact Outbox.Matches.transmit hk hring (.fresh _ _ _)
      (h.matched.resends?_ne_of_ring h.kept ha hr)
  | arm peer message delay =>
    cases hl
    exact (Outbox.Matches.fresh hk h.matched).take peer message delay
  | acknowledge peer kind =>
    cases hl
    exact (Outbox.Matches.fresh hk h.matched).acknowledge peer kind
  | cancelKind | satisfyAll =>
    cases hl
    exact (Outbox.Matches.fresh hk h.matched).giveUp _

/-- An alarm was there before, or it comes of the errand. -/
lemma mem_carry (h : d.Follows interval history) {a : Alarm}
    (ha : a ∈ (d.carry t e as).alarms) :
    a ∈ as ∨ a.due = t + e.pause interval ∧ d.nextHandle ≤ a.handle.val ∧
      ∃ peer kind, a.timer = .retransmit peer kind := by
  rcases (e.steps_carryOut d.sender (.fresh d.nextHandle)).mem_alarms ha with
    ha | ⟨delay, hdue, hnew, hask⟩
  · exact .inl ha
  · obtain ⟨rfl, htimer⟩ := hask _ _ _ rfl
    exact .inr ⟨h.period ▸ hdue, hnew, htimer⟩

/-- The entry of a message that an errand concerns. -/
lemma entry_carry (h : d.Follows interval history) (t : Timestamp) (e : Errand) (as : List Alarm)
    (key : NodeId × MessageKind) :
    ((d.carry t e as).sender.pending.get? key).map (fun p => (p.message, p.attempts)) =
      (e.follow key t (standing? key history)).map fun x => (x.message, x.count) := by
  have hentry := h.entry key
  by_cases he : e.concerns key
  · rw [Errand.follow_of_concerns he, carry, Errand.get?_carryOut he]
    cases e with
    | arm | acknowledge | cancelKind | satisfyAll => rfl
    | ring peer kind =>
      simp only [Errand.yield]
      cases hp : d.sender.pending.get? key with
      | none =>
        rw [hp] at hentry
        rw [Option.map_eq_none_iff.1 hentry.symm]
        rfl
      | some p =>
        rw [hp] at hentry
        obtain ⟨x, hx, hpx⟩ := Option.map_eq_some_iff.1 hentry.symm
        rw [hx]
        exact congrArg (fun y => some (y.1, y.2 + 1)) hpx.symm
  · rw [Errand.follow_of_not_concerns he, carry, Errand.get?_carryOut_of_not_concerns he, hentry]

/-- The alarm for a message that an errand concerns is a new one. -/
lemma due_carry (h : d.Follows interval history) (hl : d.left? t e = some as)
    (he : e.concerns key) :
    (resending key (d.carry t e as).alarms).map Alarm.due =
      (((d.carry t e as).sender.pending.get? key).map fun _ => t + e.pause interval).toList := by
  have hm := h.matches_carry hl
  have hhandles : (resending key (d.carry t e as).alarms).map Alarm.handle =
      (((d.carry t e as).sender.pending.get? key).map Pending.timer).toList :=
    hm.matched.handles_eq_pending hm.keeps key.1 key.2
  cases hp : (d.carry t e as).sender.pending.get? key with
  | none =>
    rw [hp] at hhandles
    rw [List.map_eq_nil_iff.1 hhandles]
    rfl
  | some p =>
    have hnew : p.timer = ⟨d.nextHandle⟩ := by
      rw [carry, Errand.get?_carryOut he] at hp
      cases e with
      | arm =>
        cases hp
        rfl
      | ring =>
        obtain ⟨q, -, rfl⟩ := Option.map_eq_some_iff.1 hp
        rfl
      | acknowledge | cancelKind | satisfyAll => cases hp
    rw [hp] at hhandles
    obtain ⟨a, ha, hah⟩ := List.map_eq_singleton_iff.1 hhandles
    have hmem : a ∈ resending key (d.carry t e as).alarms := ha ▸ List.mem_singleton_self a
    rcases h.mem_carry (List.mem_of_mem_filter hmem) with hold | ⟨hdue, -, -⟩
    · have hlt := (h.keeps_left hl).orderly.fresh a hold
      rw [hah, hnew] at hlt
      exact absurd hlt (Nat.lt_irrefl _)
    · rw [ha]
      exact congrArg (fun t => [t]) hdue

/-- When a message is due next that an errand concerns. -/
lemma due_of_follow (h : d.Follows interval history) (hl : d.left? t e = some as)
    (he : e.concerns key) {x : Delivery} (hx : e.follow key t (standing? key history) = some x) :
    x.due interval = t + e.pause interval := by
  rw [Errand.follow_of_concerns he] at hx
  cases e with
  | arm peer message delay =>
    cases hx
    exact Delivery.due_zero _ _ _ _
  | ring peer kind =>
    obtain ⟨y, hy, rfl⟩ := Option.map_eq_some_iff.1 hx
    obtain ⟨z, hz, hdue⟩ := h.exists_due hl
    rw [← of_decide_eq_true he, hy] at hz
    cases hz
    rw [Delivery.due_succ, hdue]
    rfl
  | acknowledge | cancelKind | satisfyAll => cases hx

lemma posted_carry (h : d.Follows interval history) (hl : d.left? t e = some as) :
    (d.carry t e as).posted = d.posted ++ (mail? interval history e).toList := by
  show d.posted ++ ((e.carryOut d.sender (.fresh d.nextHandle)).2.effects.filterMap
    Note.ofEffect?).map (fun n => (t, n)) = _
  rw [Errand.notes_carryOut]
  cases e with
  | ring peer kind =>
    obtain ⟨x, hx, hdue⟩ := h.exists_due hl
    have hentry := h.entry (peer, kind)
    rw [hx] at hentry
    obtain ⟨p, hp, hpx⟩ := Option.map_eq_some_iff.1 hentry
    have hm : p.message = x.message := congrArg Prod.fst hpx
    simp only [mail?, hp, hx, hdue, hm, Option.map_some, Option.toList_some, List.map_singleton]
  | _ => rfl

/-- What an errand does not concern stays as it is. -/
lemma frame (h : d.Follows interval history) (ha : d.act? t e = some d') (he : ¬ e.concerns key) :
    d'.sender.pending.get? key = d.sender.pending.get? key ∧
      resending key d'.alarms = resending key d.alarms := by
  obtain ⟨-, as, hl, rfl⟩ := act?_eq_some ha
  refine ⟨Errand.get?_carryOut_of_not_concerns he, ?_⟩
  exact ((h.keeps_left hl).resending_carryOut he).trans (resending_of_left? hl he)

lemma act (h : d.Follows interval history) (ha : d.act? t e = some d') :
    d'.Follows interval (history ++ [(t, e)]) := by
  have hframe := fun key (he : ¬ e.concerns key) => h.frame ha he
  obtain ⟨⟨-, hahead⟩, as, hl, rfl⟩ := act?_eq_some ha
  have hm := h.matches_carry hl
  refine ⟨(e.retryInterval_carryOut _ _).trans h.period, hm.keeps, hm.matched, ?_, ?_, ?_, ?_, ?_⟩
  · intro key
    rw [standing?_snoc]
    exact h.entry_carry t e as key
  · intro key
    rw [standing?_snoc]
    -- The alarm of a message that the errand concerns is new, any other one has been there.
    by_cases he : e.concerns key
    · rw [h.due_carry hl he]
      have hentry := h.entry_carry t e as key
      cases hx : e.follow key t (standing? key history) with
      | none =>
        rw [hx] at hentry
        rw [Option.map_eq_none_iff.1 hentry]
        rfl
      | some x =>
        rw [hx] at hentry
        obtain ⟨p, hp, -⟩ := Option.map_eq_some_iff.1 hentry
        rw [hp, Option.map_some, Option.map_some, h.due_of_follow hl he hx]
    · rw [(hframe key he).2, Errand.follow_of_not_concerns he]
      exact h.due key
  · intro a hm
    rcases h.mem_carry hm with hold | ⟨hdue, -⟩
    · exact hahead a (subset_of_left? hl hold)
    · rw [hdue]
      exact Timestamp.le_add _ _
  · intro a hm
    rcases h.mem_carry hm with hold | ⟨-, -, htimer⟩
    · exact h.only a (subset_of_left? hl hold)
    · exact htimer
  · rw [mail_snoc, ← h.posted]
    exact h.posted_carry hl

lemma run (h : d.Follows interval history) (hr : d.run? history' = some d') :
    d'.Follows interval (history ++ history') := by
  induction history' generalizing d history with
  | nil =>
    cases hr
    rwa [List.append_nil]
  | cons x history' ih =>
    obtain ⟨d₁, ha, hr⟩ := Option.bind_eq_some_iff.1 hr
    rw [List.append_cons]
    exact ih (h.act ha) hr

lemma of_run? (h : (Desk.idle interval).run? history = some d) : d.Follows interval history :=
  (Follows.idle interval).run h

/-- The first alarm can go off when it is due. -/
lemma exists_act (h : d.Follows interval history) {a : Alarm} (ha : a ∈ d.alarms)
    (hfirst : ∀ b ∈ d.alarms, a.due ≤ b.due) :
    ∃ peer kind, a.timer = .retransmit peer kind ∧ (d.act? a.due (.ring peer kind)).isSome := by
  obtain ⟨peer, kind, ht⟩ := h.only a ha
  refine ⟨peer, kind, ht, ?_⟩
  rw [act?, if_pos ⟨h.ahead a ha, hfirst⟩, Option.isSome_map, left?, Option.isSome_map,
    List.find?_isSome]
  exact ⟨a, ha, by rw [ht, beq_self_eq_true, beq_self_eq_true, Bool.and_self]⟩

end Follows

/-- What is posted about a message from the errand on that arms it. -/
lemma exists_mail {since : List (Timestamp × Errand)} {message : Message}
    (before : List (Timestamp × Errand)) (t₀ : Timestamp) (delay : Duration)
    (h : ∀ y ∈ since, y.2.concerns (peer, message.kind) → y.2.rings (peer, message.kind)) :
    ∃ posted, mail interval (before ++ (t₀, .arm peer message delay) :: since) =
        mail interval before ++ posted ∧
      (posted.filter fun y => y.2.isAbout (peer, message.kind)) =
        (List.range (since.countP fun y => y.2.rings (peer, message.kind))).map fun k =>
          ((Delivery.mk message t₀ delay k).due interval, .send peer (.single message)) := by
  induction since using List.reverseRecOn with
  | nil => exact ⟨[], by rw [mail_snoc]; rfl, rfl⟩
  | append_singleton since y ih =>
    obtain ⟨t, e⟩ := y
    have hkept : ∀ y ∈ since, y.2.concerns (peer, message.kind) → y.2.rings (peer, message.kind) :=
      fun y hy => h y (List.mem_append_left _ hy)
    obtain ⟨posted, hposted, hfilter⟩ := ih hkept
    have hstanding := standing?_of_kept before t₀ delay hkept
    rw [← List.cons_append, ← List.append_assoc, mail_snoc, hposted, List.append_assoc]
    refine ⟨_, rfl, ?_⟩
    rw [List.filter_append, hfilter, List.countP_append, List.countP_singleton]
    by_cases he : e.rings (peer, message.kind)
    · rw [if_pos he, List.range_succ, List.map_append]
      cases e with
      | ring peer' kind =>
        cases of_decide_eq_true he
        simp [mail?, hstanding, Note.isAbout, Packet.kinds, Packet.single]
      | _ => cases he
    · rw [if_neg he, Nat.add_zero, filter_isAbout_mail? _ _ he, List.append_nil]

lemma run?_append (d : Desk) (es es' : List (Timestamp × Errand)) :
    d.run? (es ++ es') = (d.run? es).bind fun d => d.run? es' := List.foldlM_append

/-- A reliable sender works by its errands alone, in whatever order they come. It posts a message
only when an alarm goes off, and then the message that was armed last for the peer and the kind,
alone in a packet, unless it was acknowledged or given up. There is one alarm for each message that
stands, and it is never passed over. What an errand does not concern keeps its entry and its alarm.
And from the time on at which a message is armed, it goes out after its delay and then at each
interval, as long as it stands. -/
theorem posts_on_schedule (h : (Desk.idle interval).run? history = some d) :
    d.posted = mail interval history ∧
    (∀ key, (d.sender.pending.get? key).map (fun p => (p.message, p.attempts)) =
        (standing? key history).map (fun x => (x.message, x.count)) ∧
      (resending key d.alarms).map Alarm.due =
        ((standing? key history).map (Delivery.due interval)).toList) ∧
    (∀ a ∈ d.alarms, d.now ≤ a.due ∧ ((∀ b ∈ d.alarms, a.due ≤ b.due) →
      ∃ peer kind, a.timer = .retransmit peer kind ∧
        (d.act? a.due (.ring peer kind)).isSome)) ∧
    (∀ t e d', d.act? t e = some d' → ∀ key, ¬ e.concerns key →
      d'.sender.pending.get? key = d.sender.pending.get? key ∧
        resending key d'.alarms = resending key d.alarms) ∧
    ∀ before t₀ peer message delay since,
      history = before ++ (t₀, .arm peer message delay) :: since →
      (∀ y ∈ since, y.2.concerns (peer, message.kind) → y.2.rings (peer, message.kind)) →
      ∃ d₀ posted n, (Desk.idle interval).run? before = some d₀ ∧ d.posted = d₀.posted ++ posted ∧
        d.sender.attempts? peer message.kind = some n ∧
        (posted.filter fun y => y.2.isAbout (peer, message.kind)) =
          (List.range n).map fun k =>
            (.ofNat (t₀.micros.toNat + delay.micros.toNat + k * interval.micros.toNat),
              .send peer (.single message)) := by
  have hd := Follows.of_run? h
  refine ⟨hd.posted, fun key => ⟨hd.entry key, hd.due key⟩,
    fun a ha => ⟨hd.ahead a ha, hd.exists_act ha⟩, fun t e d' ha key he => hd.frame ha he, ?_⟩
  rintro before t₀ peer message delay since rfl hkept
  rw [run?_append] at h
  obtain ⟨d₀, h₀, -⟩ := Option.bind_eq_some_iff.1 h
  have hd₀ := Follows.of_run? h₀
  obtain ⟨posted, hposted, hfilter⟩ := exists_mail before t₀ delay hkept
  refine ⟨d₀, posted, _, h₀, ?_, ?_, hfilter⟩
  · rw [hd.posted, hd₀.posted, hposted]
  · have hentry := hd.entry (peer, message.kind)
    rw [standing?_of_kept before t₀ delay hkept] at hentry
    obtain ⟨p, hp, hpx⟩ := Option.map_eq_some_iff.1 hentry
    rw [ReliableSender.attempts?, hp]
    exact congrArg (fun y => some y.2) hpx

/-- The offer of a wavefront, with a number. -/
def offer (seq : UInt64) : Message := .interCluster seq ⟨7⟩ .zero .zero .zero .start

/-- Offers go to two peers. The alarms of both go off at one time, then the offer to one of them is
armed anew, and the other one acknowledges. -/
def rounds : List (Timestamp × Errand) :=
  [(.ofMillis 0, .arm ⟨40⟩ (offer 1) (.ofMillis 10)),
    (.ofMillis 5, .arm ⟨50⟩ (offer 2) (.ofMillis 5)),
    (.ofMillis 10, .ring ⟨50⟩ .interCluster),
    (.ofMillis 10, .ring ⟨40⟩ .interCluster),
    (.ofMillis 12, .arm ⟨40⟩ (offer 3) (.ofMillis 3)),
    (.ofMillis 14, .ring ⟨50⟩ .interCluster),
    (.ofMillis 15, .ring ⟨40⟩ .interCluster),
    (.ofMillis 16, .acknowledge ⟨50⟩ .interCluster),
    (.ofMillis 19, .ring ⟨40⟩ .interCluster)]

/-- The new offer goes out after its own delay, and what is acknowledged goes out no more. -/
theorem rounds_on_schedule : ∃ d, (idle (.ofMillis 4)).run? rounds = some d ∧
    d.posted =
      [(.ofMillis 10, .send ⟨50⟩ (.single (offer 2))),
        (.ofMillis 10, .send ⟨40⟩ (.single (offer 1))),
        (.ofMillis 14, .send ⟨50⟩ (.single (offer 2))),
        (.ofMillis 15, .send ⟨40⟩ (.single (offer 3))),
        (.ofMillis 19, .send ⟨40⟩ (.single (offer 3)))] ∧
    d.sender.attempts? ⟨40⟩ .interCluster = some 2 ∧
    resending (⟨50⟩, .interCluster) d.alarms = [] := by
  have hrun : ((idle (.ofMillis 4)).run? rounds).isSome := by decide
  obtain ⟨d, hd⟩ := Option.isSome_iff_exists.1 hrun
  obtain ⟨hposted, hkeys, -⟩ := posts_on_schedule hd
  have hentry := (hkeys (⟨40⟩, .interCluster)).1.trans (show _ = some (offer 3, 2) by decide)
  have hdue := (hkeys (⟨50⟩, .interCluster)).2.trans (show _ = [] by decide)
  refine ⟨d, hd, hposted.trans (by decide), ?_, List.map_eq_nil_iff.1 hdue⟩
  have hattempts := congrArg (Option.map Prod.snd) hentry
  rwa [Option.map_map] at hattempts

end Desk

end ClusterWave
