import ClusterWave.Proofs.Bench.Match

/-!
# Errands for a reliable sender

What one errand makes of the messages that are pending, of the alarms and of what is sent. An errand
leaves alone what it does not concern.
-/

namespace ClusterWave

/-- What there is to do for a reliable sender. -/
inductive Errand where
  | arm (peer : NodeId) (message : Message) (delay : Duration)
  | acknowledge (peer : NodeId) (kind : MessageKind)
  | cancelKind (kind : MessageKind)
  | satisfyAll
  /-- The alarm for a message goes off. -/
  | ring (peer : NodeId) (kind : MessageKind)
deriving DecidableEq

namespace Errand

/-- Whether an errand is about the message of a kind to a peer. -/
def concerns (key : NodeId × MessageKind) : Errand → Bool
  | .arm peer message _ => decide (key = (peer, message.kind))
  | .acknowledge peer kind | .ring peer kind => decide (key = (peer, kind))
  | .cancelKind kind => key.2 == kind
  | .satisfyAll => true

/-- Whether an errand is that the alarm for the message of a kind to a peer goes off. -/
def rings (key : NodeId × MessageKind) : Errand → Bool
  | .ring peer kind => decide (key = (peer, kind))
  | _ => false

/-- What a reliable sender makes of an errand. -/
def carryOut (s : ReliableSender) (o : Outbox) : Errand → ReliableSender × Outbox
  | .arm peer message delay => s.arm o peer message delay
  | .acknowledge peer kind => ((s.acknowledge o peer kind).1, (s.acknowledge o peer kind).2.1)
  | .cancelKind kind => ((s.cancelKind o kind).1, (s.cancelKind o kind).2.1)
  | .satisfyAll => ((s.satisfyAll o).1, (s.satisfyAll o).2.1)
  | .ring peer kind => ((s.transmit o peer kind).1, (s.transmit o peer kind).2.1)

end Errand

/-- The alarms for the message of a kind to a peer. -/
def Alarm.resending (key : NodeId × MessageKind) (as : List Alarm) : List Alarm :=
  as.filter fun a => a.timer = .retransmit key.1 key.2

namespace ReliableSender

variable {key : NodeId × MessageKind} {test : NodeId × MessageKind → Bool}

lemma get?_giveUp_of_pos (s : ReliableSender) (o : Outbox) (h : test key) :
    (s.giveUp o test).1.pending.get? key = none := by
  simp only [giveUp, Table.get?_filter]
  cases s.pending.get? key <;> simp [h]

lemma get?_giveUp_of_neg (s : ReliableSender) (o : Outbox) (h : ¬ test key) :
    (s.giveUp o test).1.pending.get? key = s.pending.get? key := by
  simp only [giveUp, Table.get?_filter]
  cases s.pending.get? key <;> simp [h]

end ReliableSender

namespace Errand

variable {e : Errand} {s : ReliableSender} {o : Outbox} {key : NodeId × MessageKind}

lemma concerns_of_rings (h : e.rings key) : e.concerns key := by
  cases e with
  | ring => exact h
  | _ => cases h

/-- What the alarms that come of an errand wait for. -/
def pause (interval : Duration) : Errand → Duration
  | .arm _ _ delay => delay
  | _ => interval

lemma steps_carryOut (e : Errand) (s : ReliableSender) (o : Outbox) :
    Outbox.Steps (fun x => ∀ handle delay timer, x = .schedule handle delay timer →
      delay = e.pause s.retryInterval ∧ ∃ peer kind, timer = .retransmit peer kind)
      o (e.carryOut s o).2 := by
  cases e with
  | arm peer message delay =>
    refine (Outbox.Step.schedule o ?_).steps.trans (.silence _ _)
    rintro _ _ _ ⟨⟩
    exact ⟨rfl, peer, message.kind, rfl⟩
  | acknowledge peer kind =>
    simp only [carryOut, ReliableSender.acknowledge]
    split
    · exact .refl o
    · exact (Outbox.Step.cancel o _).steps
  | cancelKind | satisfyAll => exact .cancels _ o
  | ring peer kind =>
    simp only [carryOut, ReliableSender.transmit]
    split
    · exact .refl o
    · refine (Outbox.Step.send o (by simp)).steps.tail (.schedule _ ?_)
      rintro _ _ _ ⟨⟩
      exact ⟨rfl, peer, kind, rfl⟩

lemma retryInterval_carryOut (e : Errand) (s : ReliableSender) (o : Outbox) :
    (e.carryOut s o).1.retryInterval = s.retryInterval := by
  cases e with
  | arm | cancelKind | satisfyAll => rfl
  | acknowledge peer kind => exact s.retryInterval_acknowledge o peer kind
  | ring peer kind => exact s.retryInterval_transmit o peer kind

/-! ### What is pending -/

lemma get?_carryOut_of_not_concerns (h : ¬ e.concerns key) :
    (e.carryOut s o).1.pending.get? key = s.pending.get? key := by
  cases e with
  | arm peer message delay =>
    exact Table.get?_insert_of_ne _ _ (by simpa [concerns] using h)
  | acknowledge peer kind =>
    simp only [carryOut, ReliableSender.acknowledge]
    split
    · rfl
    · exact Table.get?_erase_of_ne _ (by simpa [concerns] using h)
  | cancelKind | satisfyAll => exact ReliableSender.get?_giveUp_of_neg s o h
  | ring peer kind =>
    simp only [carryOut, ReliableSender.transmit]
    split
    · rfl
    · exact Table.get?_insert_of_ne _ _ (by simpa [concerns] using h)

lemma get?_carryOut (h : e.concerns key) :
    (e.carryOut s o).1.pending.get? key =
      match e with
      | .arm _ message _ => some ⟨message, 0, o.handle⟩
      | .ring _ _ => (s.pending.get? key).map fun p => ⟨p.message, p.attempts + 1, o.handle⟩
      | _ => none := by
  cases e with
  | arm peer message delay =>
    obtain rfl : key = (peer, message.kind) := by simpa [concerns] using h
    exact Table.get?_insert_self _ _ _
  | acknowledge peer kind =>
    obtain rfl : key = (peer, kind) := by simpa [concerns] using h
    simp only [carryOut, ReliableSender.acknowledge]
    split
    · assumption
    · exact Table.get?_erase_self _ _
  | cancelKind | satisfyAll => exact ReliableSender.get?_giveUp_of_pos s o h
  | ring peer kind =>
    obtain rfl : key = (peer, kind) := by simpa [concerns] using h
    simp only [carryOut, ReliableSender.transmit]
    split
    · rename_i hp
      simp only [hp, Option.map_none]
    · rename_i p hp
      simp only [hp, Option.map_some]
      exact Table.get?_insert_self _ _ _

/-! ### What is posted -/

lemma notes_cancels (ps : List Pending) (o : Outbox) :
    (ps.foldl (fun o p => o.cancel p.timer) o).effects.filterMap Note.ofEffect? =
      o.effects.filterMap Note.ofEffect? := by
  refine List.foldlRecOn (motive := fun o' : Outbox =>
    o'.effects.filterMap Note.ofEffect? = o.effects.filterMap Note.ofEffect?) _ _ rfl ?_
  intro o' ho p _
  simp [Outbox.cancel, Outbox.add, Note.ofEffect?, ho]

/-- Only an alarm that goes off makes the sender post something, and that is what is pending. -/
lemma notes_carryOut (e : Errand) (s : ReliableSender) (n : Nat) :
    (e.carryOut s (Outbox.fresh n)).2.effects.filterMap Note.ofEffect? =
      match e with
      | .ring peer kind =>
        ((s.pending.get? (peer, kind)).map fun p =>
          Note.send peer (Packet.single p.message)).toList
      | _ => [] := by
  cases e with
  | arm peer message delay =>
    simp only [carryOut, ReliableSender.arm]
    cases s.pending.get? (peer, message.kind) <;> rfl
  | acknowledge peer kind =>
    simp only [carryOut, ReliableSender.acknowledge]
    split <;> rfl
  | cancelKind | satisfyAll => exact notes_cancels _ _
  | ring peer kind =>
    simp only [carryOut, ReliableSender.transmit]
    split
    · rename_i hp
      rw [hp]
      rfl
    · rename_i p hp
      rw [hp]
      rfl

end Errand

/-! ### Which alarms are left alone -/

lemma Alarm.filter_insert_of_neg {a : Alarm} {test : Alarm → Bool} (h : ¬ test a)
    (as : List Alarm) : (insert a as).filter test = as.filter test := by
  induction as with
  | nil => simp [insert, h]
  | cons b as ih =>
    rw [insert]
    split
    · exact List.filter_cons_of_neg h
    · rw [List.filter_cons, List.filter_cons, ih]

namespace Outbox.Keeps

variable {o : Outbox} {slots : Slots} {s : ReliableSender} {now : Timestamp} {as : List Alarm}
  {key key' : NodeId × MessageKind}

open Alarm (resending)

lemma resending_schedule (o : Outbox) (delay : Duration) (now : Timestamp) (as : List Alarm)
    (hne : key ≠ key') :
    resending key ((o.schedule delay (.retransmit key'.1 key'.2)).alarms now as) =
      resending key (o.alarms now as) := by
  rw [alarms_schedule]
  refine Alarm.filter_insert_of_neg ?_ _
  exact fun he => hne (Timer.eq_of_retransmit rfl (of_decide_eq_true he)).symm

/-- The alarm of another message is cancelled. -/
lemma resending_cancel (h : o.Keeps slots s now as) {p : Pending}
    (hp : s.pending.get? key' = some p) (hne : key ≠ key') :
    resending key ((o.cancel p.timer).alarms now as) = resending key (o.alarms now as) := by
  rw [alarms_cancel, resending, List.filter_filter]
  refine List.filter_congr fun a ha => ?_
  rw [Bool.and_eq_left_iff_imp, decide_eq_true_iff]
  intro ht
  exact bne_iff_ne.2 fun he => hne (Timer.eq_of_retransmit ht (h.apart key' p hp a ha he))

lemma resending_cancels (h : o.Keeps slots s now as) {ps : List Pending}
    (hp : ∀ p ∈ ps, ∃ key', s.pending.get? key' = some p ∧ key ≠ key') :
    resending key ((ps.foldl (fun o p => o.cancel p.timer) o).alarms now as) =
      resending key (o.alarms now as) := by
  induction ps generalizing o with
  | nil => rfl
  | cons p ps ih =>
    obtain ⟨key', hk, hne⟩ := hp p List.mem_cons_self
    refine (ih (h.silence hk) fun q hq => hp q (List.mem_cons_of_mem p hq)).trans ?_
    exact h.resending_cancel hk hne

lemma resending_giveUp (h : o.Keeps slots s now as) {test : NodeId × MessageKind → Bool}
    (hkey : ¬ test key) :
    resending key ((s.giveUp o test).2.1.alarms now as) = resending key (o.alarms now as) := by
  refine h.resending_cancels fun p hp => ?_
  obtain ⟨⟨key', q⟩, hm, rfl⟩ := List.mem_map.1 hp
  have hq := Table.get?_eq_some_iff.2 hm
  rw [Table.get?_filter, Option.filter_eq_some_iff] at hq
  refine ⟨key', hq.1, ?_⟩
  rintro rfl
  exact hkey hq.2

/-- An errand leaves the alarms alone of every message that it does not concern. -/
lemma resending_carryOut (h : o.Keeps slots s now as) {e : Errand} (he : ¬ e.concerns key) :
    resending key ((e.carryOut s o).2.alarms now as) = resending key (o.alarms now as) := by
  cases e with
  | arm peer message delay =>
    have hne : key ≠ (peer, message.kind) := by simpa [Errand.concerns] using he
    have harm := resending_schedule o delay now as hne
    simp only [Errand.carryOut, ReliableSender.arm]
    cases hp : s.pending.get? (peer, message.kind) with
    | none => exact harm
    | some p => exact ((h.schedule _ _).resending_cancel hp hne).trans harm
  | acknowledge peer kind =>
    have hne : key ≠ (peer, kind) := by simpa [Errand.concerns] using he
    simp only [Errand.carryOut, ReliableSender.acknowledge]
    split
    · rfl
    · exact h.resending_cancel ‹_› hne
  | cancelKind | satisfyAll => exact h.resending_giveUp he
  | ring peer kind =>
    have hne : key ≠ (peer, kind) := by simpa [Errand.concerns] using he
    simp only [Errand.carryOut, ReliableSender.transmit]
    split
    · rfl
    · rename_i p hp
      refine (resending_schedule (o.send peer (.single p.message)) _ now as hne).trans ?_
      rw [alarms_send]

end Outbox.Keeps

end ClusterWave
