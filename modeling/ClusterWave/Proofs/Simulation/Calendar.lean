import ClusterWave.Proofs.Simulation.Agenda

/-!
# Timers that are struck off at once

A calendar is asked for the same as an agenda, but it strikes a timer off the moment it is
cancelled, and it takes out the first of what is left, wherever that stands. An agenda notes what was
cancelled and passes over it when it comes due. By what is taken out nobody can tell the two apart,
as long as no two timers are put in under a handle that is cancelled. Only the agenda holds on to
timers that were struck off until they come due, and so looks fuller than the calendar.
-/

namespace ClusterWave

namespace Appointment

variable {a b c : Appointment} {as : List Appointment}

lemma before_trans (h : a.before b) (h' : b.before c) : a.before c := by
  rw [before_iff] at h h' ⊢
  exact Timestamp.tie_trans h h'

lemma before_asymm (h : a.before b) : ¬ b.before a := by
  intro h'
  rcases before_iff.1 (before_trans h h') with hlt | ⟨-, hlt⟩
  · exact Nat.lt_irrefl _ hlt
  · exact Nat.lt_irrefl _ hlt

lemma before_of_not (h : ¬ a.before b) (hne : a.seq ≠ b.seq) : b.before a := by
  rw [before_iff] at h ⊢
  exact Timestamp.tie_of_not h hne

/-- An appointment with a number of its own is put in where it belongs. -/
lemma ordered_insert (h : as.Pairwise fun p q => p.before q) (hne : ∀ p ∈ as, a.seq ≠ p.seq) :
    (insert a as).Pairwise fun p q => p.before q :=
  pairwise_insert (fun _ _ => before_trans) h (fun _ _ hap => hap)
    fun p hp hn => before_of_not hn (hne p hp)

/-- The handle of a timer, if it is one of some handles. -/
def handleIn? (handles : List TimerHandle) (a : Appointment) : Option TimerHandle :=
  a.handle?.filter handles.contains

lemma handleIn?_eq_some_iff {handles : List TimerHandle} {handle : TimerHandle} :
    a.handleIn? handles = some handle ↔ a.handle? = some handle ∧ handle ∈ handles := by
  rw [handleIn?, Option.filter_eq_some_iff, List.contains_iff_mem]

end Appointment

/-! ### Requests -/

/-- What is asked of an agenda. -/
inductive Agenda.Request where
  | push (time : Timestamp) (event : Event)
  | schedule (node : NodeId) (now : Timestamp) (delay : Duration) (timer : Timer)
  | cancel (handle : TimerHandle)
  /-- Take out what comes next, if it is due by a time. -/
  | take (limit : Timestamp)

namespace Agenda

/-- What is put in by some requests, numbered from `seq`, the timers under handles from `next`. -/
def Request.entries (seq next : Nat) : List Request → List Appointment
  | [] => []
  | .push time event :: rs => ⟨time, seq, event⟩ :: entries (seq + 1) next rs
  | .schedule node now delay timer :: rs =>
    ⟨now + delay, seq, .timer node ⟨next⟩ timer⟩ :: entries (seq + 1) (next + 1) rs
  | _ :: rs => entries seq next rs

lemma Request.entries_cancel (seq next : Nat) (handle : TimerHandle) (rs : List Request) :
    entries seq next (.cancel handle :: rs) = entries seq next rs := rfl

/-- The handle that a request cancels. -/
def Request.cancels? : Request → Option TimerHandle
  | .cancel handle => some handle
  | _ => none

/-- Whether no two timers are put in under a handle that is cancelled. So it is whenever timers are
scheduled and only other events are pushed. -/
def Request.NamesOnce (rs : List Request) : Prop :=
  ((entries 0 0 rs).filterMap (Appointment.handleIn? (rs.filterMap cancels?))).Nodup

instance (rs : List Request) : Decidable (Request.NamesOnce rs) :=
  inferInstanceAs (Decidable (List.Nodup _))

/-- Do what is asked. The answer is what is taken out, if anything is. -/
def serve (g : Agenda) : Request → Option Appointment × Agenda
  | .push time event => (none, g.push time event)
  | .schedule node now delay timer => (none, g.scheduleTimer node now delay timer)
  | .cancel handle => (none, g.cancel handle)
  | .take limit => g.popDue limit

/-- The answers to some requests, one after the other. -/
def answers (g : Agenda) : List Request → List (Option Appointment)
  | [] => []
  | r :: rs => (g.serve r).1 :: (g.serve r).2.answers rs

def after (g : Agenda) (rs : List Request) : Agenda := rs.foldl (fun g r => (g.serve r).2) g

end Agenda

/-- An agenda that strikes timers off when they are cancelled. -/
structure Calendar where
  /-- What is to come, in the order in which it was put in. -/
  pending : List Appointment
  /-- The timers that were cancelled while they were to come. -/
  struck : List Appointment
  nextSeq : Nat
  nextHandle : Nat
deriving DecidableEq

namespace Calendar

open Agenda (Request)

def empty : Calendar := ⟨[], [], 0, 0⟩

def push (c : Calendar) (time : Timestamp) (event : Event) : Calendar :=
  { c with pending := c.pending ++ [⟨time, c.nextSeq, event⟩], nextSeq := c.nextSeq + 1 }

/-- Strike off the timer with a handle, if the handle was given out. -/
def strike (c : Calendar) (handle : TimerHandle) : Calendar :=
  if handle.val < c.nextHandle then
    { c with
      pending := c.pending.filter fun a => !(a.handle? == some handle)
      struck := c.struck ++ c.pending.filter fun a => a.handle? == some handle }
  else c

/-- Whether an appointment is due by a time and comes before everything else. -/
def isFirst (c : Calendar) (limit : Timestamp) (a : Appointment) : Bool :=
  decide (a.time ≤ limit) && c.pending.all fun b => b == a || a.before b

def first? (c : Calendar) (limit : Timestamp) : Option Appointment :=
  c.pending.find? (c.isFirst limit)

/-- Do what is asked of an agenda. -/
def serve (c : Calendar) : Request → Option Appointment × Calendar
  | .push time event => (none, c.push time event)
  | .schedule node now delay timer =>
    (none, { c with nextHandle := c.nextHandle + 1 }.push (now + delay)
      (.timer node ⟨c.nextHandle⟩ timer))
  | .cancel handle => (none, c.strike handle)
  | .take limit =>
    match c.first? limit with
    | none => (none, c)
    | some a => (some a, { c with pending := c.pending.erase a })

def answers (c : Calendar) : List Request → List (Option Appointment)
  | [] => []
  | r :: rs => (c.serve r).1 :: (c.serve r).2.answers rs

def after (c : Calendar) (rs : List Request) : Calendar := rs.foldl (fun c r => (c.serve r).2) c

variable {c : Calendar} {a : Appointment} {limit : Timestamp} {rs : List Request}

lemma isFirst_iff : c.isFirst limit a ↔
    a.time ≤ limit ∧ ∀ b ∈ c.pending, b ≠ a → a.before b := by
  simp [isFirst, or_iff_not_imp_left]

lemma first?_eq_some_iff : c.first? limit = some a ↔
    a ∈ c.pending ∧ a.time ≤ limit ∧ ∀ b ∈ c.pending, b ≠ a → a.before b := by
  rw [first?, ← isFirst_iff]
  constructor
  · intro h
    exact ⟨List.mem_of_find?_eq_some h, List.find?_some h⟩
  · rintro ⟨hm, ha⟩
    obtain ⟨b, hb⟩ := Option.isSome_iff_exists.1 (List.find?_isSome.2 ⟨a, hm, ha⟩)
    have hbm := List.mem_of_find?_eq_some hb
    rw [hb]
    refine congrArg some (Decidable.byContradiction fun hne => ?_)
    exact Appointment.before_asymm ((isFirst_iff.1 ha).2 b hbm hne)
      ((isFirst_iff.1 (List.find?_some hb)).2 a hm (Ne.symm hne))

lemma first?_eq_none (h : ∀ a ∈ c.pending, limit < a.time) : c.first? limit = none := by
  rw [first?, List.find?_eq_none]
  intro a ha ht
  exact Timestamp.not_lt.2 (isFirst_iff.1 ht).1 (h a ha)

/-- The first appointment of an order of all that is to come is taken out, if it is due. -/
lemma first?_of_perm {found : Option Appointment} {rest : List Appointment}
    (h : (found.toList ++ rest).Perm c.pending)
    (hordered : (found.toList ++ rest).Pairwise fun p q => p.before q)
    (hdue : ∀ a, found = some a → a.time ≤ limit)
    (hnone : found = none → ∀ a ∈ c.pending, limit < a.time) : c.first? limit = found := by
  cases found with
  | none => exact first?_eq_none (hnone rfl)
  | some a =>
    refine first?_eq_some_iff.2 ⟨h.mem_iff.1 List.mem_cons_self, hdue a rfl, ?_⟩
    intro b hb hne
    rcases List.mem_cons.1 (h.mem_iff.2 hb) with rfl | hb
    · exact absurd rfl hne
    · exact (List.pairwise_cons.1 hordered).1 b hb

lemma strike_of_gone {handle : TimerHandle}
    (h : handle.val < c.nextHandle → ∀ a ∈ c.pending, a.handle? ≠ some handle) :
    c.strike handle = c := by
  simp only [strike]
  split
  · rename_i hlt
    have hkeep : c.pending.filter (fun a => !(a.handle? == some handle)) = c.pending :=
      List.filter_eq_self.2 fun a ha => by simp [h hlt a ha]
    have hnone : c.pending.filter (fun a => a.handle? == some handle) = [] :=
      List.filter_eq_nil_iff.2 fun a ha => by simp [h hlt a ha]
    rw [hkeep, hnone, List.append_nil]
  · rfl

/-! ### Nothing is lost -/

lemma answers_cons (c : Calendar) (r : Request) (rs : List Request) :
    c.answers (r :: rs) = (c.serve r).1 :: (c.serve r).2.answers rs := rfl

lemma after_cons (c : Calendar) (r : Request) (rs : List Request) :
    c.after (r :: rs) = (c.serve r).2.after rs := rfl

lemma perm_push (c : Calendar) (time : Timestamp) (event : Event) (es : List Appointment) :
    ((c.push time event).pending ++ (c.push time event).struck ++ es).Perm
      (c.pending ++ c.struck ++ ⟨time, c.nextSeq, event⟩ :: es) := by
  simp only [push, List.append_assoc, List.singleton_append]
  exact List.perm_middle.symm.append_left c.pending

lemma perm_strike (c : Calendar) (handle : TimerHandle) :
    ((c.strike handle).pending ++ (c.strike handle).struck).Perm (c.pending ++ c.struck) := by
  simp only [strike]
  split
  · have hparts := List.filter_append_perm (fun a => !(a.handle? == some handle)) c.pending
    simp only [Bool.not_not] at hparts
    refine .trans ?_ (hparts.append_right c.struck)
    rw [List.append_assoc]
    exact List.perm_append_comm.append_left _
  · exact .refl _

/-- Whatever is put in is still to come, or was taken out, or was struck off, once each. -/
lemma perm_entries (c : Calendar) (rs : List Request) :
    ((c.answers rs).reduceOption ++ ((c.after rs).pending ++ (c.after rs).struck)).Perm
      (c.pending ++ c.struck ++ Request.entries c.nextSeq c.nextHandle rs) := by
  induction rs generalizing c with
  | nil =>
    rw [Request.entries, List.append_nil]
    exact .refl _
  | cons r rs ih =>
    rw [answers_cons, after_cons]
    cases r with
    | push time event => exact (ih _).trans (c.perm_push time event _)
    | schedule node now delay timer =>
      exact (ih _).trans (perm_push { c with nextHandle := c.nextHandle + 1 } _ _ _)
    | cancel handle =>
      have hcounts : (c.strike handle).nextSeq = c.nextSeq ∧
          (c.strike handle).nextHandle = c.nextHandle := by
        simp only [strike]
        split <;> exact ⟨rfl, rfl⟩
      have hrest := ih (c.strike handle)
      rw [hcounts.1, hcounts.2] at hrest
      exact hrest.trans ((c.perm_strike handle).append_right _)
    | take limit =>
      simp only [serve]
      split
      · exact ih c
      · rename_i a ha
        have hm : a ∈ c.pending := (first?_eq_some_iff.1 ha).1
        refine ((ih { c with pending := c.pending.erase a }).cons a).trans ?_
        exact ((List.perm_cons_erase hm).symm.append_right c.struck).append_right _

end Calendar

/-! ### What is live in an agenda -/

/-- Whether an appointment has not been cancelled. -/
def Appointment.isLive (cancelled : List TimerHandle) (a : Appointment) : Bool :=
  a.handle?.all fun handle => !cancelled.contains handle

namespace Agenda

variable {g : Agenda} {c : Calendar} {as rest : List Appointment}
  {handles cancelled cancelled' : List TimerHandle} {limit : Timestamp}
  {found : Option Appointment} {rs later : List Request}

open Appointment (isLive handleIn? handleIn?_eq_some_iff)

lemma isLive_insert (a : Appointment) (handle : TimerHandle) :
    a.isLive (cancelled.insert handle) = (a.isLive cancelled && !(a.handle? == some handle)) := by
  cases ha : a.handle? with
  | none => simp [isLive, ha]
  | some h =>
    simp only [isLive, ha, Option.all_some]
    by_cases he : h = handle
    · subst he; simp
    · simp [he]

lemma cancel_nextSeq (g : Agenda) (handle : TimerHandle) :
    (g.cancel handle).nextSeq = g.nextSeq := by
  simp only [cancel]
  split <;> rfl

lemma cancel_nextHandle (g : Agenda) (handle : TimerHandle) :
    (g.cancel handle).nextHandle = g.nextHandle := by
  simp only [cancel]
  split <;> rfl

/-- What is cancelled stays so if no handle is taken off the list of cancelled ones. -/
lemma isLive_mono (h : cancelled' ⊆ cancelled) {a : Appointment} (ha : a.isLive cancelled) :
    a.isLive cancelled' := by
  cases hh : a.handle? with
  | none => simp [isLive, hh]
  | some handle =>
    have hfree : handle ∉ cancelled := by simpa [isLive, hh] using ha
    simpa [isLive, hh] using fun hm => hfree (h hm)

/-- What is taken out is the first live appointment, and the others stay live. -/
lemma live_takeDue (hn : (as.filterMap (handleIn? handles)).Nodup) (hc : cancelled ⊆ handles)
    (h : takeDue limit cancelled as = (found, rest, cancelled')) :
    cancelled'.Sublist cancelled ∧
      as.filter (isLive cancelled) = found.toList ++ rest.filter (isLive cancelled') := by
  induction as generalizing cancelled with
  | nil =>
    cases h
    exact ⟨.refl _, rfl⟩
  | cons a as ih =>
    simp only [takeDue] at h
    split at h
    · cases h
      exact ⟨.refl _, rfl⟩
    · split at h
      · rename_i handle ha
        split at h
        · rename_i hm
          have hm : handle ∈ cancelled := List.contains_iff_mem.1 hm
          rw [List.filterMap_cons_some (handleIn?_eq_some_iff.2 ⟨ha, hc hm⟩),
            List.nodup_cons] at hn
          obtain ⟨hs, hlive⟩ := ih hn.2 (fun _ h => hc (List.mem_of_mem_erase h)) h
          have hgone : ¬ a.isLive cancelled := by simpa [isLive, ha] using hm
          -- No other appointment has this handle.
          have hrest : as.filter (isLive cancelled) =
              as.filter (isLive (cancelled.erase handle)) := by
            refine List.filter_congr fun b hb => ?_
            cases hbh : b.handle? with
            | none => simp [isLive, hbh]
            | some handle' =>
              have hne : handle' ≠ handle := by
                rintro rfl
                exact hn.1 (List.mem_filterMap.2
                  ⟨b, hb, handleIn?_eq_some_iff.2 ⟨hbh, hc hm⟩⟩)
              simp [isLive, hbh, List.mem_erase_of_ne hne]
          refine ⟨hs.trans List.erase_sublist, ?_⟩
          rw [List.filter_cons_of_neg hgone, hrest, hlive]
        · rename_i hm
          cases h
          have hlive : a.isLive cancelled' := by simpa [isLive, ha] using hm
          exact ⟨.refl _, List.filter_cons_of_pos hlive⟩
      · rename_i ha
        cases h
        have hlive : a.isLive cancelled' := by simp [isLive, ha]
        exact ⟨.refl _, List.filter_cons_of_pos hlive⟩

/-! ### The agenda and the calendar -/

/-- How an agenda goes with the calendar of the same requests, if `later` is what is still to be put
in and no other handles than the given ones are cancelled. Its live appointments are what the
calendar has to come. -/
structure Shows (handles : List TimerHandle) (g : Agenda) (c : Calendar)
    (later : List Appointment) : Prop where
  ordered : g.appointments.Pairwise fun p q => p.before q
  numbered : ∀ a ∈ g.appointments, a.seq < g.nextSeq
  cancelled : g.cancelled ⊆ handles
  /-- A timer can be cancelled only under a handle that was given out. -/
  recalled : ∀ handle ∈ g.cancelled, handle.val < g.nextHandle
  distinct : ((g.appointments ++ later).filterMap (handleIn? handles)).Nodup
  unused : ∀ handle ∈ later.filterMap (handleIn? handles), g.nextHandle ≤ handle.val
  live : (g.appointments.filter (isLive g.cancelled)).Perm c.pending
  dead : ∀ a ∈ g.appointments, ¬ a.isLive g.cancelled → a ∈ c.struck
  nextSeq : c.nextSeq = g.nextSeq
  nextHandle : c.nextHandle = g.nextHandle

namespace Shows

variable {a : Appointment} {es : List Appointment}

lemma empty (hn : (es.filterMap (handleIn? handles)).Nodup) : Shows handles .empty .empty es :=
  ⟨.nil, List.forall_mem_nil _, List.nil_subset _, List.forall_mem_nil _, hn,
    fun _ _ => Nat.zero_le _, .refl _, List.forall_mem_nil _, rfl, rfl⟩

/-- What is put in is live: if its handle is cancelled at all, it was not given out before. -/
lemma isLive_of_cons (h : Shows handles g c (a :: es)) : a.isLive g.cancelled := by
  cases ha : a.handle? with
  | none => simp [isLive, ha]
  | some handle =>
    have hfree : handle ∉ g.cancelled := by
      intro hm
      have hin := handleIn?_eq_some_iff.2 ⟨ha, h.cancelled hm⟩
      have hle : g.nextHandle ≤ handle.val :=
        h.unused handle (List.mem_filterMap.2 ⟨a, List.mem_cons_self, hin⟩)
      exact Nat.not_lt.2 hle (h.recalled handle hm)
    simpa [isLive, ha] using hfree

/-- An event is put in, and from then on `n` is the next handle. -/
lemma put {time : Timestamp} {event : Event}
    (h : Shows handles g c (⟨time, g.nextSeq, event⟩ :: es)) (n : Nat) (hn : g.nextHandle ≤ n)
    (hes : ∀ handle ∈ es.filterMap (handleIn? handles), n ≤ handle.val) :
    Shows handles ({ g with nextHandle := n }.push time event)
      ({ c with nextHandle := n }.push time event) es := by
  have hperm := Appointment.perm_insert ⟨time, g.nextSeq, event⟩ g.appointments
  constructor
  · exact Appointment.ordered_insert h.ordered fun p hp => (Nat.ne_of_lt (h.numbered p hp)).symm
  · intro p hp
    rcases List.mem_cons.1 (hperm.mem_iff.1 hp) with rfl | hp
    · exact Nat.lt_succ_self _
    · exact Nat.lt_succ_of_lt (h.numbered p hp)
  · exact h.cancelled
  · exact fun handle hm => Nat.lt_of_lt_of_le (h.recalled handle hm) hn
  · refine (((hperm.append_right es).trans ?_).filterMap (handleIn? handles)).nodup_iff.2 h.distinct
    exact List.perm_middle.symm
  · exact hes
  · refine (hperm.filter (isLive g.cancelled)).trans ?_
    rw [List.filter_cons_of_pos h.isLive_of_cons]
    simp only [Calendar.push, h.nextSeq]
    exact (h.live.cons _).trans (List.perm_append_singleton _ _).symm
  · intro p hp hd
    rcases List.mem_cons.1 (hperm.mem_iff.1 hp) with rfl | hp
    · exact absurd h.isLive_of_cons hd
    · exact h.dead p hp hd
  · exact congrArg Nat.succ h.nextSeq
  · rfl

lemma push {time : Timestamp} {event : Event}
    (h : Shows handles g c (⟨time, g.nextSeq, event⟩ :: es)) :
    Shows handles (g.push time event) (c.push time event) es := by
  have hput := h.put g.nextHandle (Nat.le_refl _) fun handle hm =>
    h.unused handle (((List.sublist_cons_self _ _).filterMap _).subset hm)
  have hc : { c with nextHandle := g.nextHandle } = c := by rw [← h.nextHandle]
  rwa [hc] at hput

lemma schedule {node : NodeId} {time : Timestamp} {timer : Timer}
    (h : Shows handles g c (⟨time, g.nextSeq, .timer node ⟨g.nextHandle⟩ timer⟩ :: es)) :
    Shows handles
      ({ g with nextHandle := g.nextHandle + 1 }.push time (.timer node ⟨g.nextHandle⟩ timer))
      ({ c with nextHandle := c.nextHandle + 1 }.push time (.timer node ⟨c.nextHandle⟩ timer))
      es := by
  rw [h.nextHandle]
  refine h.put (g.nextHandle + 1) (Nat.le_succ _) fun handle hm => ?_
  have hle : g.nextHandle ≤ handle.val :=
    h.unused handle (((List.sublist_cons_self _ _).filterMap _).subset hm)
  refine Nat.lt_of_le_of_ne hle fun he => ?_
  have hhandle : (⟨g.nextHandle⟩ : TimerHandle) = handle := by
    cases handle
    exact congrArg TimerHandle.mk he
  have hfirst : handleIn? handles ⟨time, g.nextSeq, .timer node ⟨g.nextHandle⟩ timer⟩ =
      some handle := by
    obtain ⟨a, -, ha⟩ := List.mem_filterMap.1 hm
    exact handleIn?_eq_some_iff.2 ⟨congrArg some hhandle, (handleIn?_eq_some_iff.1 ha).2⟩
  -- The handle would be given out twice.
  have hnodup :=
    h.distinct.sublist ((List.sublist_append_right _ _).filterMap (handleIn? handles))
  rw [List.filterMap_cons_some hfirst] at hnodup
  exact (List.nodup_cons.1 hnodup).1 hm

lemma cancel (h : Shows handles g c es) {handle : TimerHandle} (hm : handle ∈ handles) :
    Shows handles (g.cancel handle) (c.strike handle) es := by
  simp only [Agenda.cancel, Calendar.strike, h.nextHandle]
  split
  · rename_i hlt
    refine ⟨h.ordered, h.numbered, fun p hp => ?_, fun p hp => ?_, h.distinct, h.unused, ?_,
      fun p hp hd => ?_, h.nextSeq, rfl⟩
    · rcases List.mem_insert_iff.1 hp with rfl | hp
      · exact hm
      · exact h.cancelled hp
    · rcases List.mem_insert_iff.1 hp with rfl | hp
      · exact hlt
      · exact h.recalled p hp
    · have hlive : isLive (g.cancelled.insert handle) = fun a =>
          a.isLive g.cancelled && !(a.handle? == some handle) :=
        funext fun a => isLive_insert a handle
      simp only [hlive, Bool.and_comm, ← List.filter_filter]
      exact h.live.filter _
    · by_cases hl : p.isLive g.cancelled
      · have hp' : p ∈ c.pending := h.live.mem_iff.1 (List.mem_filter.2 ⟨hp, hl⟩)
        have hnamed : p.handle? == some handle := by
          simpa [isLive_insert, hl] using hd
        exact List.mem_append_right _ (List.mem_filter.2 ⟨hp', hnamed⟩)
      · exact List.mem_append_left _ (h.dead p hp hl)
  · exact h

/-- What is taken out is the first of what the calendar has to come. -/
lemma take (h : Shows handles g c es) (limit : Timestamp) :
    (g.popDue limit).1 = c.first? limit ∧
      Shows handles (g.popDue limit).2
        { c with pending := (c.first? limit).elim c.pending c.pending.erase } es ∧
      ((g.popDue limit).1 = none → ∀ a ∈ c.pending, limit < a.time) := by
  obtain ⟨found, rest, cancelled, htake⟩ :
      ∃ found rest cancelled, takeDue limit g.cancelled g.appointments = (found, rest, cancelled) :=
    ⟨_, _, _, rfl⟩
  have hnodup :=
    h.distinct.sublist ((List.sublist_append_left _ _).filterMap (handleIn? handles))
  obtain ⟨hsub, hlive⟩ := live_takeDue hnodup h.cancelled htake
  obtain ⟨hleft, hdue⟩ := sublist_takeDue htake
  have hrest : rest.Sublist g.appointments := (List.sublist_append_right _ _).trans hleft
  have hpending : (found.toList ++ rest.filter (isLive cancelled)).Perm c.pending :=
    hlive ▸ h.live
  have hnone (hf : found = none) (a : Appointment) (ha : a ∈ c.pending) : limit < a.time := by
    subst hf
    refine lt_of_takeDue (h.ordered.imp Appointment.le_of_before) htake a ?_
    exact List.mem_of_mem_filter (hpending.mem_iff.2 ha)
  have hfirst : c.first? limit = found := by
    refine Calendar.first?_of_perm hpending (h.ordered.sublist (.trans ?_ hleft)) hdue hnone
    exact List.filter_sublist.append_left found.toList
  have hpop : g.popDue limit =
      (found, { g with appointments := rest, cancelled := cancelled }) := by
    simp only [popDue, htake]
  rw [hpop, hfirst]
  refine ⟨rfl, ⟨h.ordered.sublist hrest, fun p hp => h.numbered p (hrest.subset hp),
    fun _ hp => h.cancelled (hsub.subset hp), fun p hp => h.recalled p (hsub.subset hp),
    h.distinct.sublist ((hrest.append_right es).filterMap _), h.unused, ?_,
    fun p hp hd => h.dead p (hrest.subset hp) fun hl => hd (isLive_mono hsub.subset hl),
    h.nextSeq, h.nextHandle⟩, hnone⟩
  cases found with
  | none => exact hpending
  | some a => exact (List.cons_perm_iff_perm_erase.1 hpending).2

/-- One request is answered alike. -/
lemma serve {r : Request}
    (h : Shows handles g c (Request.entries g.nextSeq g.nextHandle (r :: rs)))
    (hr : ∀ handle, r.cancels? = some handle → handle ∈ handles) :
    (g.serve r).1 = (c.serve r).1 ∧
      Shows handles (g.serve r).2 (c.serve r).2
        (Request.entries (g.serve r).2.nextSeq (g.serve r).2.nextHandle rs) := by
  cases r with
  | push time event => exact ⟨rfl, h.push⟩
  | schedule node now delay timer => exact ⟨rfl, h.schedule⟩
  | cancel handle =>
    refine ⟨rfl, ?_⟩
    simp only [Agenda.serve, cancel_nextSeq, cancel_nextHandle]
    exact Shows.cancel h (hr handle rfl)
  | take limit =>
    obtain ⟨hfound, hshows, -⟩ := Shows.take h limit
    simp only [Agenda.serve, Calendar.serve]
    rw [hfound]
    cases hf : c.first? limit with
    | none =>
      rw [hf] at hshows
      exact ⟨rfl, hshows⟩
    | some a =>
      rw [hf] at hshows
      exact ⟨rfl, hshows⟩

/-- All requests are answered alike. -/
lemma answers (h : Shows handles g c (Request.entries g.nextSeq g.nextHandle (rs ++ later)))
    (hrs : rs.filterMap Request.cancels? ⊆ handles) :
    g.answers rs = c.answers rs ∧
      Shows handles (g.after rs) (c.after rs)
        (Request.entries (g.after rs).nextSeq (g.after rs).nextHandle later) := by
  induction rs generalizing g c with
  | nil => exact ⟨rfl, h⟩
  | cons r rs ih =>
    have hr (handle : TimerHandle) (he : r.cancels? = some handle) : handle ∈ handles :=
      hrs (List.mem_filterMap.2 ⟨r, List.mem_cons_self, he⟩)
    have hrest : rs.filterMap Request.cancels? ⊆ handles :=
      List.Subset.trans ((List.sublist_cons_self r rs).filterMap _).subset hrs
    obtain ⟨hanswer, hshows⟩ := serve h hr
    obtain ⟨hanswers, hshows⟩ := ih hshows hrest
    refine ⟨?_, hshows⟩
    simp only [Agenda.answers, Calendar.answers]
    rw [hanswer, hanswers]

lemma answers_eq (h : Shows handles g c (Request.entries g.nextSeq g.nextHandle rs))
    (hrs : rs.filterMap Request.cancels? ⊆ handles) : g.answers rs = c.answers rs := by
  rw [← List.append_nil rs] at h
  exact (h.answers hrs).1

/-- What an agenda has besides the calendar are timers that were struck off. -/
lemma exists_left (h : Shows handles g c es) :
    ∃ left, left.Subperm c.struck ∧ g.appointments.Perm (c.pending ++ left) := by
  have hnodup : g.appointments.Nodup := by
    refine h.ordered.imp ?_
    rintro a b hb rfl
    exact Appointment.before_asymm hb hb
  refine ⟨g.appointments.filter fun a => !a.isLive g.cancelled, ?_, ?_⟩
  · refine List.subperm_of_subset (hnodup.filter _) fun a ha => ?_
    obtain ⟨ha, hd⟩ := List.mem_filter.1 ha
    exact h.dead a ha (by simpa using hd)
  · exact (List.filter_append_perm _ _).symm.trans (h.live.append_right _)

end Shows

/-! ### What is put in, once each -/

namespace Request

/-- Whether no timer is pushed. -/
def Plain : Request → Prop
  | .push _ event => ∀ node handle timer, event ≠ .timer node handle timer
  | _ => True

lemma le_seq_of_mem_entries {seq next : Nat} {a : Appointment} (h : a ∈ entries seq next rs) :
    seq ≤ a.seq := by
  induction rs generalizing seq next with
  | nil => cases h
  | cons r rs ih =>
    cases r with
    | push | schedule =>
      rcases List.mem_cons.1 h with rfl | h
      · exact Nat.le_refl _
      · exact Nat.le_of_succ_le (ih h)
    | cancel | take => exact ih h

lemma nodup_entries (seq next : Nat) (rs : List Request) : (entries seq next rs).Nodup := by
  have hnew {seq next : Nat} {rs : List Request} {a : Appointment} (ha : a.seq = seq) :
      a ∉ entries (seq + 1) next rs :=
    fun hm => Nat.not_succ_le_self _ (ha ▸ le_seq_of_mem_entries hm)
  induction rs generalizing seq next with
  | nil => exact .nil
  | cons r rs ih =>
    cases r with
    | push | schedule => exact List.nodup_cons.2 ⟨hnew rfl, ih _ _⟩
    | cancel | take => exact ih _ _

/-- The handles under which timers are scheduled go up. -/
lemma ascending_handles (h : ∀ r ∈ rs, r.Plain) (seq next : Nat) :
    (((entries seq next rs).filterMap Appointment.handle?).Pairwise fun p q => p.val < q.val) ∧
      ∀ handle ∈ (entries seq next rs).filterMap Appointment.handle?, next ≤ handle.val := by
  induction rs generalizing seq next with
  | nil => exact ⟨.nil, List.forall_mem_nil _⟩
  | cons r rs ih =>
    obtain ⟨hr, hrs⟩ := List.forall_mem_cons.1 h
    cases r with
    | push time event =>
      have hnone : Appointment.handle? ⟨time, seq, event⟩ = none := by
        cases event with
        | timer node handle timer => exact absurd rfl (hr node handle timer)
        | delivery | departure => rfl
      rw [entries, List.filterMap_cons_none hnone]
      exact ih hrs _ _
    | schedule node now delay timer =>
      obtain ⟨hlt, hle⟩ := ih hrs (seq + 1) (next + 1)
      refine ⟨List.pairwise_cons.2 ⟨hle, hlt⟩, ?_⟩
      intro handle hm
      rcases List.mem_cons.1 hm with rfl | hm
      · exact Nat.le_refl _
      · exact Nat.le_of_succ_le (hle handle hm)
    | cancel | take => exact ih hrs _ _

/-- Scheduling gives every timer a handle of its own. -/
lemma namesOnce_of_plain (h : ∀ r ∈ rs, r.Plain) : NamesOnce rs := by
  have hnodup : ((entries 0 0 rs).filterMap Appointment.handle?).Nodup := by
    refine (ascending_handles h 0 0).1.imp fun hlt he => ?_
    exact Nat.ne_of_lt hlt (congrArg TimerHandle.val he)
  have hin : handleIn? (rs.filterMap cancels?) =
      fun a => (Appointment.handle? a).filter (rs.filterMap cancels?).contains := rfl
  rw [NamesOnce, hin, ← List.filter_filterMap]
  exact hnodup.filter _

end Request

/-- What holds after some requests, if they are followed by others that cancel no handle under which
two timers are put in. -/
lemma shows_after (rs later : List Request) (h : Request.NamesOnce (rs ++ later)) :
    empty.answers rs = Calendar.empty.answers rs ∧
      Shows ((rs ++ later).filterMap Request.cancels?) (empty.after rs) (Calendar.empty.after rs)
        (Request.entries (empty.after rs).nextSeq (empty.after rs).nextHandle later) :=
  (Shows.empty h).answers ((List.sublist_append_left rs later).filterMap _).subset

/-- By what it takes out, an agenda does for any requests what a calendar does that strikes timers
off when they are cancelled, if no two timers are put in under a handle that is cancelled. What is
taken out is the first of what was put in and was neither taken out nor cancelled while it was to
come, if that is due. Whatever is put in is taken out, or struck off, or still to come, once each.
What the agenda holds on to besides what is still to come are timers that were struck off. To cancel
a timer that is not to come, or a handle that was not given out, makes no difference to anything
that is asked for later. -/
theorem cancels_at_once (rs : List Request) (h : Request.NamesOnce rs) :
    empty.answers rs = Calendar.empty.answers rs ∧
      (∀ limit,
        (∀ a, ((empty.after rs).popDue limit).1 = some a ↔
          a ∈ (Calendar.empty.after rs).pending ∧ a.time ≤ limit ∧
            ∀ b ∈ (Calendar.empty.after rs).pending, b ≠ a → a.before b) ∧
        (((empty.after rs).popDue limit).1 = none ↔
          ∀ a ∈ (Calendar.empty.after rs).pending, limit < a.time)) ∧
      ((Request.entries 0 0 rs).Nodup ∧
        ((empty.answers rs).reduceOption ++
          ((Calendar.empty.after rs).pending ++ (Calendar.empty.after rs).struck)).Perm
            (Request.entries 0 0 rs)) ∧
      (∃ left, left.Subperm (Calendar.empty.after rs).struck ∧
        (empty.after rs).appointments.Perm ((Calendar.empty.after rs).pending ++ left)) ∧
      ∀ handle rs', Request.NamesOnce (rs ++ .cancel handle :: rs') →
        (handle.val < (Calendar.empty.after rs).nextHandle →
          ∀ a ∈ (Calendar.empty.after rs).pending, a.handle? ≠ some handle) →
        ((empty.after rs).cancel handle).answers rs' = (empty.after rs).answers rs' := by
  obtain ⟨hanswers, hshows⟩ := shows_after rs [] (by rwa [List.append_nil])
  refine ⟨hanswers, fun limit => ?_, ⟨Request.nodup_entries 0 0 rs, ?_⟩, hshows.exists_left, ?_⟩
  · obtain ⟨hfound, -, hnone⟩ := hshows.take limit
    refine ⟨fun a => by rw [hfound, Calendar.first?_eq_some_iff], hnone, fun hlate => ?_⟩
    rw [hfound, Calendar.first?_eq_none hlate]
  · rw [hanswers]
    exact Calendar.perm_entries .empty rs
  · intro handle rs' hn hgone
    obtain ⟨-, hshows'⟩ := shows_after rs (.cancel handle :: rs') hn
    have hm : handle ∈ (rs ++ .cancel handle :: rs').filterMap Request.cancels? := by
      simp [Request.cancels?]
    have hin : rs'.filterMap Request.cancels? ⊆
        (rs ++ .cancel handle :: rs').filterMap Request.cancels? := by
      refine (List.Sublist.filterMap _ ?_).subset
      exact (List.sublist_cons_self _ rs').trans (List.sublist_append_right _ _)
    have hstrike : (Calendar.empty.after rs).strike handle = Calendar.empty.after rs :=
      Calendar.strike_of_gone hgone
    rw [Request.entries_cancel] at hshows'
    have hcancel := hshows'.cancel hm
    rw [hstrike, ← cancel_nextSeq _ handle, ← cancel_nextHandle _ handle] at hcancel
    rw [hcancel.answers_eq hin, hshows'.answers_eq hin]

/-- A departure, and two timers that are due at one time, the second of which is cancelled. The
first one is taken out, and the handle of a timer that was never armed is cancelled. -/
def crossedOut : List Request :=
  [.push ⟨5⟩ (.departure ⟨1⟩), .schedule ⟨1⟩ .start (.ofMicros 3) .send,
    .schedule ⟨1⟩ .start (.ofMicros 3) .upkeep, .cancel ⟨1⟩, .take ⟨4⟩, .cancel ⟨9⟩]

theorem crossedOut_answers :
    Request.NamesOnce crossedOut ∧
      Request.NamesOnce (crossedOut ++ .cancel ⟨0⟩ :: [.take ⟨9⟩, .take ⟨9⟩]) ∧
      empty.answers crossedOut =
        [none, none, none, none, some ⟨⟨3⟩, 1, .timer ⟨1⟩ ⟨0⟩ .send⟩, none] ∧
      ((empty.after crossedOut).cancel ⟨0⟩).answers [.take ⟨9⟩, .take ⟨9⟩] =
        [some ⟨⟨5⟩, 0, .departure ⟨1⟩⟩, none] := by
  have hplain : ∀ r ∈ crossedOut ++ .cancel ⟨0⟩ :: [.take ⟨9⟩, .take ⟨9⟩], r.Plain := by
    simp [crossedOut, Request.Plain]
  have hall := Request.namesOnce_of_plain hplain
  have hn : Request.NamesOnce crossedOut :=
    Request.namesOnce_of_plain fun r hr => hplain r (List.mem_append_left _ hr)
  obtain ⟨hanswers, -, -, -, hgone⟩ := cancels_at_once crossedOut hn
  refine ⟨hn, hall, hanswers.trans (by decide), (hgone ⟨0⟩ _ hall (by decide)).trans (by decide)⟩

/-- A timer is pushed under the handle of a scheduled one, and both are cancelled. -/
def sharedHandle : List Request :=
  [.push ⟨5⟩ (.timer ⟨1⟩ ⟨0⟩ .upkeep), .schedule ⟨1⟩ .start (.ofMicros 3) .send, .cancel ⟨0⟩,
    .take ⟨9⟩]

/-- A timer goes off. -/
def wornHandle : List Request := [.schedule ⟨1⟩ .start (.ofMicros 3) .send, .take ⟨9⟩]

/-- A timer is cancelled before it is due. -/
def crossedOutEarly : List Request := [.schedule ⟨1⟩ .start (.ofMicros 3) .send, .cancel ⟨0⟩]

/-- Of two timers that are cancelled under one handle, only the first that comes due is passed over.
To cancel the handle of a timer that has gone off lets one be passed over that is put in under it
later. And a timer that is cancelled is held on to. -/
theorem shared_handle_misleads :
    (empty.answers sharedHandle = [none, none, none, some ⟨⟨5⟩, 0, .timer ⟨1⟩ ⟨0⟩ .upkeep⟩] ∧
      Calendar.empty.answers sharedHandle = [none, none, none, none]) ∧
    ((empty.after wornHandle).answers [.push ⟨5⟩ (.timer ⟨1⟩ ⟨0⟩ .send), .take ⟨9⟩] =
        [none, some ⟨⟨5⟩, 1, .timer ⟨1⟩ ⟨0⟩ .send⟩] ∧
      ((empty.after wornHandle).cancel ⟨0⟩).answers [.push ⟨5⟩ (.timer ⟨1⟩ ⟨0⟩ .send), .take ⟨9⟩] =
        [none, none]) ∧
    ((empty.after crossedOutEarly).size = 1 ∧ (empty.after crossedOutEarly).nextTime? = some ⟨3⟩ ∧
      (Calendar.empty.after crossedOutEarly).pending = []) := by
  decide

end Agenda

end ClusterWave
