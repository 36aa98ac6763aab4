import ClusterWave.Proofs.Time
import ClusterWave.Simulation.Agenda
import ClusterWave.Wire.Codec
import Mathlib.Data.List.Perm.Basic
import Mathlib.Tactic.Lemma

/-!
# What comes into an agenda and goes out of it

Whatever is put into an agenda joins the appointments that are there. What is taken out was there
and is due, and nothing else comes in on the way. What a node asks for ends up as an appointment of
one form for each effect.
-/

namespace ClusterWave

lemma Appointment.perm_insert (a : Appointment) (as : List Appointment) :
    (insert a as).Perm (a :: as) := by
  induction as with
  | nil => exact .refl _
  | cons b rest ih =>
    simp only [insert]
    split
    · exact .refl _
    · exact (ih.cons b).trans (.swap a b rest)

/-- What is due before everything else comes first. -/
lemma Appointment.insert_of_forall_lt {a : Appointment} {as : List Appointment}
    (h : ∀ b ∈ as, a.time < b.time) : insert a as = a :: as := by
  cases as with
  | nil => rfl
  | cons b rest =>
    have hb : a.before b = true := by simp [before, h b List.mem_cons_self]
    rw [insert, if_pos hb]

lemma Appointment.before_iff {a b : Appointment} :
    a.before b ↔ a.time < b.time ∨ a.time = b.time ∧ a.seq < b.seq := by
  simp [before]

lemma Appointment.le_of_before {a b : Appointment} (h : a.before b) : a.time ≤ b.time := by
  rcases before_iff.1 h with hlt | ⟨he, -⟩
  · exact Timestamp.le_of_lt hlt
  · exact he ▸ Timestamp.le_refl _

/-- An order of appointments is kept if the new one stands in it to all that it comes before or
after. -/
lemma Appointment.pairwise_insert {R : Appointment → Appointment → Prop} {a : Appointment}
    {as : List Appointment} (htrans : ∀ p q, R a p → R p q → R a q) (h : as.Pairwise R)
    (hbefore : ∀ p ∈ as, a.before p → R a p) (hafter : ∀ p ∈ as, ¬ a.before p → R p a) :
    (insert a as).Pairwise R := by
  induction as with
  | nil => exact List.pairwise_singleton _ _
  | cons b rest ih =>
    obtain ⟨hb, hrest⟩ := List.pairwise_cons.1 h
    simp only [insert]
    split
    · rename_i hab
      have hhead := hbefore b List.mem_cons_self hab
      refine List.pairwise_cons.2 ⟨?_, h⟩
      intro p hp
      rcases List.mem_cons.1 hp with rfl | hp
      · exact hhead
      · exact htrans b p hhead (hb p hp)
    · rename_i hab
      refine List.pairwise_cons.2 ⟨?_, ih hrest ?_ ?_⟩
      · intro p hp
        rcases List.mem_cons.1 ((perm_insert a rest).mem_iff.1 hp) with rfl | hp
        · exact hafter b List.mem_cons_self hab
        · exact hb p hp
      · exact fun p hp => hbefore p (List.mem_cons_of_mem b hp)
      · exact fun p hp => hafter p (List.mem_cons_of_mem b hp)

/-- An appointment is put in after what is due earlier and before what is due later. -/
lemma Appointment.sorted_insert (a : Appointment) {as : List Appointment}
    (h : as.Pairwise fun p q => p.time ≤ q.time) :
    (insert a as).Pairwise fun p q => p.time ≤ q.time := by
  refine pairwise_insert (fun _ _ => Timestamp.le_trans) h (fun _ _ => le_of_before) ?_
  intro p _ hn
  exact Timestamp.not_lt.1 fun hlt => hn (before_iff.2 (.inl hlt))

namespace Agenda

variable {ok ok' : Appointment → Prop} {g g' g'' : Agenda}

/-- What is due earlier comes first. -/
def Sorted (g : Agenda) : Prop := g.appointments.Pairwise fun p q => p.time ≤ q.time

lemma Sorted.push (h : g.Sorted) (time : Timestamp) (event : Event) : (g.push time event).Sorted :=
  Appointment.sorted_insert _ h

/-- The numbers of what is in the agenda are given out once, and no others than these were used
for what has been taken out. -/
structure Numbered (used : List Nat) (g : Agenda) : Prop where
  distinct : (used ++ g.appointments.map Appointment.seq).Nodup
  given : ∀ n ∈ used ++ g.appointments.map Appointment.seq, n < g.nextSeq

lemma Numbered.push {used : List Nat} (h : g.Numbered used) (time : Timestamp) (event : Event) :
    (g.push time event).Numbered used := by
  have hp : (used ++ (g.push time event).appointments.map Appointment.seq).Perm
      (g.nextSeq :: (used ++ g.appointments.map Appointment.seq)) :=
    (((Appointment.perm_insert _ _).map Appointment.seq).append_left used).trans
      List.perm_middle
  constructor
  · refine hp.nodup_iff.2 (List.nodup_cons.2 ⟨fun hm => ?_, h.distinct⟩)
    exact Nat.lt_irrefl _ (h.given _ hm)
  · intro n hn
    rcases List.mem_cons.1 (hp.mem_iff.1 hn) with rfl | hn
    · exact Nat.lt_succ_self _
    · exact Nat.lt_succ_of_lt (h.given n hn)

lemma Numbered.of_append {used used' : List Nat} (h : g.Numbered (used ++ used')) :
    g.Numbered used := by
  have hsub : (used ++ g.appointments.map Appointment.seq).Sublist
      (used ++ used' ++ g.appointments.map Appointment.seq) :=
    (List.sublist_append_left _ _).append_right _
  exact ⟨h.distinct.sublist hsub, fun n hn => h.given n (hsub.subset hn)⟩

/-! ### In -/

/-- From one agenda to the other some appointments that pass a test join those that were there. -/
def Grows (ok : Appointment → Prop) (g g' : Agenda) : Prop :=
  ∃ new : List Appointment,
    g'.appointments.Perm (new ++ g.appointments) ∧ ∀ a ∈ new, ok a

namespace Grows

lemma of_eq (h : g'.appointments = g.appointments) : Grows ok g g' := by
  refine ⟨[], ?_, List.forall_mem_nil ok⟩
  rw [h]
  exact .refl _

lemma refl (g : Agenda) : Grows ok g g := of_eq rfl

lemma trans (h : Grows ok g g') (h' : Grows ok g' g'') : Grows ok g g'' := by
  obtain ⟨new, hp, hok⟩ := h
  obtain ⟨new', hp', hok'⟩ := h'
  refine ⟨new' ++ new, ?_, ?_⟩
  · rw [List.append_assoc]
    exact hp'.trans (hp.append_left new')
  · intro a ha
    rcases List.mem_append.1 ha with ha | ha
    · exact hok' a ha
    · exact hok a ha

lemma mono (h : Grows ok g g') (hok : ∀ a, ok a → ok' a) : Grows ok' g g' := by
  obtain ⟨new, hp, hnew⟩ := h
  exact ⟨new, hp, fun a ha => hok a (hnew a ha)⟩

lemma push (g : Agenda) {time : Timestamp} {event : Event} (h : ok ⟨time, g.nextSeq, event⟩) :
    Grows ok g (g.push time event) := by
  refine ⟨[⟨time, g.nextSeq, event⟩], Appointment.perm_insert _ _, ?_⟩
  intro a ha
  rwa [List.mem_singleton.1 ha]

/-- An appointment was there before, or it has passed the test. -/
lemma mem (h : Grows ok g g') {a : Appointment} (ha : a ∈ g'.appointments) :
    a ∈ g.appointments ∨ ok a := by
  obtain ⟨new, hp, hok⟩ := h
  rcases List.mem_append.1 (hp.mem_iff.1 ha) with ha | ha
  · exact .inr (hok a ha)
  · exact .inl ha

end Grows

/-- From one agenda to the other some appointments that pass a test come in, none of which is a
timer. -/
structure Mails (ok : Appointment → Prop) (g g' : Agenda) : Prop where
  packets : g.Grows (fun p => ok p ∧ p.handle? = none) g'
  cancelled : g'.cancelled = g.cancelled
  nextHandle : g'.nextHandle = g.nextHandle
  sorted : g.Sorted → g'.Sorted
  numbered : ∀ used, g.Numbered used → g'.Numbered used

namespace Mails

lemma refl (g : Agenda) : Mails ok g g := ⟨.refl g, rfl, rfl, id, fun _ => id⟩

lemma trans (h : Mails ok g g') (h' : Mails ok g' g'') : Mails ok g g'' :=
  ⟨h.packets.trans h'.packets, h'.cancelled.trans h.cancelled, h'.nextHandle.trans h.nextHandle,
    fun hs => h'.sorted (h.sorted hs), fun used hn => h'.numbered used (h.numbered used hn)⟩

lemma push (g : Agenda) {time : Timestamp} {receiver sender : NodeId} {data : List UInt8}
    (h : ok ⟨time, g.nextSeq, .delivery receiver sender data⟩) :
    Mails ok g (g.push time (.delivery receiver sender data)) :=
  ⟨.push g ⟨h, rfl⟩, rfl, rfl, fun hs => hs.push _ _, fun _ hn => hn.push _ _⟩

lemma grows (h : Mails ok g g') : g.Grows ok g' := h.packets.mono fun _ hp => hp.1

end Mails

/-! ### Out -/

lemma sublist_takeDue {limit : Timestamp} {cancelled cancelled' : List TimerHandle}
    {as rest : List Appointment} {found : Option Appointment}
    (h : takeDue limit cancelled as = (found, rest, cancelled')) :
    (found.toList ++ rest).Sublist as ∧ ∀ a, found = some a → a.time ≤ limit := by
  induction as generalizing cancelled with
  | nil =>
    cases h
    refine ⟨.refl _, ?_⟩
    rintro a ⟨⟩
  | cons b as ih =>
    simp only [takeDue] at h
    split at h
    · cases h
      refine ⟨.refl _, ?_⟩
      rintro a ⟨⟩
    · rename_i hdue
      have htake {c : List TimerHandle} (h : (some b, as, c) = (found, rest, cancelled')) :
          (found.toList ++ rest).Sublist (b :: as) ∧ ∀ a, found = some a → a.time ≤ limit := by
        cases h
        refine ⟨.refl _, ?_⟩
        rintro a ⟨⟩
        exact Nat.not_lt.1 hdue
      split at h
      · split at h
        · obtain ⟨hs, hle⟩ := ih h
          exact ⟨hs.cons b, hle⟩
        · exact htake h
      · exact htake h

/-- What is taken out was there, with all that is left. -/
lemma append_sublist_of_popDue {limit : Timestamp} {found : Option Appointment}
    (h : g.popDue limit = (found, g')) :
    (found.toList ++ g'.appointments).Sublist g.appointments := by
  obtain ⟨hf, rfl⟩ := Prod.mk.inj h
  exact (sublist_takeDue (Prod.ext hf rfl)).1

/-- What is taken out is due and was there, with all that is left. -/
lemma sublist_popDue {limit : Timestamp} {a : Appointment} (h : g.popDue limit = (some a, g')) :
    a.time ≤ limit ∧ (a :: g'.appointments).Sublist g.appointments := by
  refine ⟨?_, append_sublist_of_popDue h⟩
  obtain ⟨ha, rfl⟩ := Prod.mk.inj h
  exact (sublist_takeDue (Prod.ext ha rfl)).2 a rfl

lemma lt_of_takeDue {limit : Timestamp} {cancelled cancelled' : List TimerHandle}
    {as rest : List Appointment} (hs : as.Pairwise fun p q => p.time ≤ q.time)
    (h : takeDue limit cancelled as = (none, rest, cancelled')) : ∀ p ∈ rest, limit < p.time := by
  induction as generalizing cancelled with
  | nil =>
    cases h
    intro p hp
    cases hp
  | cons q as ih =>
    obtain ⟨hq, hs⟩ := List.pairwise_cons.1 hs
    simp only [takeDue] at h
    split at h
    · rename_i hlt
      cases h
      intro p hp
      rcases List.mem_cons.1 hp with rfl | hp
      · exact hlt
      · exact Timestamp.lt_of_lt_of_le hlt (hq p hp)
    · split at h
      · split at h
        · exact ih hs h
        · cases h
      · cases h

lemma Sorted.popDue (hg : g.Sorted) {limit : Timestamp} {found : Option Appointment}
    (h : g.popDue limit = (found, g')) : g'.Sorted :=
  hg.sublist ((List.sublist_append_right _ _).trans (append_sublist_of_popDue h))

/-- The number of what is taken out is used from then on. -/
lemma Numbered.popDue {used : List Nat} (hg : g.Numbered used) {limit : Timestamp}
    {found : Option Appointment} (h : g.popDue limit = (found, g')) :
    g'.Numbered (used ++ found.toList.map Appointment.seq) := by
  have hsub := ((append_sublist_of_popDue h).map Appointment.seq).append_left used
  obtain ⟨-, rfl⟩ := Prod.mk.inj h
  rw [List.map_append, ← List.append_assoc] at hsub
  exact ⟨hg.distinct.sublist hsub, fun n hn => hg.given n (hsub.subset hn)⟩

/-- If nothing is due, what is left comes later. -/
lemma Sorted.lt_of_popDue (hg : g.Sorted) {limit : Timestamp} {a : Appointment}
    (h : g.popDue limit = (none, g')) (ha : a ∈ g'.appointments) : limit < a.time := by
  obtain ⟨hf, rfl⟩ := Prod.mk.inj h
  exact lt_of_takeDue hg (Prod.ext hf rfl) a ha

end Agenda

/-! ### Effects -/

/-- The appointments that come of what the node `id` asks for at a given time. -/
inductive Effect.Books (id : NodeId) (now : Timestamp) : Effect → Appointment → Prop where
  | timer (handle handle' : TimerHandle) (delay : Duration) (timer : Timer) (seq : Nat) :
      Books id now (.schedule handle delay timer) ⟨now + delay, seq, .timer id handle' timer⟩
  | broadcast (packet : Packet) (receiver : NodeId) (latency : Duration) (seq : Nat) :
      Books id now (.broadcast packet)
        ⟨now + latency, seq, .delivery receiver id (encode packet)⟩
  | send (packet : Packet) (receiver : NodeId) (latency : Duration) (seq : Nat) :
      Books id now (.send receiver packet)
        ⟨now + latency, seq, .delivery receiver id (encode packet)⟩

namespace Agenda

variable {ok : Appointment → Prop}

lemma grows_apply {id : NodeId} {now : Timestamp} (g : Agenda) {e : Effect}
    (h : ∀ a, e.Books id now a → ok a) : g.Grows ok (apply id now g e) := by
  cases e with
  | schedule => exact .push { g with nextHandle := g.nextHandle + 1 } (h _ (.timer _ _ _ _ _))
  | cancel handle =>
    simp only [apply, cancel]
    split
    · exact .of_eq rfl
    · exact .refl g
  | broadcast => exact .refl g
  | send => exact .refl g

lemma grows_foldl_apply {id : NodeId} {now : Timestamp} (es : List Effect) (g : Agenda)
    (h : ∀ e ∈ es, ∀ a, e.Books id now a → ok a) : g.Grows ok (es.foldl (apply id now) g) := by
  refine List.foldlRecOn (motive := fun g' => g.Grows ok g') _ _ (.refl g) ?_
  intro g' hg e he
  exact hg.trans (grows_apply g' (h e he))

lemma Sorted.foldl_apply {g : Agenda} (hg : g.Sorted) (id : NodeId) (now : Timestamp)
    (es : List Effect) : (es.foldl (apply id now) g).Sorted := by
  refine List.foldlRecOn (motive := Sorted) _ _ hg ?_
  intro g' hg' e _
  cases e with
  | schedule handle delay timer => exact Appointment.sorted_insert _ hg'
  | cancel handle =>
    simp only [apply, cancel]
    split
    · exact hg'
    · exact hg'
  | broadcast => exact hg'
  | send => exact hg'

lemma Numbered.foldl_apply {g : Agenda} {used : List Nat} (hg : g.Numbered used) (id : NodeId)
    (now : Timestamp) (es : List Effect) : (es.foldl (apply id now) g).Numbered used := by
  refine List.foldlRecOn (motive := Numbered used) _ _ hg ?_
  intro g' hg' e _
  cases e with
  | schedule handle delay timer =>
    exact Numbered.push (g := { g' with nextHandle := g'.nextHandle + 1 })
      ⟨hg'.distinct, hg'.given⟩ _ _
  | cancel handle =>
    simp only [apply, cancel]
    split
    · exact ⟨hg'.distinct, hg'.given⟩
    · exact hg'
  | broadcast => exact hg'
  | send => exact hg'

end Agenda

end ClusterWave
