import ClusterWave.Node.Bench
import ClusterWave.Proofs.Node.Asked
import Mathlib.Data.List.Pairwise

/-!
# Alarms

Alarms are kept in the order in which they go off, each with a handle of its own. What a node asks
for leaves them so: whatever is armed gets the next handle, and cancelling only takes alarms away.
-/

namespace ClusterWave

namespace Alarm

variable {a b c : Alarm} {as : List Alarm} {n n' : Nat}

/-! ### The order of alarms -/

lemma before_iff : a.before b ↔ a.due < b.due ∨ a.due = b.due ∧ a.handle.val < b.handle.val := by
  simp [before]

lemma not_before_self (a : Alarm) : ¬ a.before a := by simp [before_iff]

lemma before_trans (h : a.before b) (h' : b.before c) : a.before c := by
  rw [before_iff] at h h' ⊢
  exact Timestamp.tie_trans h h'

lemma before_of_not (h : ¬ a.before b) (hne : a.handle ≠ b.handle) : b.before a := by
  rw [before_iff] at h ⊢
  exact Timestamp.tie_of_not h fun he => hne (congrArg TimerHandle.mk he)

@[simp] lemma mem_insert : b ∈ insert a as ↔ b = a ∨ b ∈ as := by
  induction as with
  | nil => simp [insert]
  | cons c cs ih =>
    rw [insert]
    split
    · exact List.mem_cons
    · rw [List.mem_cons, ih, List.mem_cons, or_left_comm]

/-- The alarms at a time at which `n` is the next handle. -/
structure Orderly (as : List Alarm) (n : Nat) : Prop where
  sorted : as.Pairwise fun a b => a.before b
  distinct : as.Pairwise fun a b => a.handle ≠ b.handle
  fresh : ∀ a ∈ as, a.handle.val < n

namespace Orderly

lemma nil (n : Nat) : Orderly [] n := ⟨.nil, .nil, by simp⟩

lemma mono (h : Orderly as n) (hle : n ≤ n') : Orderly as n' :=
  { h with fresh := fun a ha => Nat.lt_of_lt_of_le (h.fresh a ha) hle }

lemma filter (h : Orderly as n) (p : Alarm → Bool) : Orderly (as.filter p) n :=
  ⟨h.sorted.filter p, h.distinct.filter p, fun a ha => h.fresh a (List.mem_filter.1 ha).1⟩

lemma erase (h : Orderly as n) (a : Alarm) : Orderly (as.erase a) n :=
  ⟨h.sorted.sublist List.erase_sublist, h.distinct.sublist List.erase_sublist,
    fun b hb => h.fresh b (List.mem_of_mem_erase hb)⟩

lemma tail (h : Orderly (a :: as) n) : Orderly as n :=
  ⟨h.sorted.tail, h.distinct.tail, fun b hb => h.fresh b (List.mem_cons_of_mem a hb)⟩

lemma insert (h : Orderly as n) (due : Timestamp) (timer : Timer) :
    Orderly (Alarm.insert ⟨due, ⟨n⟩, timer⟩ as) (n + 1) := by
  induction as with
  | nil =>
    refine ⟨List.pairwise_singleton _ _, List.pairwise_singleton _ _, fun b hb => ?_⟩
    rw [List.mem_singleton.1 hb]
    exact Nat.lt_succ_self n
  | cons c cs ih =>
    have hne (b : Alarm) (hb : b ∈ c :: cs) : (⟨n⟩ : TimerHandle) ≠ b.handle := fun he =>
      Nat.lt_irrefl _ (he.symm ▸ h.fresh b hb : (⟨n⟩ : TimerHandle).val < n)
    have hs := List.pairwise_cons.1 h.sorted
    have hd := List.pairwise_cons.1 h.distinct
    have ht := ih h.tail
    rw [Alarm.insert]
    split
    · rename_i hb
      refine ⟨List.pairwise_cons.2 ⟨fun b hm => ?_, h.sorted⟩,
        List.pairwise_cons.2 ⟨hne, h.distinct⟩, fun b hm => ?_⟩
      · rcases List.mem_cons.1 hm with rfl | hm
        · exact hb
        · exact before_trans hb (hs.1 b hm)
      · rcases List.mem_cons.1 hm with rfl | hm
        · exact Nat.lt_succ_self n
        · exact Nat.lt_succ_of_lt (h.fresh b hm)
    · rename_i hb
      refine ⟨List.pairwise_cons.2 ⟨fun b hm => ?_, ht.sorted⟩,
        List.pairwise_cons.2 ⟨fun b hm => ?_, ht.distinct⟩, fun b hm => ?_⟩
      · rcases mem_insert.1 hm with rfl | hm
        · exact before_of_not hb (hne c List.mem_cons_self)
        · exact hs.1 b hm
      · rcases mem_insert.1 hm with rfl | hm
        · exact (hne c List.mem_cons_self).symm
        · exact hd.1 b hm
      · rcases List.mem_cons.1 hm with rfl | hm
        · exact Nat.lt_succ_of_lt (h.fresh b List.mem_cons_self)
        · exact ht.fresh b hm

/-- The first alarm goes off before every other one. -/
lemma before_of_mem (h : Orderly (a :: as) n) (hb : b ∈ as) : a.before b :=
  (List.pairwise_cons.1 h.sorted).1 b hb

lemma ne_of_mem (h : Orderly (a :: as) n) (hb : b ∈ as) : a.handle ≠ b.handle :=
  (List.pairwise_cons.1 h.distinct).1 b hb

/-- Alarms are known by their handles. -/
lemma eq_of_handle (h : Orderly as n) (ha : a ∈ as) (hb : b ∈ as) (he : a.handle = b.handle) :
    a = b := by
  have : Std.Symm fun a b : Alarm => a.handle ≠ b.handle := ⟨fun _ _ => Ne.symm⟩
  by_contra hne
  exact h.distinct.forall ha hb hne he

/-- An alarm is there once. -/
lemma not_mem_erase (h : Orderly as n) (a : Alarm) : a ∉ as.erase a := by
  have hnd : as.Nodup := h.distinct.imp fun hne he => hne (congrArg Alarm.handle he)
  exact hnd.not_mem_erase

end Orderly

end Alarm

/-! ### Carrying effects out -/

/-- The alarms after the effects of an outbox are carried out. -/
def Outbox.alarms (o : Outbox) (now : Timestamp) (as : List Alarm) : List Alarm :=
  o.effects.foldl (Alarm.apply now) as

namespace Outbox

variable {now : Timestamp} {as : List Alarm} {ok : Effect → Prop} {o o' : Outbox}

lemma alarms_add (o : Outbox) (e : Effect) (now : Timestamp) (as : List Alarm) :
    (o.add e).alarms now as = Alarm.apply now (o.alarms now as) e := by
  simp [alarms, add]

@[simp] lemma alarms_schedule (o : Outbox) (delay : Duration) (timer : Timer) (now : Timestamp)
    (as : List Alarm) : (o.schedule delay timer).alarms now as =
      Alarm.insert ⟨now + delay, o.handle, timer⟩ (o.alarms now as) := alarms_add o _ now as

@[simp] lemma alarms_cancel (o : Outbox) (handle : TimerHandle) (now : Timestamp)
    (as : List Alarm) :
    (o.cancel handle).alarms now as = (o.alarms now as).filter fun a => a.handle != handle :=
  alarms_add o _ now as

@[simp] lemma alarms_broadcast (o : Outbox) (p : Packet) (now : Timestamp) (as : List Alarm) :
    (o.broadcast p).alarms now as = o.alarms now as := alarms_add o _ now as

@[simp] lemma alarms_send (o : Outbox) (peer : NodeId) (p : Packet) (now : Timestamp)
    (as : List Alarm) : (o.send peer p).alarms now as = o.alarms now as := alarms_add o _ now as

namespace Steps

lemma nextHandle_le (h : Steps ok o o') : o.nextHandle ≤ o'.nextHandle := by
  induction h with
  | refl => exact Nat.le_refl _
  | tail _ h ih =>
    cases h with
    | schedule => exact Nat.le_succ_of_le ih
    | _ => exact ih

lemma orderly (h : Steps ok o o') (ha : Alarm.Orderly (o.alarms now as) o.nextHandle) :
    Alarm.Orderly (o'.alarms now as) o'.nextHandle := by
  induction h with
  | refl => exact ha
  | tail _ h ih =>
    cases h with
    | schedule =>
      rw [alarms_schedule]
      exact ih.insert _ _
    | cancel =>
      rw [alarms_cancel]
      exact ih.filter _
    | broadcast =>
      rw [alarms_broadcast]
      exact ih
    | send =>
      rw [alarms_send]
      exact ih

/-- An alarm was there before, or it was asked for and has a new handle. -/
lemma mem_alarms (h : Steps ok o o') {a : Alarm} (ha : a ∈ o'.alarms now as) :
    a ∈ o.alarms now as ∨ ∃ delay, a.due = now + delay ∧ o.nextHandle ≤ a.handle.val ∧
      ok (.schedule a.handle delay a.timer) := by
  induction h with
  | refl => exact .inl ha
  | tail hs h ih =>
    cases h with
    | schedule hok =>
      rw [alarms_schedule, Alarm.mem_insert] at ha
      rcases ha with rfl | ha
      · exact .inr ⟨_, rfl, nextHandle_le hs, hok⟩
      · exact ih ha
    | cancel =>
      rw [alarms_cancel, List.mem_filter] at ha
      exact ih ha.1
    | broadcast =>
      rw [alarms_broadcast] at ha
      exact ih ha
    | send =>
      rw [alarms_send] at ha
      exact ih ha

end Steps

end Outbox

/-! ### Alarms of a visit -/

section

variable {n : Node} {v : Visit} {t t' : Turn} {as : List Alarm} {a : Alarm}

lemma Move.mem_alarms (m : Move n v t t') (ha : a ∈ t'.outbox.alarms t'.now as) :
    a ∈ t.outbox.alarms t.now as ∨ ∃ delay, a.due = t'.now + delay ∧
      t.outbox.nextHandle ≤ a.handle.val ∧ Asked n v t' (.schedule a.handle delay a.timer) := by
  rw [m.alike.now] at ha ⊢
  exact m.asked.mem_alarms ha

/-- An alarm was there before the visit, or it was asked for in it. -/
lemma Node.mem_alarms_visit (n : Node) (v : Visit)
    (ha : a ∈ (n.visit v).outbox.alarms v.now as) :
    a ∈ as ∨ ∃ t handle delay, Asked n v t (.schedule handle delay a.timer) := by
  refine ((moves_visit n v).induct (P := fun t => t.now = v.now ∧
    (a ∈ t.outbox.alarms v.now as → a ∈ as ∨ ∃ t handle delay,
      Asked n v t (.schedule handle delay a.timer))) ⟨rfl, .inl⟩ ?_).2 ha
  rintro t t' ⟨hn, ih⟩ m
  have hn' := m.alike.now.trans hn
  refine ⟨hn', fun ha => ?_⟩
  rw [← hn'] at ha
  rcases m.mem_alarms ha with ha | ⟨delay, -, -, hask⟩
  · exact ih (hn ▸ ha)
  · exact .inr ⟨t', _, delay, hask⟩

end

end ClusterWave
