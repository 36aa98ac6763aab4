import ClusterWave.Proofs.Bench.Match

/-!
# Timers that a node waits for

A node waits for a timer that it holds in a slot. As long as the slot is left alone the alarm stays
the same one, and when the slot is filled anew the alarm is the one that was asked for.
-/

namespace ClusterWave

/-! ### Timers that are armed in a turn -/

namespace Outbox

variable {ok : Effect → Prop} {o : Outbox} {next : Nat} {now : Timestamp} {as : List Alarm}

/-- The handles of the timers that are armed are new, and each is given out once. -/
lemma Steps.handles (h : Steps ok (fresh next) o) :
    (∀ handle delay timer, .schedule handle delay timer ∈ o.effects →
      next ≤ handle.val ∧ handle.val < o.nextHandle) ∧
    ∀ handle delay timer delay' timer', .schedule handle delay timer ∈ o.effects →
      .schedule handle delay' timer' ∈ o.effects → delay = delay' ∧ timer = timer' := by
  induction h with
  | refl =>
    constructor
    · intro handle delay timer hm
      cases hm
    · intro handle delay timer delay' timer' hm
      cases hm
  | @tail o o' hs step ih =>
    obtain ⟨hnew, honce⟩ := ih
    have hquiet {e : Effect} (he : ∀ handle delay timer, e ≠ .schedule handle delay timer)
        {handle : TimerHandle} {delay : Duration} {timer : Timer}
        (hm : .schedule handle delay timer ∈ o.effects ++ [e]) :
        .schedule handle delay timer ∈ o.effects := by
      rcases List.mem_append.1 hm with hm | hm
      · exact hm
      · exact absurd (List.mem_singleton.1 hm).symm (he _ _ _)
    cases step with
    | @schedule delay₀ timer₀ =>
      have hmem {handle : TimerHandle} {delay : Duration} {timer : Timer}
          (hm : .schedule handle delay timer ∈ (o.schedule delay₀ timer₀).effects) :
          .schedule handle delay timer ∈ o.effects ∨
            handle = o.handle ∧ delay = delay₀ ∧ timer = timer₀ := by
        rcases List.mem_append.1 hm with hm | hm
        · exact .inl hm
        · exact .inr (Effect.schedule.inj (List.mem_singleton.1 hm))
      constructor
      · intro handle delay timer hm
        rcases hmem hm with hm | ⟨rfl, -, -⟩
        · obtain ⟨hle, hlt⟩ := hnew _ _ _ hm
          exact ⟨hle, Nat.lt_succ_of_lt hlt⟩
        · exact ⟨Steps.nextHandle_le hs, Nat.lt_succ_self _⟩
      · intro handle delay timer delay' timer' hm hm'
        rcases hmem hm with hold | ⟨rfl, rfl, rfl⟩
        · rcases hmem hm' with hold' | ⟨rfl, -, -⟩
          · exact honce _ _ _ _ _ hold hold'
          · obtain ⟨-, hlt⟩ := hnew _ _ _ hold
            exact absurd hlt (Nat.lt_irrefl _)
        · rcases hmem hm' with hold' | ⟨-, rfl, rfl⟩
          · obtain ⟨-, hlt⟩ := hnew _ _ _ hold'
            exact absurd hlt (Nat.lt_irrefl _)
          · exact ⟨rfl, rfl⟩
    | cancel | broadcast | send =>
      constructor
      · intro handle delay timer hm
        exact hnew _ _ _ (hquiet (fun _ _ _ => Effect.noConfusion) hm)
      · intro handle delay timer delay' timer' hm hm'
        exact honce _ _ _ _ _ (hquiet (fun _ _ _ => Effect.noConfusion) hm)
          (hquiet (fun _ _ _ => Effect.noConfusion) hm')

/-- An alarm was there before, or it was armed. -/
lemma mem_of_mem_alarms {a : Alarm} (ha : a ∈ o.alarms now as) :
    a ∈ as ∨ ∃ delay, .schedule a.handle delay a.timer ∈ o.effects ∧ a.due = now + delay := by
  have hfold (es : List Effect) (as : List Alarm) (ha : a ∈ es.foldl (Alarm.apply now) as) :
      a ∈ as ∨ ∃ delay, .schedule a.handle delay a.timer ∈ es ∧ a.due = now + delay := by
    induction es generalizing as with
    | nil => exact .inl ha
    | cons e es ih =>
      rcases ih _ ha with ha | ⟨delay, hm, hd⟩
      · cases e with
        | schedule handle delay timer =>
          rcases Alarm.mem_insert.1 ha with rfl | ha
          · exact .inr ⟨delay, List.mem_cons_self, rfl⟩
          · exact .inl ha
        | cancel => exact .inl (List.mem_filter.1 ha).1
        | broadcast | send => exact .inl ha
      · exact .inr ⟨delay, List.mem_cons_of_mem e hm, hd⟩
  exact hfold o.effects as ha

end Outbox

/-- A timer is armed in the turn and held in a slot. -/
def Turn.Armed (t : Turn) (slot : Slot) (delay : Duration) : Prop :=
  ∃ handle timer, t.node.slots.get slot = some handle ∧
    .schedule handle delay timer ∈ t.outbox.effects

namespace Turn.Armed

variable {t : Turn} {slot slot' : Slot} {delay : Duration}

lemma of_arm (t : Turn) (slot : Slot) (delay : Duration) (timer : Timer) :
    (t.arm slot delay timer).Armed slot delay :=
  ⟨t.outbox.handle, timer, Slots.get_set_self _ _ _,
    List.mem_append_right _ List.mem_cons_self⟩

lemma of_queueSend (h : t.node.slots.send = none) (delay : Duration) :
    (t.queueSend delay).Armed .send delay := by
  have hs : t.node.slots.get .send = none := h
  simp only [queueSend, hs]
  exact of_arm t .send delay .send

lemma arm (h : t.Armed slot delay) (hne : slot ≠ slot') (delay' : Duration) (timer : Timer) :
    (t.arm slot' delay' timer).Armed slot delay := by
  obtain ⟨handle, timer, hs, hm⟩ := h
  exact ⟨handle, timer, (Slots.get_set_of_ne _ _ hne).trans hs, List.mem_append_left _ hm⟩

lemma disarm (h : t.Armed slot delay) (hne : slot ≠ slot') : (t.disarm slot').Armed slot delay := by
  obtain ⟨handle, timer, hs, hm⟩ := h
  refine ⟨handle, timer, ?_, ?_⟩
  · rw [node_disarm]
    exact (Slots.get_set_of_ne _ _ hne).trans hs
  · simp only [Turn.disarm]
    split
    · exact hm
    · exact List.mem_append_left _ hm

lemma noteRole (h : t.Armed slot delay) (before : Degree × Option NodeId) :
    (t.noteRole before).Armed slot delay := by
  obtain ⟨handle, timer, hs, hm⟩ := h
  refine ⟨handle, timer, ?_, ?_⟩
  · rw [node_noteRole]
    exact hs
  · rw [outbox_noteRole]
    exact hm

end Turn.Armed

/-! ### Timers that are waited for -/

namespace Bench

variable {b b' : Bench} {v : Visit} {slot : Slot} {due : Timestamp}

/-- The node holds a timer in a slot that goes off by a given time. -/
def Expects (b : Bench) (slot : Slot) (due : Timestamp) : Prop :=
  ∃ a ∈ b.alarms, b.node.slots.get slot = some a.handle ∧ a.due ≤ due

namespace Expects

lemma mono {due' : Timestamp} (h : b.Expects slot due) (hd : due ≤ due') :
    b.Expects slot due' := by
  obtain ⟨a, ha, hs, hle⟩ := h
  exact ⟨a, ha, hs, Timestamp.le_trans hle hd⟩

lemma ne_none (h : b.Expects slot due) : b.node.slots.get slot ≠ none := by
  obtain ⟨a, -, hget, -⟩ := h
  intro hnone
  cases hnone.symm.trans hget

/-- It is not later yet as long as no timer is late. -/
lemma le {now : Timestamp} (h : b.Expects slot due) (hd : ∀ a ∈ b.alarms, now ≤ a.due) :
    now ≤ due := by
  obtain ⟨a, ha, -, hle⟩ := h
  exact Timestamp.le_trans (hd a ha) hle

/-- A slot that is left alone holds the same timer. -/
lemma kept (hm : b.Matches) (hs : b.Serves v b') (h : b.Expects slot due)
    (hslot : b'.node.slots.get slot = b.node.slots.get slot) : b'.Expects slot due := by
  obtain ⟨a, ha, hget, hle⟩ := h
  obtain ⟨a', ha', he, -⟩ := (hm.serves hs).keeps.armed slot a.handle (hslot.trans hget)
  obtain ⟨as, hl, has⟩ := hs.alarms
  rw [has] at ha'
  have hold : a' ∈ b.alarms := by
    rcases Outbox.mem_of_mem_alarms ha' with hm' | ⟨delay, hm', -⟩
    · exact hl.mem hm'
    · have hnew := ((b.node.steps_visit v).handles.1 _ _ _ hm').1
      have hlt : a.handle.val < b.nextHandle := hm.keeps.orderly.fresh a ha
      have hle := hs.handles
      rw [he] at hnew
      omega
  have haa : a' = a := hm.keeps.orderly.eq_of_handle hold ha he
  refine ⟨a, ?_, hslot.trans hget, hle⟩
  rw [has, ← haa]
  exact ha'

/-- A slot that is filled anew holds the timer that was armed. -/
lemma armed {delay : Duration} (hm : b.Matches) (hs : b.Serves v b')
    (h : (b.node.visit v).Armed slot delay) (hd : v.now + delay ≤ due) : b'.Expects slot due := by
  obtain ⟨handle, timer, hget, heff⟩ := h
  rw [← hs.node] at hget
  obtain ⟨hnew, honce⟩ := (b.node.steps_visit v).handles
  obtain ⟨a, ha, rfl, -⟩ := (hm.serves hs).keeps.armed slot handle hget
  refine ⟨a, ha, hget, ?_⟩
  obtain ⟨as, hl, has⟩ := hs.alarms
  rw [has] at ha
  rcases Outbox.mem_of_mem_alarms ha with hold | ⟨delay', hm', hdue⟩
  · have hlt : a.handle.val < b.nextHandle := hm.keeps.orderly.fresh a (hl.mem hold)
    have hge := (hnew _ _ _ heff).1
    have hle := hs.handles
    omega
  · rw [hdue, ← (honce _ _ _ _ _ heff hm').1]
    exact hd

end Expects

end Bench

end ClusterWave
