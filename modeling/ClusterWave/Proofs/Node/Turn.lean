import ClusterWave.Node.Handler
import Mathlib.Tactic.Lemma

/-!
# Turns

What the steps that are shared by several handlers make of a turn. They do not let time pass or
move the node, and each touches only a few of its fields.
-/

namespace ClusterWave

lemma Slots.set_get (s : Slots) (slot : Slot) : s.set (s.get slot) slot = s := by
  cases slot <;> rfl

namespace ReliableSender

lemma retryInterval_transmit (s : ReliableSender) (o : Outbox) (peer : NodeId)
    (kind : MessageKind) : (s.transmit o peer kind).1.retryInterval = s.retryInterval := by
  simp only [transmit]
  split <;> rfl

lemma retryInterval_acknowledge (s : ReliableSender) (o : Outbox) (peer : NodeId)
    (kind : MessageKind) : (s.acknowledge o peer kind).1.retryInterval = s.retryInterval := by
  simp only [acknowledge]
  split <;> rfl

end ReliableSender

namespace Turn

/-! ### Time -/

@[simp] lemma now_disarm (t : Turn) (slot : Slot) : (t.disarm slot).now = t.now := by
  simp only [disarm]
  split <;> rfl

@[simp] lemma now_scheduleActivation (t : Turn) : t.scheduleActivation.now = t.now := by
  simp only [scheduleActivation]
  split
  · rfl
  · exact now_disarm _ _

@[simp] lemma now_startFirst (t : Turn) : t.startFirst.now = t.now := by
  simp only [startFirst]
  split
  · exact now_scheduleActivation _
  · rfl

@[simp] lemma now_activate (t : Turn) : t.activate.now = t.now := by
  simp only [activate]
  split
  · exact now_disarm _ _
  · rfl

@[simp] lemma now_retransmit (t : Turn) (peer : NodeId) (kind : MessageKind) :
    (t.retransmit peer kind).now = t.now := by
  simp only [retransmit]
  split
  · rfl
  · split <;> rfl

/-! ### Place -/

@[simp] lemma position_disarm (t : Turn) (slot : Slot) : (t.disarm slot).position = t.position := by
  simp only [disarm]
  split <;> rfl

@[simp] lemma position_scheduleActivation (t : Turn) :
    t.scheduleActivation.position = t.position := by
  simp only [scheduleActivation]
  split
  · rfl
  · exact position_disarm _ _

@[simp] lemma position_startFirst (t : Turn) : t.startFirst.position = t.position := by
  simp only [startFirst]
  split
  · exact position_scheduleActivation _
  · rfl

/-! ### The node -/

/-- Disarming touches nothing but the slot. -/
lemma node_disarm (t : Turn) (slot : Slot) :
    (t.disarm slot).node = { t.node with slots := t.node.slots.set none slot } := by
  simp only [disarm]
  split
  · rename_i h
    rw [← h, Slots.set_get]
  · rfl

lemma node_arm (t : Turn) (slot : Slot) (delay : Duration) (timer : Timer) :
    (t.arm slot delay timer).node =
      { t.node with slots := t.node.slots.set (some t.outbox.handle) slot } := rfl

/-- Queueing a transmission touches nothing but the slot for it. -/
lemma node_queueSend (t : Turn) (d : Duration) :
    (t.queueSend d).node =
      { t.node with slots := { t.node.slots with send := (t.queueSend d).node.slots.send } } := by
  simp only [queueSend]
  split
  · rfl
  · rfl

lemma scheduleActivation_of_past {t : Turn}
    (h : t.node.schedule.start.isNever ∨ t.node.schedule.start < t.now) :
    t.scheduleActivation = t.setStatus .ready := if_pos h

lemma scheduleActivation_of_ahead {t : Turn}
    (h : ¬ (t.node.schedule.start.isNever ∨ t.node.schedule.start < t.now)) :
    t.scheduleActivation = ((t.setStatus .ready).disarm .activation).arm .activation
      (if t.node.settings.reverse then t.node.settings.activationDelay
        else t.node.schedule.start.since t.now) .activate := if_neg h

/-- Scheduling the activation touches the status and the slots. -/
lemma node_scheduleActivation (t : Turn) :
    t.scheduleActivation.node =
      { t.node with status := .ready, slots := t.scheduleActivation.node.slots } := by
  simp only [scheduleActivation]
  split
  · rfl
  · rw [node_arm, node_disarm]
    rfl

@[simp] lemma schedule_scheduleActivation (t : Turn) :
    t.scheduleActivation.node.schedule = t.node.schedule := by
  rw [node_scheduleActivation]

lemma startFirst_of_lt {t : Turn} (h : t.node.schedule.firstStart < t.node.schedule.start) :
    t.startFirst = (t.setSchedule
      { t.node.schedule with start := t.node.schedule.firstStart }).scheduleActivation := by
  rw [startFirst, Schedule.startWithCluster, if_pos h]
  rfl

lemma startFirst_of_not_lt {t : Turn}
    (h : ¬ t.node.schedule.firstStart < t.node.schedule.start) : t.startFirst = t := by
  rw [startFirst, Schedule.startWithCluster, if_neg h]
  rfl

/-- The first node starts with the cluster, and is scheduled if that is earlier. -/
lemma node_startFirst (t : Turn) :
    t.startFirst.node =
      { t.node with
        schedule := t.node.schedule.startWithCluster.1
        status := t.startFirst.node.status
        slots := t.startFirst.node.slots } := by
  simp only [startFirst]
  split
  · rw [node_scheduleActivation]
    rfl
  · rfl

/-- An activation touches the status, the counters, the slots and the sequence number. -/
lemma node_activate (t : Turn) :
    t.activate.node =
      { t.node with
        status := .running
        counters := t.activate.node.counters
        slots := t.activate.node.slots
        seq := t.node.seq + 1 } := by
  simp only [activate]
  split
  · rw [node_arm, node_disarm]
    rfl
  · rfl

/-- Sending again touches the pending messages and the counters. -/
lemma node_retransmit (t : Turn) (peer : NodeId) (kind : MessageKind) :
    (t.retransmit peer kind).node =
      { t.node with
        reliable := (t.node.reliable.transmit t.outbox peer kind).1
        counters := (t.retransmit peer kind).node.counters } := by
  simp only [retransmit]
  split
  · rfl
  · split <;> rfl

lemma outbox_retransmit (t : Turn) (peer : NodeId) (kind : MessageKind) :
    (t.retransmit peer kind).outbox = (t.node.reliable.transmit t.outbox peer kind).2.1 := by
  simp only [retransmit]
  split
  · rfl
  · split <;> rfl

lemma activations_activate (t : Turn) :
    t.activate.node.counters.activations = t.node.counters.activations + 1 := by
  simp only [activate]
  split
  · rw [node_arm, node_disarm]
    rfl
  · rfl

lemma activations_retransmit (t : Turn) (peer : NodeId) (kind : MessageKind) :
    (t.retransmit peer kind).node.counters.activations = t.node.counters.activations := by
  simp only [retransmit]
  split
  · rfl
  · split <;> rfl

lemma upkeep_of_idle {t : Turn} (h : t.node.clustering = false) : t.upkeep = t := by
  simp only [upkeep, h, Bool.false_eq_true, if_false]

/-! ### Roles -/

/-- Taking the role down touches nothing but the counters. -/
lemma node_noteRole (t : Turn) (before : Degree × Option NodeId) :
    (t.noteRole before).node =
      { t.node with counters := (t.noteRole before).node.counters } := by
  simp only [noteRole]
  split <;> rfl

@[simp] lemma now_noteRole (t : Turn) (before : Degree × Option NodeId) :
    (t.noteRole before).now = t.now := by
  simp only [noteRole]
  split <;> rfl

@[simp] lemma outbox_noteRole (t : Turn) (before : Degree × Option NodeId) :
    (t.noteRole before).outbox = t.outbox := by
  simp only [noteRole]
  split <;> rfl

end Turn

end ClusterWave
