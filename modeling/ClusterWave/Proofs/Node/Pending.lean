import ClusterWave.Proofs.Node.Handle

/-!
# Pending messages

A message that awaits its acknowledgment was taken up by its node, under the name of the node, as
the offer of a wavefront or as a density map. From then on it stays as it is, however often it is
sent, until it is dropped or another one takes its place.
-/

namespace ClusterWave

/-- The messages that may be pending for a peer after a move from the turn `t` in the visit `v`:
those that were, and those that the node can take up. -/
inductive Awaited (v : Visit) (t : Turn) : NodeId × MessageKind → Message → Prop where
  | kept {key : NodeId × MessageKind} {p : Pending}
      (h : t.node.reliable.pending.get? key = some p) : Awaited v t key p.message
  | offer (peer : NodeId) (seq : UInt64) (source destination direction : Vec2)
      (hv : v.MayLaunch) : Awaited v t (peer, .interCluster)
        (.interCluster seq t.node.id source destination direction t.node.schedule.firstStart)
  | map (peer : NodeId) (seq : UInt64) (map : DensityMap) (hv : v.call = .timer .stop) :
      Awaited v t (peer, .densityMap) (.densityMap seq t.node.id t.node.record map)

variable {n₀ : Node} {v : Visit} {t t' : Turn} {key : NodeId × MessageKind} {p : Pending}

namespace Awaited

lemma sendReliably {peer : NodeId} {m : Message} {delay : Duration}
    (hm : Awaited v t (peer, m.kind) m)
    (h : (t.sendReliably peer m delay).node.reliable.pending.get? key = some p) :
    Awaited v t key p.message := by
  have h' : (t.node.reliable.pending.insert (peer, m.kind)
      ⟨m, 0, t.outbox.handle⟩).get? key = some p := h
  rcases Table.of_get?_insert h' with ⟨rfl, rfl⟩ | ⟨-, h'⟩
  · exact hm
  · exact .kept h'

lemma giveUp {test : NodeId × MessageKind → Bool} {o : Outbox}
    (h : (t.node.reliable.giveUp o test).1.pending.get? key = some p) :
    Awaited v t key p.message := by
  have h' : (t.node.reliable.pending.filter fun key _ => !test key).get? key = some p := h
  rw [Table.get?_filter, Option.filter_eq_some_iff] at h'
  exact .kept h'.1

lemma acknowledge {peer : NodeId} {kind : MessageKind} {o : Outbox}
    (h : (t.node.reliable.acknowledge o peer kind).1.pending.get? key = some p) :
    Awaited v t key p.message := by
  simp only [ReliableSender.acknowledge] at h
  split at h
  · exact .kept h
  · exact .kept (Table.of_get?_erase (t := t.node.reliable.pending) h)

lemma transmit {peer : NodeId} {kind : MessageKind} {o : Outbox}
    (h : (t.node.reliable.transmit o peer kind).1.pending.get? key = some p) :
    Awaited v t key p.message := by
  simp only [ReliableSender.transmit] at h
  split at h
  · exact .kept h
  · rename_i q hq
    dsimp only at h
    rcases Table.of_get?_insert h with ⟨rfl, rfl⟩ | ⟨-, h⟩
    · exact (Awaited.kept hq : Awaited v t (peer, kind) q.message)
    · exact .kept h

end Awaited

/-- Nothing else is pending after a move. -/
lemma Move.awaited (m : Move n₀ v t t') (h : t'.node.reliable.pending.get? key = some p) :
    Awaited v t key p.message := by
  cases m with
  | offer _ _ _ _ _ _ hv => exact Awaited.sendReliably (.offer _ _ _ _ _ hv) h
  | sendMap _ _ _ _ hv => exact Awaited.sendReliably (.map _ _ _ hv) h
  | cancelOffers => exact Awaited.giveUp (o := t.outbox) h
  | satisfyAll => exact Awaited.giveUp (o := t.outbox) h
  | acknowledged => exact Awaited.acknowledge h
  | retransmit =>
    rw [Turn.node_retransmit] at h
    exact Awaited.transmit h
  | disarm =>
    rw [Turn.node_disarm] at h
    exact .kept h
  | startFirst =>
    rw [Turn.node_startFirst] at h
    exact .kept h
  | startAlone =>
    rw [Turn.startAlone, Turn.node_scheduleActivation] at h
    exact .kept h
  | adopt =>
    rw [Turn.node_scheduleActivation] at h
    exact .kept h
  | relax =>
    rw [Turn.node_scheduleActivation] at h
    exact .kept h
  | activate =>
    rw [Turn.node_activate] at h
    exact .kept h
  | _ => exact .kept h

end ClusterWave
