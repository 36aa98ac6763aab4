import ClusterWave.Proofs.Density.Estimate
import ClusterWave.Proofs.Node.Maps
import ClusterWave.Proofs.Wire.Exact

/-!
# What a node sends can be written

The lengths in a packet are written in eight bytes. A packet that a node puts together holds a few
messages only, and no message has a list in it but a density map. As long as the cells of its grid
can be counted, so can those of every map that the node draws, and every packet that it sends can be
read back.
-/

namespace ClusterWave

/-- A map has as many cells as its grid. -/
lemma DensityMap.isWritable_estimate {g : Grid} (hg : g.IsCountable) (offsets : List Vec2) :
    (estimate g offsets).IsWritable :=
  length_lt_of_checkShape (checkShape_estimate hg offsets)

lemma Message.isWritable_of_isPlain {m : Message} (h : m.isPlain) : m.IsWritable := by
  cases m with
  | densityMap => cases h
  | _ => trivial

/-- The packet that an effect sends to a receiver, if it sends one. -/
def Effect.packetFor? (receiver : NodeId) : Effect → Option Packet
  | .broadcast packet => some packet
  | .send peer packet => if peer = receiver then some packet else none
  | _ => none

namespace Node

variable {n : Node} {v : Visit}

lemma settings_visit (n : Node) (v : Visit) : (n.visit v).node.settings = n.settings :=
  (moves_visit n v).alike.settings

/-- What is pending can be written, if the cells of the own grid can be counted. -/
def Writes (n : Node) : Prop :=
  n.settings.grid.IsCountable →
    ∀ key p, n.reliable.pending.get? key = some p → p.message.IsWritable

lemma IsNew.writes (h : n.IsNew) : n.Writes := by
  intro _ key p hp
  rw [h.blank.2.1] at hp
  cases hp

lemma Writes.visit (h : n.Writes) (v : Visit) : (n.visit v).node.Writes := by
  intro hg key p hp
  rw [settings_visit] at hg
  cases hm : p.message with
  | densityMap seq c r map =>
    rcases n.pending_visit_map v hp hm with ⟨key, q, hq, hm⟩ | ⟨-, -, -, offsets, rfl⟩
    · have hw := h hg key q hq
      rwa [hm] at hw
    · exact DensityMap.isWritable_estimate hg offsets
  | _ => trivial

/-- Every packet that is sent in a visit can be written. -/
lemma Writes.isWritable (h : n.Writes) (hg : n.settings.grid.IsCountable) {e : Effect}
    (he : e ∈ (n.visit v).outbox.effects) {receiver : NodeId} {p : Packet}
    (hp : e.packetFor? receiver = some p) : p.IsWritable := by
  have hsend {peer : NodeId} {m : Message}
      (hp : (Effect.send peer (Packet.single m)).packetFor? receiver = some p)
      (hm : m.IsWritable) : p.IsWritable := by
    simp only [Effect.packetFor?] at hp
    split at hp
    · cases hp
      exact Packet.isWritable_single hm
    · cases hp
  rcases asked_of_mem_effects he with ⟨handle, rfl⟩ | ⟨t, -, hask⟩
  · cases hp
  · cases hask with
    | plainBroadcast hplain hl =>
      cases hp
      exact ⟨hl, fun m hm => Message.isWritable_of_isPlain (hplain m hm).isPlain⟩
    | incident => exact hsend hp trivial
    | answer => exact hsend hp trivial
    | announce =>
      cases hp
      exact Packet.isWritable_single trivial
    | passOn =>
      cases hp
      exact Packet.isWritable_single trivial
    | again _ hpending => exact hsend hp (h hg _ _ hpending)
    | _ => cases hp

end Node

end ClusterWave
