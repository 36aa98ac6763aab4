import ClusterWave.Wire.Batch
import Mathlib.Tactic.Lemma

/-!
# Splitting loses nothing

The packets into which messages are split hold these messages, in order. As every message takes at
least a byte, a packet does not hold more messages than it may have bytes, unless it is a single
one.
-/

namespace ClusterWave

namespace Packet

lemma flatMap_messages_batchFrom (limit : Nat) (current : List Message) (size : Nat)
    (ms : List Message) :
    (batchFrom limit current size ms).flatMap Packet.messages = current ++ ms := by
  induction ms generalizing current size with
  | nil =>
    rw [batchFrom]
    split
    · rename_i h
      simp [List.isEmpty_iff.1 h]
    · simp
  | cons m ms ih =>
    rw [batchFrom]
    split
    · rw [List.flatMap_cons, ih]
      rfl
    · rw [ih, List.append_assoc]
      rfl

lemma flatMap_messages_batch (limit : Nat) (ms : List Message) :
    (batch limit ms).flatMap Packet.messages = ms := by
  rw [batch, flatMap_messages_batchFrom, List.nil_append]

lemma mem_of_mem_batch {limit : Nat} {ms : List Message} {p : Packet} (hp : p ∈ batch limit ms)
    {m : Message} (hm : m ∈ p.messages) : m ∈ ms := by
  rw [← flatMap_messages_batch limit ms]
  exact List.mem_flatMap.2 ⟨p, hp, hm⟩

end Packet

lemma Message.size_pos (m : Message) : 0 < m.size := by
  show 0 < (encodeVariant m.kind.index ++ m.encodeFields).length
  rw [List.length_append]
  have h : (encodeVariant m.kind.index).length = 4 := rfl
  omega

namespace Packet

lemma length_le_of_mem_batchFrom {limit : Nat} {current : List Message} {size : Nat}
    {ms : List Message} (hs : current.length ≤ size) (hc : current.length ≤ max 1 limit)
    {p : Packet} (hp : p ∈ batchFrom limit current size ms) : p.messages.length ≤ max 1 limit := by
  induction ms generalizing current size with
  | nil =>
    rw [batchFrom] at hp
    split at hp
    · cases hp
    · rwa [List.mem_singleton.1 hp]
  | cons m ms ih =>
    have hm := m.size_pos
    rw [batchFrom] at hp
    split at hp
    · rcases List.mem_cons.1 hp with rfl | hp
      · exact hc
      · have hone : [m].length ≤ 1 := Nat.le_refl 1
        exact ih (by omega) (by omega) hp
    · rename_i hfits
      have hlength : (current ++ [m]).length = current.length + 1 := List.length_append
      refine ih (by omega) ?_ hp
      simp only [Bool.and_eq_true, Bool.not_eq_true', List.isEmpty_eq_false_iff, ne_eq,
        decide_eq_true_eq, not_and, Nat.not_lt] at hfits
      by_cases hnil : current = []
      · have hzero : current.length = 0 := List.length_eq_zero_iff.2 hnil
        omega
      · have := hfits hnil
        omega

/-- A packet of a batch holds a single message, or no more of them than it may have bytes. -/
lemma length_le_of_mem_batch {limit : Nat} {ms : List Message} {p : Packet}
    (hp : p ∈ batch limit ms) : p.messages.length ≤ max 1 limit :=
  length_le_of_mem_batchFrom (Nat.zero_le _) (Nat.zero_le _) hp

end Packet

end ClusterWave
