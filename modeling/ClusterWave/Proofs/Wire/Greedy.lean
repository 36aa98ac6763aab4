import ClusterWave.Proofs.Wire.Batch
import Mathlib.Algebra.Order.Ring.Nat
import Mathlib.Data.List.Chain

/-!
# Packets are filled greedily

A packet is written as its length and then its messages, so that each message takes up just its own
length. Messages are split greedily: nothing is lost, no packet is empty, only a message on its own
may be longer than the limit, and a packet ends only where the next message would not fit. There is
one way to do that, and batches are made that way.
-/

namespace ClusterWave

namespace Packet

variable {limit : Nat} {ms current : List Message} {m : Message} {p : Packet} {ps : List Packet}

/-! ### Lengths -/

/-- The length of a packet on the wire. -/
def size (p : Packet) : Nat := (encode p).length

lemma size_mk (ms : List Message) : size ⟨ms⟩ = envelope + (ms.map Message.size).sum := by
  show (encode (UInt64.ofNat ms.length) ++ ms.flatMap encode).length = _
  rw [List.length_append, List.length_flatMap]
  rfl

lemma size_append (ms ms' : List Message) :
    size ⟨ms ++ ms'⟩ = size ⟨ms⟩ + (ms'.map Message.size).sum := by
  simp only [size_mk, List.map_append, List.sum_append, Nat.add_assoc]

lemma size_snoc (ms : List Message) (m : Message) : size ⟨ms ++ [m]⟩ = size ⟨ms⟩ + m.size := by
  rw [size_append, List.map_singleton, List.sum_singleton]

/-- A message takes up its own length, wherever it stands. -/
lemma size_insert (before : List Message) (m : Message) (after : List Message) :
    size ⟨before ++ m :: after⟩ = size ⟨before ++ after⟩ + m.size := by
  rw [size_append, size_append, List.map_cons, List.sum_cons]
  omega

/-! ### Greedy splits -/

/-- Whether a packet has no room for the message with which the next one begins. -/
def Full (limit : Nat) (p q : Packet) : Prop :=
  ∀ m ∈ q.messages.head?, limit < size ⟨p.messages ++ [m]⟩

/-- A greedy split of messages into packets. -/
structure Split (limit : Nat) (ms : List Message) (ps : List Packet) : Prop where
  lossless : ps.flatMap Packet.messages = ms
  nonempty : ∀ p ∈ ps, p.messages ≠ []
  /-- Only a packet of a single message may be too long. -/
  fits : ∀ p ∈ ps, p.size ≤ limit ∨ p.messages.length = 1
  /-- Of packets that follow each other, the first one is full. -/
  full : ps.IsChain (Full limit)

namespace Split

lemma nil (limit : Nat) : Split limit [] [] :=
  ⟨rfl, by simp, by simp, .nil⟩

lemma single (hne : current ≠ []) (hfits : size ⟨current⟩ ≤ limit ∨ current.length = 1) :
    Split limit current [⟨current⟩] := by
  refine ⟨List.flatMap_singleton .., ?_, ?_, .singleton _⟩
  · intro p hp
    rw [List.mem_singleton.1 hp]
    exact hne
  · intro p hp
    rw [List.mem_singleton.1 hp]
    exact hfits

/-- The first packet begins with the first message. -/
lemma exists_cons (h : Split limit (m :: ms) ps) : ∃ more rest, ps = ⟨m :: more⟩ :: rest := by
  cases ps with
  | nil => cases h.lossless
  | cons p rest =>
    have hl := h.lossless
    rw [List.flatMap_cons] at hl
    obtain ⟨messages⟩ := p
    cases messages with
    | nil => exact absurd rfl (h.nonempty _ List.mem_cons_self)
    | cons m' more =>
      obtain ⟨rfl, -⟩ := List.cons.inj hl
      exact ⟨more, rest, rfl⟩

/-- Without its first packet, a split is one of the other messages. -/
lemma tail (h : Split limit (current ++ ms) (⟨current⟩ :: ps)) : Split limit ms ps := by
  refine ⟨List.append_cancel_left h.lossless, ?_, ?_, h.full.tail⟩
  · intro p hp
    exact h.nonempty p (List.mem_cons_of_mem _ hp)
  · intro p hp
    exact h.fits p (List.mem_cons_of_mem _ hp)

/-- A packet that is full is put in front. -/
lemma cons (h : Split limit (m :: ms) ps) (hne : current ≠ [])
    (hfits : size ⟨current⟩ ≤ limit ∨ current.length = 1)
    (hfull : limit < size ⟨current ++ [m]⟩) :
    Split limit (current ++ m :: ms) (⟨current⟩ :: ps) := by
  have hs := single hne hfits
  obtain ⟨more, rest, rfl⟩ := h.exists_cons
  refine ⟨?_, ?_, ?_, .cons_cons ?_ h.full⟩
  · rw [List.flatMap_cons, h.lossless]
  · intro p hp
    rcases List.mem_cons.1 hp with rfl | hp
    · exact hne
    · exact h.nonempty p hp
  · intro p hp
    rcases List.mem_cons.1 hp with rfl | hp
    · exact hfits
    · exact h.fits p hp
  · intro m' hm'
    rw [← Option.some.inj hm']
    exact hfull

end Split

/-! ### Batches -/

/-- Whether the messages of the packet that is being filled may stay together. -/
lemma fits_snoc (h : current.isEmpty ∨ ¬ limit < size ⟨current⟩ + m.size) :
    size ⟨current ++ [m]⟩ ≤ limit ∨ (current ++ [m]).length = 1 := by
  rcases h with h | h
  · rw [List.isEmpty_iff.1 h]
    exact .inr rfl
  · rw [size_snoc]
    exact .inl (Nat.not_lt.1 h)

/-- The length that is carried along is that of the packet that is being filled. -/
lemma split_batchFrom (hfits : current = [] ∨ size ⟨current⟩ ≤ limit ∨ current.length = 1) :
    Split limit (current ++ ms) (batchFrom limit current (size ⟨current⟩) ms) := by
  induction ms generalizing current with
  | nil =>
    rw [batchFrom, List.append_nil]
    split
    · rename_i he
      rw [List.isEmpty_iff.1 he]
      exact .nil limit
    · rename_i he
      have hne : current ≠ [] := fun h => he (List.isEmpty_iff.2 h)
      exact .single hne (hfits.resolve_left hne)
  | cons m ms ih =>
    rw [batchFrom]
    split
    · rename_i hflush
      rw [Bool.and_eq_true, Bool.not_eq_true', List.isEmpty_eq_false_iff, decide_eq_true_eq,
        ← size_snoc] at hflush
      obtain ⟨hne, hfull⟩ := hflush
      have hrest := @ih [m] (.inr (.inr rfl))
      rw [size_mk [m], List.map_singleton, List.sum_singleton] at hrest
      exact hrest.cons hne (hfits.resolve_left hne) hfull
    · rename_i hkeep
      have hroom : current.isEmpty ∨ ¬ limit < size ⟨current⟩ + m.size := by
        rw [Bool.and_eq_true, Bool.not_eq_true', decide_eq_true_eq, not_and_or,
          Bool.not_eq_false] at hkeep
        exact hkeep
      rw [← size_snoc, List.append_cons]
      exact ih (.inr (fits_snoc hroom))

/-- There is only one way to go on with a packet greedily. -/
lemma batchFrom_eq_of_split {more : List Message} {rest : List Packet}
    (h : Split limit (current ++ ms) (⟨current ++ more⟩ :: rest)) :
    batchFrom limit current (size ⟨current⟩) ms = ⟨current ++ more⟩ :: rest := by
  induction ms generalizing current more rest with
  | nil =>
    have hl := h.lossless
    rw [List.flatMap_cons, List.append_assoc] at hl
    obtain ⟨rfl, hrest⟩ := List.append_eq_nil_iff.1 (List.append_cancel_left hl)
    have hnone : rest = [] := by
      refine List.eq_nil_iff_forall_not_mem.2 fun p hp => ?_
      exact h.nonempty p (List.mem_cons_of_mem _ hp) (List.flatMap_eq_nil_iff.1 hrest p hp)
    have hne : current ≠ [] := by simpa using h.nonempty _ List.mem_cons_self
    rw [batchFrom, if_neg (by simpa using hne), hnone, List.append_nil]
  | cons m ms ih =>
    rw [batchFrom]
    cases more with
    | nil =>
      -- the packet ends here, so the next message did not fit
      rw [List.append_nil] at h ⊢
      have hne : current ≠ [] := h.nonempty _ List.mem_cons_self
      obtain ⟨more, rest, rfl⟩ := h.tail.exists_cons
      have hfull : limit < size ⟨current ++ [m]⟩ := h.full.rel m rfl
      have hrest := @ih [m] _ _ h.tail
      rw [size_mk [m], List.map_singleton, List.sum_singleton] at hrest
      rw [if_pos (by simpa [← size_snoc] using ⟨hne, hfull⟩), hrest]
      rfl
    | cons m' more =>
      -- the packet goes on, so that its messages fit together, unless it begins here
      obtain rfl : m = m' := by
        have hl := h.lossless
        rw [List.flatMap_cons, List.append_assoc] at hl
        exact (List.cons.inj (List.append_cancel_left hl)).1.symm
      have hroom : current = [] ∨ size ⟨current⟩ + m.size ≤ limit := by
        rcases h.fits _ List.mem_cons_self with hfits | hone
        · rw [List.append_cons, size_append, size_snoc] at hfits
          exact .inr (by omega)
        · rw [List.length_append, List.length_cons] at hone
          exact .inl (List.length_eq_zero_iff.1 (by omega))
      rw [if_neg (by simpa [or_iff_not_imp_left] using hroom), ← size_snoc,
        List.append_cons current m more]
      rw [List.append_cons, List.append_cons current m more] at h
      exact ih h

/-- Batches are the one greedy split of messages: they hold the messages in order, none of them is
empty, only one of a single message is longer than the limit, and one is followed by another only
if the next message would make it too long. Each message adds its own length to a packet. -/
theorem batch_is_greedy (limit : Nat) (ms : List Message) :
    Split limit ms (batch limit ms) ∧ (∀ ps, Split limit ms ps → ps = batch limit ms) ∧
      ∀ before m after, size ⟨before ++ m :: after⟩ = size ⟨before ++ after⟩ + m.size := by
  have hsplit : Split limit ([] ++ ms) (batchFrom limit [] (size ⟨[]⟩) ms) :=
    split_batchFrom (.inl rfl)
  refine ⟨hsplit, ?_, size_insert⟩
  intro ps h
  cases ms with
  | nil =>
    cases ps with
    | nil => rfl
    | cons p ps =>
      have hp := h.nonempty p List.mem_cons_self
      exact absurd (List.flatMap_eq_nil_iff.1 h.lossless p List.mem_cons_self) hp
  | cons m ms =>
    obtain ⟨more, rest, rfl⟩ := h.exists_cons
    have h : Split limit ([] ++ m :: ms) (⟨[] ++ m :: more⟩ :: rest) := h
    exact (batchFrom_eq_of_split h).symm

end Packet

end ClusterWave
