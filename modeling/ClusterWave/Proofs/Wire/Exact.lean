import ClusterWave.Wire.Codec
import Mathlib.Tactic.Lemma
import Mathlib.Tactic.Simproc.ExistsAndEq

/-!
# Decoders take off exactly what encoders write

A decoder succeeds on a byte string when the string begins with an encoding, and then it finds the
value that was encoded. The length of a list takes eight bytes, so a list is written only if it has
fewer than `2^64` entries.

The one thing to know about a decoder is which values it takes off the front, and what it leaves:
`decode_eq_ok_iff` for the types without lists, and lemmas of its form for density maps, messages
and packets.
-/

namespace ClusterWave

variable {α β : Type} {bytes rest : List UInt8}

/-! ### Decoders step by step -/

namespace Decoder

lemma pure_eq_ok_iff {a b : α} :
    (pure a : Decoder α) bytes = .ok (b, rest) ↔ a = b ∧ bytes = rest := by
  show Except.ok (a, bytes) = Except.ok (b, rest) ↔ _
  simp

lemma bind_eq_ok_iff {d : Decoder α} {f : α → Decoder β} {b : β} :
    (d >>= f) bytes = .ok (b, rest) ↔
      ∃ a mid, d bytes = .ok (a, mid) ∧ f a mid = .ok (b, rest) := by
  simp only [bind, StateT.bind, Except.bind]
  cases d bytes with
  | error fault => simp
  | ok p =>
    obtain ⟨a, mid⟩ := p
    simp

lemma throw_ne_ok {fault : WireFault} {a : α} :
    (throw fault : Decoder α) bytes ≠ .ok (a, rest) := by
  intro h
  cases h

end Decoder

open Decoder

lemma takeByte_eq_ok_iff {b : UInt8} : takeByte bytes = .ok (b, rest) ↔ bytes = b :: rest := by
  cases bytes <;> simp [takeByte]

/-! ### Numbers -/

/-- The bytes that are taken are the digits of the number, and there are no more digits. -/
lemma takeNat_eq_ok_iff {width n : Nat} :
    takeNat width bytes = .ok (n, rest) ↔
      n < Nat.pow 256 width ∧ bytes = bytesOfNat width n ++ rest := by
  induction width generalizing n bytes rest with
  | zero =>
    simp only [takeNat, pure_eq_ok_iff, bytesOfNat, List.nil_append]
    constructor
    · rintro ⟨rfl, rfl⟩
      exact ⟨Nat.one_pos, rfl⟩
    · rintro ⟨h, rfl⟩
      exact ⟨(Nat.lt_one_iff.1 h).symm, rfl⟩
  | succ width ih =>
    simp only [takeNat, bind_eq_ok_iff, pure_eq_ok_iff, takeByte_eq_ok_iff, ih]
    have hpow : Nat.pow 256 (width + 1) = Nat.pow 256 width * 256 := rfl
    constructor
    · rintro ⟨b, _, rfl, high, _, ⟨hlt, rfl⟩, rfl, rfl⟩
      have hb : b.toNat < 256 := b.toNat_lt
      have hmod : (b.toNat + 256 * high) % 256 = b.toNat := by omega
      have hdiv : (b.toNat + 256 * high) / 256 = high := by omega
      refine ⟨by omega, ?_⟩
      simp [bytesOfNat, hmod, hdiv]
    · rintro ⟨hlt, rfl⟩
      have hdigit : (UInt8.ofNat (n % 256)).toNat = n % 256 :=
        UInt8.toNat_ofNat_of_lt' (Nat.mod_lt _ (by decide))
      refine ⟨UInt8.ofNat (n % 256), _, rfl, n / 256, rest, ⟨by omega, rfl⟩, ?_, rfl⟩
      rw [hdigit]
      omega

/-- Types whose decoder takes off exactly the encodings. -/
class Wire.Exact (α : Type) [Wire α] : Prop where
  decode_eq_ok_iff : ∀ {bytes : List UInt8} {a : α} {rest : List UInt8},
    (decode : Decoder α) bytes = .ok (a, rest) ↔ bytes = encode a ++ rest

export Wire.Exact (decode_eq_ok_iff)

/-- A number type of a given width, as long as its values are the numbers of that many digits. -/
lemma takeNat_map_eq_ok_iff {width : Nat} {ofNat : Nat → α} {toNat : α → Nat} {a : α}
    (hlt : toNat a < Nat.pow 256 width) (hof : ofNat (toNat a) = a)
    (hto : ∀ n < Nat.pow 256 width, toNat (ofNat n) = n) :
    (do let n ← takeNat width; pure (ofNat n) : Decoder α) bytes = .ok (a, rest) ↔
      bytes = bytesOfNat width (toNat a) ++ rest := by
  simp only [bind_eq_ok_iff, pure_eq_ok_iff, takeNat_eq_ok_iff]
  constructor
  · rintro ⟨n, _, ⟨hn, rfl⟩, rfl, rfl⟩
    rw [hto n hn]
  · rintro rfl
    exact ⟨toNat a, rest, ⟨hlt, rfl⟩, hof, rfl⟩

instance : Wire.Exact UInt64 where
  decode_eq_ok_iff {_ n _} := takeNat_map_eq_ok_iff n.toNat_lt UInt64.ofNat_toNat fun _ hn =>
    UInt64.toNat_ofNat_of_lt' hn

instance : Wire.Exact UInt32 where
  decode_eq_ok_iff {_ n _} := takeNat_map_eq_ok_iff n.toNat_lt UInt32.ofNat_toNat fun _ hn =>
    UInt32.toNat_ofNat_of_lt' hn

/-! ### Truth values, options and lists -/

instance : Wire.Exact Bool where
  decode_eq_ok_iff {bytes a rest} := by
    unfold decode encode instWireBool
    simp only [bind_eq_ok_iff, takeByte_eq_ok_iff]
    constructor
    · rintro ⟨b, mid, rfl, h⟩
      split at h
      · rename_i hb
        obtain ⟨rfl, rfl⟩ := pure_eq_ok_iff.1 h
        rw [hb]
        rfl
      · split at h
        · rename_i hb
          obtain ⟨rfl, rfl⟩ := pure_eq_ok_iff.1 h
          rw [hb]
          rfl
        · exact absurd h throw_ne_ok
    · rintro rfl
      cases a
      · exact ⟨0, rest, rfl, rfl⟩
      · exact ⟨1, rest, rfl, rfl⟩

instance [Wire α] [Wire.Exact α] : Wire.Exact (Option α) where
  decode_eq_ok_iff {bytes a rest} := by
    unfold decode encode instWireOption
    simp only [bind_eq_ok_iff, takeByte_eq_ok_iff]
    constructor
    · rintro ⟨b, mid, rfl, h⟩
      split at h
      · rename_i hb
        obtain ⟨rfl, rfl⟩ := pure_eq_ok_iff.1 h
        rw [hb]
        rfl
      · split at h
        · rename_i hb
          simp only [bind_eq_ok_iff, pure_eq_ok_iff, decode_eq_ok_iff] at h
          obtain ⟨x, _, rfl, rfl, rfl⟩ := h
          rw [hb]
          rfl
        · exact absurd h throw_ne_ok
    · rintro rfl
      cases a with
      | none => exact ⟨0, rest, rfl, rfl⟩
      | some x =>
        refine ⟨1, encode x ++ rest, rfl, ?_⟩
        show (do let a ← decode; pure (some a) : Decoder (Option α)) (encode x ++ rest) = _
        simp only [bind_eq_ok_iff, pure_eq_ok_iff, decode_eq_ok_iff]
        exact ⟨x, rest, rfl, rfl, rfl⟩

/-- A list is read back if its entries are and its length can be written. -/
lemma takeMany_eq_ok_iff [Wire α] {p : α → Prop}
    (h : ∀ {bytes : List UInt8} {a : α} {rest : List UInt8},
      (decode : Decoder α) bytes = .ok (a, rest) ↔ p a ∧ bytes = encode a ++ rest)
    {n : Nat} {as : List α} :
    takeMany n bytes = .ok (as, rest) ↔
      as.length = n ∧ (∀ a ∈ as, p a) ∧ bytes = as.flatMap encode ++ rest := by
  induction n generalizing bytes rest as with
  | zero =>
    simp only [takeMany, pure_eq_ok_iff, List.length_eq_zero_iff]
    constructor
    · rintro ⟨rfl, rfl⟩
      simp
    · rintro ⟨rfl, -, rfl⟩
      simp
  | succ n ih =>
    simp only [takeMany, bind_eq_ok_iff, pure_eq_ok_iff, h, ih]
    constructor
    · rintro ⟨a, _, ⟨ha, rfl⟩, as, _, ⟨rfl, has, rfl⟩, rfl, rfl⟩
      simpa [ha] using has
    · rintro ⟨hlen, has, rfl⟩
      cases as with
      | nil => cases hlen
      | cons a as =>
        obtain ⟨ha, has⟩ := List.forall_mem_cons.1 has
        refine ⟨a, as.flatMap encode ++ rest, ⟨ha, ?_⟩, as, rest, ?_, rfl, rfl⟩
        · simp
        · exact ⟨Nat.succ.inj hlen, has, rfl⟩

/-- The length of a list has to be written before its entries. -/
lemma decode_list_eq_ok_iff [Wire α] {p : α → Prop}
    (h : ∀ {bytes : List UInt8} {a : α} {rest : List UInt8},
      (decode : Decoder α) bytes = .ok (a, rest) ↔ p a ∧ bytes = encode a ++ rest)
    {as : List α} :
    (decode : Decoder (List α)) bytes = .ok (as, rest) ↔
      as.length < UInt64.size ∧ (∀ a ∈ as, p a) ∧ bytes = encode as ++ rest := by
  unfold decode encode instWireList
  simp only [bind_eq_ok_iff, decode_eq_ok_iff, takeMany_eq_ok_iff h]
  constructor
  · rintro ⟨n, _, rfl, hlen, has, rfl⟩
    refine ⟨hlen ▸ n.toNat_lt, has, ?_⟩
    rw [hlen, UInt64.ofNat_toNat, List.append_assoc]
  · rintro ⟨hlen, has, rfl⟩
    refine ⟨UInt64.ofNat as.length, as.flatMap encode ++ rest, ?_, ?_, has, rfl⟩
    · rw [List.append_assoc]
    · exact (UInt64.toNat_ofNat_of_lt' hlen).symm

/-! ### Structures -/

instance : Wire.Exact Binary64 where
  decode_eq_ok_iff {bytes x rest} := by
    unfold decode encode instWireBinary64
    simp only [bind_eq_ok_iff, pure_eq_ok_iff, decode_eq_ok_iff]
    cases x
    simp

instance : Wire.Exact Timestamp where
  decode_eq_ok_iff {bytes t rest} := by
    unfold decode encode instWireTimestamp
    simp only [bind_eq_ok_iff, pure_eq_ok_iff, decode_eq_ok_iff]
    cases t
    simp

instance : Wire.Exact NodeId where
  decode_eq_ok_iff {bytes id rest} := by
    unfold decode encode instWireNodeId
    simp only [bind_eq_ok_iff, pure_eq_ok_iff, decode_eq_ok_iff]
    cases id
    simp

instance : Wire.Exact Vec2 where
  decode_eq_ok_iff {bytes v rest} := by
    unfold decode encode instWireVec2
    simp only [bind_eq_ok_iff, pure_eq_ok_iff, decode_eq_ok_iff]
    cases v
    simp

instance : Wire.Exact Vec3 where
  decode_eq_ok_iff {bytes v rest} := by
    unfold decode encode instWireVec3
    simp only [bind_eq_ok_iff, pure_eq_ok_iff, decode_eq_ok_iff]
    cases v
    simp

instance : Wire.Exact Grid where
  decode_eq_ok_iff {bytes g rest} := by
    unfold decode encode instWireGrid
    simp only [bind_eq_ok_iff, pure_eq_ok_iff, decode_eq_ok_iff]
    cases g
    simp

/-! ### Choices -/

/-- The first of some variants, or one of the others. -/
lemma exists_getElem?_cons {a : α} {as : List α} {p : Nat → α → Prop} :
    (∃ i b, (a :: as)[i]? = some b ∧ p i b) ↔
      p 0 a ∨ ∃ i b, as[i]? = some b ∧ p (i + 1) b := by
  constructor
  · rintro ⟨i, b, hb, h⟩
    cases i with
    | zero => exact .inl (Option.some.inj hb ▸ h)
    | succ i => exact .inr ⟨i, b, hb, h⟩
  · rintro (h | ⟨i, b, hb, h⟩)
    · exact ⟨0, a, rfl, h⟩
    · exact ⟨i + 1, b, hb, h⟩

lemma takeVariant_eq_ok_iff {variants : List (Decoder α)} (hlen : variants.length ≤ UInt32.size)
    {a : α} : takeVariant variants bytes = .ok (a, rest) ↔
      ∃ i d, variants[i]? = some d ∧ ∃ mid, bytes = encodeVariant i ++ mid ∧
        d mid = .ok (a, rest) := by
  simp only [takeVariant, bind_eq_ok_iff, decode_eq_ok_iff]
  constructor
  · rintro ⟨found, mid, rfl, h⟩
    cases hd : variants[found.toNat]? with
    | none =>
      rw [hd] at h
      exact absurd h throw_ne_ok
    | some d =>
      rw [hd] at h
      refine ⟨found.toNat, d, hd, mid, ?_, h⟩
      rw [encodeVariant, UInt32.ofNat_toNat]
  · rintro ⟨i, d, hd, mid, rfl, h⟩
    have hi : i < UInt32.size := by
      have := (List.getElem?_eq_some_iff.1 hd).1
      omega
    refine ⟨UInt32.ofNat i, mid, rfl, ?_⟩
    rw [UInt32.toNat_ofNat_of_lt' hi, hd]
    exact h

instance : Wire.Exact Degree where
  decode_eq_ok_iff {bytes d rest} := by
    unfold decode encode instWireDegree
    rw [takeVariant_eq_ok_iff (by decide)]
    simp only [exists_getElem?_cons, pure_eq_ok_iff]
    cases d <;> simp

instance : Wire.Exact Incident where
  decode_eq_ok_iff {bytes i rest} := by
    unfold decode encode instWireIncident
    rw [takeVariant_eq_ok_iff (by decide)]
    simp only [exists_getElem?_cons, pure_eq_ok_iff]
    cases i <;> simp

instance : Wire.Exact MessageKind where
  decode_eq_ok_iff {bytes k rest} := by
    unfold decode encode instWireMessageKind
    rw [takeVariant_eq_ok_iff (by decide)]
    simp only [exists_getElem?_cons, pure_eq_ok_iff]
    cases k <;> simp [MessageKind.index]

instance : Wire.Exact Record where
  decode_eq_ok_iff {bytes r rest} := by
    unfold decode encode instWireRecord
    simp only [bind_eq_ok_iff, pure_eq_ok_iff, decode_eq_ok_iff]
    cases r
    simp [-Bool.exists_bool]

/-! ### Density maps, messages and packets -/

/-- Whether the length of the list of cells can be written: it is below `2^64`, as the length of
every list in the memory of a node is. -/
def DensityMap.IsWritable (m : DensityMap) : Prop := m.cells.length < UInt64.size

/-- Whether the lengths in a message can be written. Only a density map has one. -/
def Message.IsWritable : Message → Prop
  | .densityMap _ _ _ map => map.IsWritable
  | _ => True

/-- Whether the lengths in a packet can be written: that of the list of messages, and those in
each message. -/
def Packet.IsWritable (p : Packet) : Prop :=
  p.messages.length < UInt64.size ∧ ∀ m ∈ p.messages, m.IsWritable

lemma Packet.isWritable_single {m : Message} (h : m.IsWritable) : (single m).IsWritable := by
  refine ⟨(by decide : 1 < UInt64.size), ?_⟩
  intro m' hm
  rwa [List.mem_singleton.1 hm]

lemma DensityMap.decode_eq_ok_iff {m : DensityMap} :
    (decode : Decoder DensityMap) bytes = .ok (m, rest) ↔
      m.IsWritable ∧ bytes = encode m ++ rest := by
  have hcells {bytes rest : List UInt8} {as : List Binary64} :
      (decode : Decoder (List Binary64)) bytes = .ok (as, rest) ↔
        as.length < UInt64.size ∧ bytes = encode as ++ rest := by
    rw [decode_list_eq_ok_iff (p := fun _ => True) (by simp [Wire.Exact.decode_eq_ok_iff])]
    simp
  unfold decode encode instWireDensityMap DensityMap.IsWritable
  simp only [bind_eq_ok_iff, pure_eq_ok_iff, Wire.Exact.decode_eq_ok_iff, hcells]
  cases m
  simp [and_left_comm]

/-- Each variant is read by the decoder at its number, field by field. -/
lemma Message.decode_eq_ok_iff {m : Message} :
    (decode : Decoder Message) bytes = .ok (m, rest) ↔
      m.IsWritable ∧ bytes = encode m ++ rest := by
  unfold decode encode instWireMessage
  rw [takeVariant_eq_ok_iff (by decide)]
  simp only [exists_getElem?_cons, bind_eq_ok_iff, pure_eq_ok_iff, Wire.Exact.decode_eq_ok_iff,
    DensityMap.decode_eq_ok_iff]
  cases m <;>
    simp [Message.IsWritable, Message.kind, MessageKind.index, Message.encodeFields, and_comm]

namespace Packet

lemma decode_eq_ok_iff {p : Packet} :
    (decode : Decoder Packet) bytes = .ok (p, rest) ↔
      p.IsWritable ∧ bytes = encode p ++ rest := by
  unfold decode encode instWirePacket IsWritable
  simp only [bind_eq_ok_iff, pure_eq_ok_iff, decode_list_eq_ok_iff Message.decode_eq_ok_iff]
  cases p
  simp [and_assoc]

/-- What follows the packet is ignored. -/
lemma decode?_eq_ok_iff {p : Packet} :
    decode? bytes = .ok p ↔ p.IsWritable ∧ encode p <+: bytes := by
  have hrun : decode? bytes = .ok p ↔
      ∃ rest, (decode : Decoder Packet) bytes = .ok (p, rest) := by
    simp only [decode?, StateT.run']
    cases (decode : Decoder Packet) bytes with
    | error fault => simp [Functor.map, Except.map]
    | ok q =>
      obtain ⟨q, rest⟩ := q
      simp [Functor.map, Except.map]
  simp only [hrun, decode_eq_ok_iff]
  constructor
  · rintro ⟨rest, hw, rfl⟩
    exact ⟨hw, List.prefix_append _ _⟩
  · rintro ⟨hw, rest, rfl⟩
    exact ⟨rest, hw, rfl⟩

lemma decode?_encode {p : Packet} (hw : p.IsWritable) : decode? (encode p) = .ok p :=
  decode?_eq_ok_iff.2 ⟨hw, List.prefix_rfl⟩

/-- A byte string has a packet exactly when it begins with the encoding of that packet. So every
packet is read back from its encoding, no two packets have the same one, and a byte string that
begins with no encoding is rejected. -/
theorem decodes_exactly_encodings (bytes : List UInt8) (p q : Packet) :
    (decode? bytes = .ok p ↔ p.IsWritable ∧ encode p <+: bytes) ∧
      (p.IsWritable → decode? (encode p) = .ok p) ∧
      (p.IsWritable → q.IsWritable → encode p = encode q → p = q) ∧
      ((∃ fault, decode? bytes = .error fault) ↔
        ∀ p : Packet, p.IsWritable → ¬ encode p <+: bytes) := by
  refine ⟨decode?_eq_ok_iff, decode?_encode, fun hp hq heq => ?_, ?_, fun h => ?_⟩
  · have hread := decode?_encode hp
    rw [heq, decode?_encode hq] at hread
    exact (Except.ok.inj hread).symm
  · rintro ⟨fault, hfault⟩ p hp hprefix
    rw [decode?_eq_ok_iff.2 ⟨hp, hprefix⟩] at hfault
    cases hfault
  · cases hread : decode? bytes with
    | error fault => exact ⟨fault, rfl⟩
    | ok p =>
      obtain ⟨hp, hprefix⟩ := decode?_eq_ok_iff.1 hread
      exact absurd hprefix (h p hp)

end Packet

end ClusterWave
