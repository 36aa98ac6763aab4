import ClusterWave.Wire.Codec

/-!
# Splitting messages into packets

Messages are packed in order, as many into a packet as its encoding may hold. A message that is too
long by itself travels alone.
-/

namespace ClusterWave

/-- The length of a message on the wire. -/
def Message.size (m : Message) : Nat := (encode m).length

namespace Packet

/-- The length of a packet without messages. -/
def envelope : Nat := 8

/-- Go on with a packet that holds the messages `current` and has `size` bytes so far. -/
def batchFrom (limit : Nat) (current : List Message) (size : Nat) : List Message → List Packet
  | [] => if current.isEmpty then [] else [⟨current⟩]
  | m :: rest =>
    if !current.isEmpty && limit < size + m.size then
      ⟨current⟩ :: batchFrom limit [m] (envelope + m.size) rest
    else batchFrom limit (current ++ [m]) (size + m.size) rest

/-- Split messages into packets of at most `limit` bytes. -/
def batch (limit : Nat) (ms : List Message) : List Packet := batchFrom limit [] envelope ms

end Packet

end ClusterWave
