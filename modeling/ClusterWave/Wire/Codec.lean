import ClusterWave.Wire.Format
import ClusterWave.Wire.Message

/-!
# The wire form of packets

The fields of a structure follow each other in order. A packet is the list of its messages. Bytes
after a packet are ignored.
-/

namespace ClusterWave

instance : Wire Binary64 where
  encode x := encode x.bits
  decode := do pure ⟨← decode⟩

instance : Wire Timestamp where
  encode t := encode t.micros
  decode := do pure ⟨← decode⟩

instance : Wire NodeId where
  encode id := encode id.val
  decode := do pure ⟨← decode⟩

instance : Wire Vec2 where
  encode v := encode v.x ++ encode v.y
  decode := do pure ⟨← decode, ← decode⟩

instance : Wire Vec3 where
  encode v := encode v.x ++ encode v.y ++ encode v.z
  decode := do pure ⟨← decode, ← decode, ← decode⟩

instance : Wire Degree where
  encode
    | .standalone => encodeVariant 0
    | .head => encodeVariant 1
    | .member => encodeVariant 2
  decode := takeVariant [pure .standalone, pure .head, pure .member]

instance : Wire Incident where
  encode
    | .emergency => encodeVariant 0
    | .notification => encodeVariant 1
  decode := takeVariant [pure .emergency, pure .notification]

instance : Wire MessageKind where
  encode k := encodeVariant k.index
  decode := takeVariant
    [ pure .clusterInfo, pure .initiateCluster, pure .formCluster, pure .neighborCluster,
      pure .densityMap, pure .interCluster, pure .intraCluster, pure .interNode, pure .ack,
      pure .incident ]

instance : Wire Record where
  encode r :=
    encode r.id ++ encode r.position ++ encode r.degree ++ encode r.cluster ++ encode r.headAddress
      ++ encode r.timestamp ++ encode r.isStarter ++ encode r.velocity
  decode := do
    pure
      { id := ← decode
        position := ← decode
        degree := ← decode
        cluster := ← decode
        headAddress := ← decode
        timestamp := ← decode
        isStarter := ← decode
        velocity := ← decode }

instance : Wire Grid where
  encode g := encode g.size ++ encode g.scale
  decode := do pure ⟨← decode, ← decode⟩

instance : Wire DensityMap where
  encode m := encode m.grid ++ encode m.cells
  decode := do pure ⟨← decode, ← decode⟩

/-- The fields of a message, without its variant. -/
def Message.encodeFields : Message → List UInt8
  | .clusterInfo seq record => encode seq ++ encode record
  | .initiateCluster seq cluster record => encode seq ++ encode cluster ++ encode record
  | .formCluster seq record => encode seq ++ encode record
  | .neighborCluster seq cluster record => encode seq ++ encode cluster ++ encode record
  | .densityMap seq cluster record map =>
    encode seq ++ encode cluster ++ encode record ++ encode map
  | .interCluster seq cluster source destination direction startTime =>
    encode seq ++ encode cluster ++ encode source ++ encode destination ++ encode direction
      ++ encode startTime
  | .intraCluster seq cluster starter startTime direction =>
    encode seq ++ encode cluster ++ encode starter ++ encode startTime ++ encode direction
  | .interNode seq cluster position direction startTime =>
    encode seq ++ encode cluster ++ encode position ++ encode direction ++ encode startTime
  | .ack seq cluster kind => encode seq ++ encode cluster ++ encode kind
  | .incident origin timestamp cluster severity =>
    encode origin ++ encode timestamp ++ encode cluster ++ encode severity

instance : Wire Message where
  encode m := encodeVariant m.kind.index ++ m.encodeFields
  decode := takeVariant
    [ do pure (.clusterInfo (← decode) (← decode)),
      do pure (.initiateCluster (← decode) (← decode) (← decode)),
      do pure (.formCluster (← decode) (← decode)),
      do pure (.neighborCluster (← decode) (← decode) (← decode)),
      do pure (.densityMap (← decode) (← decode) (← decode) (← decode)),
      do pure (.interCluster (← decode) (← decode) (← decode) (← decode) (← decode) (← decode)),
      do pure (.intraCluster (← decode) (← decode) (← decode) (← decode) (← decode)),
      do pure (.interNode (← decode) (← decode) (← decode) (← decode) (← decode)),
      do pure (.ack (← decode) (← decode) (← decode)),
      do pure (.incident (← decode) (← decode) (← decode) (← decode)) ]

instance : Wire Packet where
  encode p := encode p.messages
  decode := do pure ⟨← decode⟩

/-- The packet at the front of a byte string. -/
def Packet.decode? (bytes : List UInt8) : Except WireFault Packet :=
  (decode : Decoder Packet).run' bytes

end ClusterWave
