import ClusterWave.Density.Map
import ClusterWave.Geometry.Sector
import ClusterWave.Peer.Record

/-!
# Planning a wavefront

A wavefront that leaves a place is forwarded to every known cluster with a dense cell in the sector
ahead. Of the dense cells the nearest one is taken, and of equally near ones the first.
-/

namespace ClusterWave

/-- A cluster with its density map around the place of its head. -/
structure Target where
  cluster : NodeId
  head : Vec2
  map : DensityMap

/-- Where a wavefront is forwarded to. -/
structure Forward where
  cluster : NodeId
  destination : Vec2
  direction : Vec2
deriving DecidableEq

structure Plan where
  forwards : List Forward
  /-- The direction of the wavefront as a whole. -/
  direction : Vec2
deriving DecidableEq

/-- The first item of least rank. -/
def leastBy? {α : Type} (key : α → UInt64) : List α → Option α
  | [] => none
  | a :: rest => some (rest.foldl (fun best b => if key b < key best then b else best) a)

namespace Plan

/-- How far a place is from another one, in the total order of numbers. -/
def distanceRank (source : Vec2) (p : Vec2) : UInt64 := (source.dist p).totalRank

/-- The forward to a cluster, if one of its dense cells lies in the sector.

There is no answer if a dense cell has no place. -/
def forward? (sector : Sector) (target : Target) : Option (Option Forward) :=
  (target.map.densePositions? target.head).map fun places =>
    (leastBy? (distanceRank sector.apex) (places.filter sector.contains)).map fun destination =>
      { cluster := target.cluster
        destination
        direction :=
          ((destination - sector.apex).resize? sector.axis.norm).getD sector.axis }

/-- The sum of the directions of the forwards, at the incoming speed. -/
def combined (incoming : Vec2) (forwards : List Forward) : Vec2 :=
  if forwards.isEmpty then incoming
  else
    let sum := forwards.foldl (fun acc f => acc + f.direction) Vec2.zero
    (sum.resize? incoming.norm).getD incoming

/-- The plan for a wavefront that leaves `source` with velocity `incoming`.

There is no plan if a dense cell has no place. -/
def make? (source incoming : Vec2) (targets : List Target) (radius angle : Binary64) :
    Option Plan :=
  let sector : Sector := { apex := source, axis := incoming, radius, angle }
  (targets.mapM (forward? sector)).map fun found =>
    let forwards := found.filterMap id
    ⟨forwards, combined incoming forwards⟩

end Plan

/-! ### Passing on -/

/-- The direction of a node that picks a wavefront up: between the incoming direction and the
bearing from the sender, at the incoming speed. -/
def relayDirection (incoming sender receiver : Vec2) : Vec2 :=
  let along := incoming.unit?.getD Vec2.zero
  let away := (receiver - sender).unit?.getD Vec2.zero
  ((along + away).resize? incoming.norm).getD incoming

/-- The wait before the first active window of a duty cycle.

The time since the start, moved ahead by whole periods until it is not negative, shifted by an
offset. Periods are counted in whole microseconds, at least one. -/
def dutyWait (now start : Timestamp) (period offset : Duration) : Duration :=
  let micros : Int := max 1 (period.nanos / 1000 : Nat)
  let phase : Int := now.micros.toNat - start.micros.toNat
  let wrapped := if phase < 0 then phase + Int.tdiv (-phase + micros - 1) micros * micros else phase
  Duration.ofNanos (min wrapped.toNat (UInt64.size - 1) * 1000) + offset

end ClusterWave
