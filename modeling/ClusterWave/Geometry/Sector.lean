import ClusterWave.Geometry.Vector
import ClusterWave.Time.Duration

/-!
# Sectors and travel delays

A sector is the part of a disc within half an opening angle of an axis. A displacement is measured
in the frame of the axis: the first coordinate is the time a traveller with the axis as its
velocity needs for it, and the second keeps the side it lies on.
-/

namespace ClusterWave

/-- A displacement in the frame of a velocity; there is none for a zero or unbounded velocity. -/
def Vec2.inFrame? (delta velocity : Vec2) : Option Vec2 :=
  let scale := velocity.x * velocity.x + velocity.y * velocity.y
  if scale.isZero || !scale.isFinite then none
  else
    some
      ⟨(velocity.x * delta.x + velocity.y * delta.y) / scale,
        (-velocity.y * delta.x + velocity.x * delta.y) / scale⟩

/-- A circular sector: the points within `radius` of `apex` and half of `angle` from `axis`. -/
structure Sector where
  apex : Vec2
  axis : Vec2
  radius : Binary64
  angle : Binary64

namespace Sector

/-- The ray at an angle from the axis. -/
private def ray (angle : Binary64) : Vec2 := ⟨angle.cos, angle.sin⟩

/-- Whether a point lies in the sector.

Points at distance `radius` belong to it. Up to half a turn a point has to be on the inner side of
both border rays, from there on of one of them. Without an axis there is no sector. -/
def contains (s : Sector) (p : Vec2) : Bool :=
  let delta := p - s.apex
  match delta.inFrame? s.axis with
  | none => false
  | some d =>
    let last := ray (s.angle / Binary64.two)
    let first := ray (-s.angle / Binary64.two)
    if s.radius * s.radius < delta.normSq then false
    else
      let fromFirst := first.x * d.y - d.x * first.y
      let fromLast := last.x * d.y - d.x * last.y
      if Binary64.zero < first.x * last.y - last.x * first.y then
        !decide (fromFirst < Binary64.zero) && !decide (Binary64.zero < fromLast)
      else
        decide (Binary64.zero ≤ fromFirst) || decide (fromLast ≤ Binary64.zero)

end Sector

/-- Time a front with a given velocity needs from one point to the line through another. -/
def frontDelay? (source destination velocity : Vec2) : Option Duration :=
  ((destination - source).inFrame? velocity).bind fun d => Duration.ofSeconds? d.x.abs

/-- Time to cover a distance at a positive speed. -/
def travelTime? (distance speed : Binary64) : Option Duration :=
  if Binary64.zero < speed then Duration.ofSeconds? (distance / speed) else none

end ClusterWave
