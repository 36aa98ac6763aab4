import ClusterWave.Geometry.Vector
import ClusterWave.Peer.Record

/-!
# The schedule of a wavefront

A node knows when it starts itself, and when and where the wavefront starts in its cluster. Both
times only ever move earlier, and never into the past.
-/

namespace ClusterWave

structure Schedule where
  /-- The velocity of the wavefront here. -/
  direction : Option Vec2
  /-- When the node starts. -/
  start : Timestamp
  /-- When the wavefront starts in the cluster. -/
  firstStart : Timestamp
  /-- The node at which it starts. -/
  firstNode : Option NodeId
deriving DecidableEq

namespace Schedule

/-- Nothing is scheduled. -/
def idle : Schedule := ⟨none, Timestamp.never, Timestamp.never, none⟩

def isScheduled (s : Schedule) : Bool := !s.start.isNever

/-- Start earlier, at a time that lies ahead. The answer tells whether that is a change. -/
def relaxStart (s : Schedule) (candidate now : Timestamp) : Schedule × Bool :=
  if now < candidate ∧ candidate < s.start then ({ s with start := candidate }, true)
  else (s, false)

/-- Take over the time of the head, if it lies ahead and is not later. Unless the wavefront is known
to start earlier in the cluster, it starts there at this time and at `node`. -/
def adoptStart (s : Schedule) (candidate : Timestamp) (node : NodeId) (now : Timestamp) :
    Schedule × Bool :=
  if now < candidate ∧ candidate ≤ s.start then
    if candidate ≤ s.firstStart then
      ({ s with start := candidate, firstStart := candidate, firstNode := some node }, true)
    else ({ s with start := candidate }, true)
  else (s, false)

/-- Let the wavefront start earlier in the cluster, at a time that lies ahead and at `node`. -/
def relaxFirstStart (s : Schedule) (candidate : Timestamp) (node : NodeId) (now : Timestamp) :
    Schedule × Bool :=
  if now < candidate ∧ candidate < s.firstStart then
    ({ s with firstStart := candidate, firstNode := some node }, true)
  else (s, false)

/-- Start together with the cluster, if that is earlier. -/
def startWithCluster (s : Schedule) : Schedule × Bool :=
  if s.firstStart < s.start then ({ s with start := s.firstStart }, true) else (s, false)

end Schedule

end ClusterWave
