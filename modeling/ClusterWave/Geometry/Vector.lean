import ClusterWave.Number.Text

/-!
# Vectors in the plane and in space

Positions have three coordinates, but nodes reason in the ground plane. A vector is a position or,
as a velocity, a direction with a speed.
-/

namespace ClusterWave

/-- A vector in the ground plane. -/
structure Vec2 where
  x : Binary64
  y : Binary64
deriving DecidableEq

/-- A position in space. -/
structure Vec3 where
  x : Binary64
  y : Binary64
  z : Binary64
deriving DecidableEq

namespace Vec2

def zero : Vec2 := ⟨Binary64.zero, Binary64.zero⟩

instance : Inhabited Vec2 := ⟨zero⟩

instance : Add Vec2 := ⟨fun a b => ⟨a.x + b.x, a.y + b.y⟩⟩

instance : Sub Vec2 := ⟨fun a b => ⟨a.x - b.x, a.y - b.y⟩⟩

instance : Neg Vec2 := ⟨fun a => ⟨-a.x, -a.y⟩⟩

instance : HMul Vec2 Binary64 Vec2 := ⟨fun a k => ⟨a.x * k, a.y * k⟩⟩

def dot (a b : Vec2) : Binary64 := a.x * b.x + a.y * b.y

/-- The signed area spanned by two vectors. -/
def cross (a b : Vec2) : Binary64 := a.x * b.y - a.y * b.x

def normSq (a : Vec2) : Binary64 := a.dot a

def norm (a : Vec2) : Binary64 := a.normSq.sqrt

/-- Distance between two points. -/
def dist (a b : Vec2) : Binary64 := (b - a).norm

/-- Whether both coordinates are zero. -/
def isZero (a : Vec2) : Bool := a.x.isZero && a.y.isZero

/-- Whether both coordinates agree as numbers. -/
def agrees (a b : Vec2) : Bool := a.x.agrees b.x && a.y.agrees b.y

/-- The unit vector of the same direction, for a positive finite length. -/
def unit? (a : Vec2) : Option Vec2 :=
  let length := a.norm
  if Binary64.zero < length ∧ length.isFinite then some ⟨a.x / length, a.y / length⟩ else none

/-- The vector of the same direction with a given length. -/
def resize? (a : Vec2) (length : Binary64) : Option Vec2 := a.unit?.map (· * length)

/-- The ground position as a position in space. -/
def lift (a : Vec2) : Vec3 := ⟨a.x, a.y, Binary64.zero⟩

/-- Both coordinates with two places. -/
def text (a : Vec2) : String := "(" ++ a.x.fixed 2 ++ ", " ++ a.y.fixed 2 ++ ")"

end Vec2

namespace Vec3

def zero : Vec3 := ⟨Binary64.zero, Binary64.zero, Binary64.zero⟩

instance : Inhabited Vec3 := ⟨zero⟩

instance : Add Vec3 := ⟨fun a b => ⟨a.x + b.x, a.y + b.y, a.z + b.z⟩⟩

instance : Sub Vec3 := ⟨fun a b => ⟨a.x - b.x, a.y - b.y, a.z - b.z⟩⟩

instance : Neg Vec3 := ⟨fun a => ⟨-a.x, -a.y, -a.z⟩⟩

instance : HMul Vec3 Binary64 Vec3 := ⟨fun a k => ⟨a.x * k, a.y * k, a.z * k⟩⟩

/-- The projection onto the ground plane. -/
def ground (a : Vec3) : Vec2 := ⟨a.x, a.y⟩

/-- Distance between two positions, altitude included. -/
def dist (a b : Vec3) : Binary64 :=
  let d := b - a
  (d.x * d.x + d.y * d.y + d.z * d.z).sqrt

/-- Whether all coordinates agree as numbers. -/
def agrees (a b : Vec3) : Bool := a.x.agrees b.x && a.y.agrees b.y && a.z.agrees b.z

/-- All coordinates with two places. -/
def text (a : Vec3) : String :=
  "(" ++ a.x.fixed 2 ++ ", " ++ a.y.fixed 2 ++ ", " ++ a.z.fixed 2 ++ ")"

end Vec3

end ClusterWave
