import ClusterWave.Density.Kernel

/-!
# Density maps

A map tells how densely the members of a cluster lie around its head. It covers `size × size`
square cells of width `scale`, centred on the head. Cell `size · i + j` lies in row `i` and column
`j` and is sampled at `(j · scale - offset, i · scale - offset)` where `offset` is the scale times
`size / 2`.

Values are relative: members spread evenly over the map would give 1 everywhere. A cell is dense
when its value is greater.

Products of sizes are taken modulo `2^64`.
-/

namespace ClusterWave

/-- The cells of a map: how many per side, and how wide. -/
structure Grid where
  size : UInt64
  scale : Binary64
deriving DecidableEq

namespace Grid

/-- The grid of nodes that name no other. -/
def standard : Grid := ⟨20, ⟨0x4024000000000000⟩⟩

/-- A grid needs two cells per side and a positive finite scale. -/
def check (g : Grid) : Except DensityFault Unit :=
  if g.size < 2 ∨ ¬ Binary64.zero < g.scale ∨ ¬ g.scale.isFinite then
    .error (.badGrid g.size g.scale)
  else .ok ()

def cellCount (g : Grid) : UInt64 := g.size * g.size

/-- Distance from the corner to the sample of the centre, along one side. -/
def offset (g : Grid) : Binary64 := g.scale * Binary64.ofUInt64 (g.size / 2)

/-- The area that the grid covers. -/
def area (g : Grid) : Binary64 :=
  let side := Binary64.ofUInt64 g.size * g.scale
  side * side

/-- Where the cell in row `i` and column `j` is sampled. -/
def samplePoint (g : Grid) (i j : UInt64) : Vec2 :=
  ⟨g.scale * Binary64.ofUInt64 j - g.offset, g.scale * Binary64.ofUInt64 i - g.offset⟩

/-- Where the cell of an index is sampled; a grid without cells has no rows to count. -/
def cellOffset? (g : Grid) (index : UInt64) : Option Vec2 :=
  if g.size = 0 then none else some (g.samplePoint (index / g.size) (index % g.size))

/-- The index of the cell that is sampled at the head. -/
def centre (g : Grid) : UInt64 := g.size * (g.size / 2) + g.size / 2

end Grid

/-- The relative density of a cluster, cell by cell. -/
structure DensityMap where
  grid : Grid
  cells : List Binary64
deriving DecidableEq

namespace DensityMap

/-- The map of a head without further members: the value one at the centre. -/
def lone (g : Grid) : DensityMap :=
  ⟨g, (List.replicate g.cellCount.toNat Binary64.zero).set g.centre.toNat Binary64.one⟩

/-- The map of members at given offsets from the head, which counts as a member itself. -/
def ofOffsets (g : Grid) (offsets : List Vec2) : Except DensityFault DensityMap :=
  match g.check with
  | .error fault => .error fault
  | .ok () =>
    if offsets.length < 2 then .ok (lone g)
    else
      match KernelDensity.ofSamples offsets with
      | .error fault => .error fault
      | .ok density =>
        let factor := g.area / Binary64.ofNat offsets.length
        let side := (List.range g.size.toNat).map UInt64.ofNat
        let cells := side.flatMap fun i =>
          side.map fun j => density.value (g.samplePoint i j) * factor
        if cells.all Binary64.isFinite then .ok ⟨g, cells⟩ else .error .unbounded

/-- The map of members at given offsets, or the lone map where they allow no estimate. -/
def estimate (g : Grid) (offsets : List Vec2) : DensityMap :=
  match ofOffsets g offsets with
  | .ok map => map
  | .error _ => lone g

/-- The number of cells has to be the one of the grid. -/
def checkShape (m : DensityMap) : Except DensityFault Unit :=
  if m.cells.length = m.grid.cellCount.toNat then .ok ()
  else .error (.badShape m.grid.size m.grid.cellCount m.cells.length)

/-- A map of given cells on a valid grid. -/
def ofCells (g : Grid) (cells : List Binary64) : Except DensityFault DensityMap :=
  match g.check with
  | .error fault => .error fault
  | .ok () =>
    match (DensityMap.mk g cells).checkShape with
    | .error fault => .error fault
    | .ok () => .ok ⟨g, cells⟩

/-- The value of a cell. -/
def value? (m : DensityMap) (index : Nat) : Option Binary64 := m.cells[index]?

/-- The dense cells with their index. -/
def denseCells (m : DensityMap) : List (Nat × Binary64) :=
  (m.cells.zipIdx.map fun (v, i) => (i, v)).filter fun (_, v) => Binary64.one < v

/-- Where the dense cells lie for a head at a given point.

There is no answer if a dense cell has no place, in a grid of size zero. -/
def densePositions? (m : DensityMap) (head : Vec2) : Option (List Vec2) :=
  m.denseCells.mapM fun (i, _) => (m.grid.cellOffset? (UInt64.ofNat i)).map (head + ·)

/-- The share of the members that the map captures. -/
def mass (m : DensityMap) : Binary64 :=
  Binary64.sum m.cells * (m.grid.scale * m.grid.scale) / m.grid.area

end DensityMap

end ClusterWave
