import ClusterWave.Density.Fault
import ClusterWave.Geometry.Vector

/-!
# Gaussian kernel density

The density at a point is the sum over all samples `p` of
`(2π)⁻¹ · det(H)^(-1/2) · exp(-½ (x - p)ᵀ H⁻¹ (x - p))` for a bandwidth matrix `H`. The sum is not
divided by the number of samples. Scott's rule derives the bandwidth from the sample covariance.
-/

namespace ClusterWave

/-- A matrix with rows `(a, b)` and `(c, d)`. -/
structure Matrix where
  a : Binary64
  b : Binary64
  c : Binary64
  d : Binary64
deriving DecidableEq

namespace Matrix

def diagonal (x y : Binary64) : Matrix := ⟨x, Binary64.zero, Binary64.zero, y⟩

def determinant (m : Matrix) : Binary64 := m.a * m.d - m.b * m.c

def trace (m : Matrix) : Binary64 := m.a + m.d

/-- Multiply every entry by a factor. -/
def scaled (m : Matrix) (k : Binary64) : Matrix := ⟨m.a * k, m.b * k, m.c * k, m.d * k⟩

/-- A determinant up to `10⁻¹²` of the squared trace counts as zero. -/
def singularShare : Binary64 := ⟨0x3d719799812dea11⟩

/-- The inverse of a matrix whose determinant is finite and not too small. -/
def inverse (m : Matrix) : Except DensityFault Matrix :=
  let det := m.determinant
  if !det.isFinite || det ≤ singularShare * m.trace * m.trace then .error (.singular det)
  else .ok ⟨m.d / det, -m.b / det, -m.c / det, m.a / det⟩

/-- The quadratic form `vᵀ M v`. -/
def quadraticForm (m : Matrix) (v : Vec2) : Binary64 :=
  v.x * (m.a * v.x + m.b * v.y) + v.y * (m.c * v.x + m.d * v.y)

end Matrix

/-- The covariance of at least two samples, with one degree of freedom taken by the mean. -/
def covariance (samples : List Vec2) : Except DensityFault Matrix :=
  let n := samples.length
  if n < 2 then .error (.tooFewSamples n)
  else
    let mean := samples.foldl (· + ·) Vec2.zero * (Binary64.one / Binary64.ofNat n)
    let deviations := samples.map (· - mean)
    let total (f : Vec2 → Binary64) := deviations.foldl (fun acc d => acc + f d) Binary64.zero
    let count := Binary64.ofNat (n - 1)
    let xy := total (fun d => d.x * d.y) / count
    .ok ⟨total (fun d => d.x * d.x) / count, xy, xy, total (fun d => d.y * d.y) / count⟩

/-- Scott's rule in the plane: the covariance scaled by `n^(-1/3)`. -/
def scottBandwidth (cov : Matrix) (n : Nat) : Matrix :=
  let factor := (Binary64.ofNat n).pow (-Binary64.one / Binary64.ofNat 6)
  cov.scaled (factor * factor)

/-- A kernel density with its bandwidth, the inverse of that and the factor of every kernel. -/
structure KernelDensity where
  samples : List Vec2
  bandwidth : Matrix
  inverse : Matrix
  factor : Binary64
deriving DecidableEq

namespace KernelDensity

/-- The density of at least one sample for a given bandwidth. -/
def ofBandwidth (samples : List Vec2) (bandwidth : Matrix) : Except DensityFault KernelDensity :=
  if samples.isEmpty then .error (.tooFewSamples 0)
  else
    match bandwidth.inverse with
    | .error fault => .error fault
    | .ok inverse =>
      let factor :=
        Binary64.one / Binary64.fullTurn * bandwidth.determinant.pow (-Binary64.half)
      if factor.isFinite then .ok { samples, bandwidth, inverse, factor } else .error .unbounded

/-- The density of at least two samples, its bandwidth by Scott's rule. -/
def ofSamples (samples : List Vec2) : Except DensityFault KernelDensity :=
  match covariance samples with
  | .error fault => .error fault
  | .ok cov => ofBandwidth samples (scottBandwidth cov samples.length)

/-- One kernel at a displacement from its sample. -/
def kernel (k : KernelDensity) (d : Vec2) : Binary64 :=
  k.factor * (-Binary64.half * k.inverse.quadraticForm d).exp

/-- The sum of all kernels at a point. -/
def value (k : KernelDensity) (p : Vec2) : Binary64 :=
  Binary64.sum (k.samples.map fun s => k.kernel (p - s))

end KernelDensity

end ClusterWave
