import ClusterWave.Number.Text

/-!
# Faults of a density estimate
-/

namespace ClusterWave

/-- Why a density could not be estimated. -/
inductive DensityFault where
  /-- Fewer samples than a covariance needs. -/
  | tooFewSamples (count : Nat)
  /-- The bandwidth has no usable inverse: the samples coincide or lie on a line. -/
  | singular (determinant : Binary64)
  /-- A value left the range of finite numbers. -/
  | unbounded
  /-- The grid has no centre cell or no positive finite scale. -/
  | badGrid (size : UInt64) (scale : Binary64)
  /-- The number of cells disagrees with the grid. -/
  | badShape (size expected : UInt64) (actual : Nat)
deriving DecidableEq

/-- The fault in words. -/
def DensityFault.message : DensityFault → String
  | .tooFewSamples count => "need at least two samples, got " ++ toString count
  | .singular determinant =>
    "singular bandwidth matrix (determinant " ++ determinant.scientific ++ ")"
  | .unbounded => "non-finite kernel normalization term"
  | .badGrid size scale => "invalid grid: size " ++ toString size ++ ", scale " ++ scale.plain
  | .badShape size expected actual =>
    "grid of size " ++ toString size ++ " needs " ++ toString expected ++ " cells, got "
      ++ toString actual

end ClusterWave
