/-!
# Binary floating point numbers

A number of the 64-bit binary format is its bit pattern, so two numbers are equal exactly when
their bits are. Arithmetic rounds to nearest, ties to even. An operand that is not a number is
passed on, the left one first, and an undefined result is the pattern `invalid`.

The numeric order ignores the sign of zero and is false as soon as an operand is not a number. The
total order sorts every pattern: negative patterns first, not-a-number patterns outermost.
-/

namespace ClusterWave

/-- A 64-bit binary floating point number, identified with its bit pattern. -/
structure Binary64 where
  bits : UInt64
deriving DecidableEq

namespace Binary64

/-! ### Constants -/

def zero : Binary64 := ⟨0x0000000000000000⟩

def half : Binary64 := ⟨0x3fe0000000000000⟩

def one : Binary64 := ⟨0x3ff0000000000000⟩

def two : Binary64 := ⟨0x4000000000000000⟩

/-- The full turn `2π`, rounded. -/
def fullTurn : Binary64 := ⟨0x401921fb54442d18⟩

/-- The quarter turn `π/2`, rounded. -/
def quarterTurn : Binary64 := ⟨0x3ff921fb54442d18⟩

def infinity : Binary64 := ⟨0x7ff0000000000000⟩

/-- The pattern of an undefined result. -/
def invalid : Binary64 := ⟨0xfff8000000000000⟩

instance : Inhabited Binary64 := ⟨zero⟩

/-! ### Parts of the pattern -/

/-- The pattern without its sign bit. -/
def magnitude (x : Binary64) : UInt64 := x.bits &&& 0x7fffffffffffffff

/-- Whether the sign bit is set. -/
def isSigned (x : Binary64) : Bool := 0x8000000000000000 ≤ x.bits

def isNaN (x : Binary64) : Bool := infinity.bits < x.magnitude

def isFinite (x : Binary64) : Bool := x.magnitude < infinity.bits

def isInfinite (x : Binary64) : Bool := x.magnitude == infinity.bits

/-- Whether the number is zero of either sign. -/
def isZero (x : Binary64) : Bool := x.magnitude == 0

/-- A finite number is `m · 2^q` up to its sign; this is `(m, q)`. -/
def significand (x : Binary64) : Nat × Int :=
  let exponent := (x.magnitude >>> 52).toNat
  let fraction := (x.magnitude &&& 0x000fffffffffffff).toNat
  if exponent = 0 then (fraction, -1074) else (fraction + 0x10000000000000, (exponent : Int) - 1075)

/-! ### Arithmetic -/

def toFloat (x : Binary64) : Float := Float.ofBits x.bits

def ofFloat (x : Float) : Binary64 :=
  if (⟨x.toBits⟩ : Binary64).isNaN then invalid else ⟨x.toBits⟩

/-- A not-a-number operand, marked as quiet. -/
def quiet (x : Binary64) : Binary64 := ⟨x.bits ||| 0x0008000000000000⟩

/-- Apply an operation on numbers, passing on an operand that is not one. -/
def map (op : Float → Float) (x : Binary64) : Binary64 :=
  if x.isNaN then x.quiet else ofFloat (op x.toFloat)

/-- Apply a binary operation on numbers, passing on the first operand that is not one. -/
def map₂ (op : Float → Float → Float) (x y : Binary64) : Binary64 :=
  if x.isNaN then x.quiet else if y.isNaN then y.quiet else ofFloat (op x.toFloat y.toFloat)

instance : Add Binary64 := ⟨map₂ (· + ·)⟩

instance : Sub Binary64 := ⟨map₂ (· - ·)⟩

instance : Mul Binary64 := ⟨map₂ (· * ·)⟩

instance : Div Binary64 := ⟨map₂ (· / ·)⟩

/-- Negation flips the sign bit of every pattern. -/
instance : Neg Binary64 := ⟨fun x => ⟨x.bits ^^^ 0x8000000000000000⟩⟩

def abs (x : Binary64) : Binary64 := ⟨x.magnitude⟩

def sqrt (x : Binary64) : Binary64 := x.map Float.sqrt

def exp (x : Binary64) : Binary64 := x.map Float.exp

def sin (x : Binary64) : Binary64 := x.map Float.sin

def cos (x : Binary64) : Binary64 := x.map Float.cos

def pow (x y : Binary64) : Binary64 := map₂ Float.pow x y

/-- The nearest number to a 64-bit count. -/
def ofUInt64 (n : UInt64) : Binary64 := ofFloat n.toFloat

/-- The nearest number to a count below `2^64`. -/
def ofNat (n : Nat) : Binary64 := ofUInt64 (UInt64.ofNat n)

/-- The nearest number to an integer of absolute value below `2^64`. -/
def ofInt (n : Int) : Binary64 := if n < 0 then -ofNat n.natAbs else ofNat n.natAbs

/-- Add up from the left, starting at negative zero, the neutral element of addition. -/
def sum (xs : List Binary64) : Binary64 := xs.foldl (· + ·) (-zero)

/-! ### Order -/

/-- Position of a number on the line of all numbers; both zeros share one. -/
def position (x : Binary64) : UInt64 :=
  if x.isSigned then 0x8000000000000000 - x.magnitude else 0x8000000000000000 + x.magnitude

def less (x y : Binary64) : Bool := !x.isNaN && !y.isNaN && decide (x.position < y.position)

def lessEq (x y : Binary64) : Bool := !x.isNaN && !y.isNaN && decide (x.position ≤ y.position)

/-- Numeric equality: zeros of either sign agree, and what is not a number differs from itself. -/
def agrees (x y : Binary64) : Bool := !x.isNaN && !y.isNaN && x.position == y.position

instance : LT Binary64 := ⟨fun x y => x.less y = true⟩

instance : LE Binary64 := ⟨fun x y => x.lessEq y = true⟩

instance (x y : Binary64) : Decidable (x < y) := inferInstanceAs (Decidable (x.less y = true))

instance (x y : Binary64) : Decidable (x ≤ y) := inferInstanceAs (Decidable (x.lessEq y = true))

/-- Rank of a pattern in the total order. -/
def totalRank (x : Binary64) : UInt64 :=
  if x.isSigned then ~~~x.bits else x.bits + 0x8000000000000000

end Binary64

end ClusterWave
