import ClusterWave.Number.Binary64

/-!
# Random numbers

Random numbers come from a stream of 32-bit words, the ChaCha stream with twelve rounds. The key of
the stream is expanded from a 64-bit seed by a congruential generator. Each number takes two words.
-/

namespace ClusterWave

/-- A source of random numbers: the key of its stream and how many numbers were drawn. -/
structure Randomness where
  key : Vector UInt32 8
  drawn : Nat
deriving DecidableEq

namespace Randomness

/-! ### The stream -/

/-- The words of a block of the stream. -/
abbrev Block : Type := Vector UInt32 16

/-- Rotate a word to the left. -/
def rotate (x : UInt32) (k : UInt32) : UInt32 := x <<< k ||| x >>> (32 - k)

/-- Add a word to another one, mix the sum into a third one and rotate that. -/
def mix (v : Block) (a b d : Fin 16) (k : UInt32) : Block :=
  let v := v.set a (v[a] + v[b])
  v.set d (rotate (v[d] ^^^ v[a]) k)

def quarterRound (v : Block) (a b c d : Fin 16) : Block :=
  mix (mix (mix (mix v a b d 16) c d b 12) a b d 8) c d b 7

/-- A round over the columns of a block and one over its diagonals. -/
def doubleRound (v : Block) : Block :=
  let v := quarterRound v 0 4 8 12
  let v := quarterRound v 1 5 9 13
  let v := quarterRound v 2 6 10 14
  let v := quarterRound v 3 7 11 15
  let v := quarterRound v 0 5 10 15
  let v := quarterRound v 1 6 11 12
  let v := quarterRound v 2 7 8 13
  quarterRound v 3 4 9 14

/-- The words `expand 32-byte k` at the head of every block. -/
def headWords : Vector UInt32 4 := #v[0x61707865, 0x3320646e, 0x79622d32, 0x6b206574]

/-- The block of a given number. -/
def block (key : Vector UInt32 8) (counter : UInt64) : Block :=
  let initial : Block :=
    headWords ++ key ++ #v[counter.toUInt32, (counter >>> 32).toUInt32, 0, 0]
  let mixed := Nat.repeat doubleRound 6 initial
  Vector.zipWith (· + ·) mixed initial

/-- The `i`-th word of the stream. -/
def word (key : Vector UInt32 8) (i : Nat) : UInt32 :=
  (block key (UInt64.ofNat (i / 16))).getD (i % 16) 0

/-! ### Seeding and drawing -/

/-- The next state of the generator that expands a seed. -/
def nextState (state : UInt64) : UInt64 := state * 6364136223846793005 + 11634580027462260723

/-- The word that a state of that generator gives. -/
def stateWord (state : UInt64) : UInt32 :=
  let x := (((state >>> 18) ^^^ state) >>> 27).toUInt32
  let k := (state >>> 59).toUInt32
  x >>> k ||| x <<< ((32 - k) % 32)

/-- The state after `n + 1` steps. -/
def stateAfter (seed : UInt64) (n : Nat) : UInt64 := Nat.repeat nextState (n + 1) seed

def ofSeed (seed : UInt64) : Randomness :=
  ⟨Vector.ofFn fun i : Fin 8 => stateWord (stateAfter seed i), 0⟩

/-- The difference between neighboring random numbers, `2⁻⁵³`. -/
def unit : Binary64 := ⟨0x3ca0000000000000⟩

/-- Draw a number that is at least zero and less than one. -/
def draw (r : Randomness) : Binary64 × Randomness :=
  let low := word r.key (2 * r.drawn)
  let high := word r.key (2 * r.drawn + 1)
  let bits := high.toUInt64 <<< 32 ||| low.toUInt64
  (Binary64.ofUInt64 (bits >>> 11) * unit, { r with drawn := r.drawn + 1 })

end Randomness

end ClusterWave
