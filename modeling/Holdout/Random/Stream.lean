/-
This file generates random numbers from a 64-bit seed. A permuted congruential generator spreads
the seed over a key of eight words, and the stream of the ChaCha cipher with twelve rounds under
that key gives the numbers. Each double takes the upper 53 bits of two words and lies between zero
and one.
-/

import Holdout.Random.QueryHash

namespace Holdout

namespace Random

/-! ### The key -/

/-- A rotation to the right of a 32-bit word; only the five low bits of the amount count. -/
def rotateRight32 (word amount : UInt32) : UInt32 :=
  (word >>> (amount % 32)) ||| (word <<< ((32 - amount % 32) % 32))

/-- A rotation to the left of a 32-bit word. -/
def rotateLeft32 (word amount : UInt32) : UInt32 := rotateRight32 word (32 - amount % 32)

/-- One step of the congruential generator. -/
def advance (state : UInt64) : UInt64 := state * multiplier + 11634580027462260723

/-- The word that a state of the congruential generator shows. -/
def output (state : UInt64) : UInt32 :=
  rotateRight32 (((state >>> 18) ^^^ state) >>> 27).toUInt32 (state >>> 59).toUInt32

/-- The next words of the congruential generator. -/
def keyWords : Nat → UInt64 → List UInt32
  | 0, _ => []
  | count + 1, state => output (advance state) :: keyWords count (advance state)

/-! ### The cipher -/

/-- The sixteen words of a block. -/
abbrev Block := Vector UInt32 16

/-- The quarter round on four words of a block. -/
def quarterRound (a b c d : Fin 16) (block : Block) : Block :=
  let add := fun (goal source : Fin 16) (block : Block) =>
    block.set goal (block[goal] + block[source])
  let mix := fun (goal source : Fin 16) (amount : UInt32) (block : Block) =>
    block.set goal (rotateLeft32 (block[goal] ^^^ block[source]) amount)
  mix b c 7 (add c d (mix d a 8 (add a b (mix b c 12 (add c d (mix d a 16 (add a b block)))))))

/-- The quarter rounds on the columns, then on the diagonals. -/
def doubleRound (block : Block) : Block :=
  let columns := quarterRound 3 7 11 15 (quarterRound 2 6 10 14
    (quarterRound 1 5 9 13 (quarterRound 0 4 8 12 block)))
  quarterRound 3 4 9 14 (quarterRound 2 7 8 13
    (quarterRound 1 6 11 12 (quarterRound 0 5 10 15 columns)))

/-- The block before its rounds: four constants, the key, the number of the block, and zeros. -/
def firstBlock (key : List UInt32) (counter : UInt64) : Block :=
  let constants : List UInt32 := [0x61707865, 0x3320646e, 0x79622d32, 0x6b206574]
  let words := constants ++ key ++ [counter.toUInt32, (counter >>> 32).toUInt32, 0, 0]
  Vector.ofFn fun index => words.getD index.val 0

/-- The words of one block of the stream: twelve rounds, and the block before them added. -/
def blockWords (key : List UInt32) (counter : UInt64) : List UInt32 :=
  let block := firstBlock key counter
  let mixed := (List.range 6).foldl (fun block _ => doubleRound block) block
  (Vector.zipWith (· + ·) mixed block).toList

/-! ### The numbers -/

/-- The first words of the stream of a key, in whole blocks. -/
def streamWords (key : List UInt32) (blocks : Nat) : List UInt32 :=
  (List.range blocks).flatMap fun counter => blockWords key (UInt64.ofNat counter)

/-- The double that two words stand for: their upper 53 bits as a fraction. -/
def unitFloat (low high : UInt32) : Float :=
  let word := low.toUInt64 ||| (high.toUInt64 <<< 32)
  (word >>> 11).toFloat / 9007199254740992

/-- The doubles that a stream of words gives, two words for each. -/
def unitFloats : List UInt32 → List Float
  | low :: high :: rest => unitFloat low high :: unitFloats rest
  | _ => []

/-- The first random numbers of a seed. A block gives eight of them. -/
def numbers (seed : UInt64) (count : Nat) : List Float :=
  (unitFloats (streamWords (keyWords 8 seed) (count / 8 + 1))).take count

end Random

end Holdout
