/-
This file hashes the name of a query to 64 bits under a seed, so that every query has its own
stream of random scores and has the same one in every run. The hash works on the UTF-8 bytes of
the name, folding the 128-bit products of their words.
-/

import Holdout.Naturals

namespace Holdout

namespace Random

/-- The multiplier of the hash and of the generators seeded from it. -/
def multiplier : UInt64 := 6364136223846793005

/-- A rotation to the left; only the six low bits of the amount count. -/
def rotateLeft (word amount : UInt64) : UInt64 :=
  (word <<< (amount % 64)) ||| (word >>> ((64 - amount % 64) % 64))

/-- The exclusive or of the two halves of a 128-bit product. -/
def foldedProduct (first second : UInt64) : UInt64 :=
  let product := first.toNat * second.toNat
  UInt64.ofNat (product % twoTo 64) ^^^ UInt64.ofNat (product / twoTo 64)

/-- The number whose bytes these are, the least significant first. -/
def littleEndian : List UInt8 → UInt64
  | [] => 0
  | byte :: rest => byte.toUInt64 ||| (littleEndian rest <<< 8)

/-- The state of the hash: what it has taken in so far, and the pad that goes into every step. -/
structure HashState where
  buffer : UInt64
  pad : UInt64

namespace HashState

/-- The state before anything was taken in. -/
def ofSeed (seed : UInt64) : HashState where
  buffer := 0x5eed ^^^ 0xbe5466cf34e90c6c
  pad := seed ^^^ 0x452821e638d01377

/-- Takes in two words. -/
def takeWords (state : HashState) (low high : UInt64) : HashState :=
  let folded := foldedProduct (low ^^^ 0xc0ac29b7c97c50dd) (high ^^^ 0x3f84d5b5b5470917)
  { state with buffer := rotateLeft ((state.buffer + state.pad) ^^^ folded) 23 }

/-- Takes in a number. -/
def takeNumber (state : HashState) (number : UInt64) : HashState :=
  { state with buffer := (state.buffer + number) * multiplier }

/-- Takes in a final byte. -/
def takeByte (state : HashState) (byte : UInt64) : HashState :=
  { state with buffer := foldedProduct (byte ^^^ state.buffer) multiplier }

/-- Takes in blocks of sixteen bytes while more than sixteen remain. The fuel is the number of
bytes, and every block takes sixteen of them. -/
def takeBlocks : Nat → HashState → List UInt8 → HashState
  | 0, state, _ => state
  | fuel + 1, state, bytes =>
    if 16 < bytes.length then
      takeBlocks fuel
        (state.takeWords (littleEndian (bytes.take 8)) (littleEndian ((bytes.drop 8).take 8)))
        (bytes.drop 16)
    else state

/-- Takes in a run of bytes: its length, then its words. A short run fills two words from both of
its ends; a long one takes in its last sixteen bytes first. -/
def takeBytes (state : HashState) (bytes : List UInt8) : HashState :=
  let count := bytes.length
  let ends := fun (state : HashState) (width : Nat) =>
    state.takeWords (littleEndian (bytes.take width)) (littleEndian (bytes.drop (count - width)))
  let counted := state.takeNumber (UInt64.ofNat count)
  if 16 < count then
    let tail := bytes.drop (count - 16)
    takeBlocks count
      (counted.takeWords (littleEndian (tail.take 8)) (littleEndian (tail.drop 8))) bytes
  else if 8 < count then ends counted 8
  else if 4 ≤ count then ends counted 4
  else if 2 ≤ count then
    counted.takeWords (littleEndian (bytes.take 2)) (littleEndian (bytes.drop (count - 1)))
  else counted.takeWords (littleEndian bytes) (littleEndian bytes)

/-- The hash of everything that was taken in. -/
def finish (state : HashState) : UInt64 :=
  rotateLeft (foldedProduct state.buffer state.pad) state.buffer

end HashState

/-- The hash of a name under a seed. -/
def queryHash (seed : UInt64) (name : String) : UInt64 :=
  (((HashState.ofSeed seed).takeBytes name.toUTF8.toList).takeByte 0xff).finish

end Random

end Holdout
