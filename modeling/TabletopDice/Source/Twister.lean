/-!
The Mersenne Twister with a period of 2^19937 - 1. A state is seeded from an integer of any size,
and gives random bits, of which numbers below a bound are made by drawing until one is small
enough.
-/

set_option autoImplicit false

namespace TabletopDice

/-- The state: 624 words, and how many of them have been given out. -/
structure Twister where
  words : Array UInt32
  used : Nat
deriving Repr

namespace Twister

def size : Nat := 624

/-- The word at an index. Indices beyond the state do not occur. -/
def wordAt (words : Array UInt32) (index : Nat) : UInt32 :=
  words.getD index 0

def spread (word : UInt32) : UInt32 :=
  word ^^^ (word >>> 30)

def grow (seed : UInt32) : Array UInt32 :=
  (List.range (size - 1)).foldl
    (fun words index =>
      words.push (1812433253 * spread (wordAt words index) + UInt32.ofNat (index + 1)))
    #[seed]

/-- The index after `index`, going round from the last word to the second. -/
def nextIndex (index : Nat) : Nat :=
  if index + 1 < size then index + 1 else 1

/-- Replaces the word at an index by the mixture of it with its neighbour. When the index is the
last one, the new word is also the neighbour of the second word on the next round. -/
def mixAt (words : Array UInt32) (index : Nat) (mix : UInt32 → UInt32 → UInt32) :
    Array UInt32 :=
  let mixed := mix (wordAt words index) (spread (wordAt words (index - 1)))
  let words := words.setIfInBounds index mixed
  if index + 1 < size then words else words.setIfInBounds 0 mixed

/-- Mixes a key of at least one word into the words, going round until every word of the key and
of the state has been used. -/
def mixKey (key : Array UInt32) (words : Array UInt32) : Array UInt32 × Nat :=
  (List.range (max size key.size)).foldl
    (fun (words, index) step =>
      let position := step % key.size
      let mixed := mixAt words index fun word neighbour =>
        (word ^^^ (neighbour * 1664525)) + wordAt key position + UInt32.ofNat position
      (mixed, nextIndex index))
    (words, 1)

def mixIndices (words : Array UInt32) (start : Nat) : Array UInt32 :=
  ((List.range (size - 1)).foldl
    (fun (words, index) _ =>
      let mixed := mixAt words index fun word neighbour =>
        (word ^^^ (neighbour * 1566083941)) - UInt32.ofNat index
      (mixed, nextIndex index))
    (words, start)).1

/-- The number of values of a word, 2^32. -/
def wordBase : Nat := 0x100000000

/-- The words of a number to the base 2^32, least significant first; at least one. -/
def keyWords (number : Nat) : List UInt32 :=
  if number < wordBase then [UInt32.ofNat number]
  else UInt32.ofNat (number % wordBase) :: keyWords (number / wordBase)
termination_by number
decreasing_by unfold wordBase at *; omega

/-- The state seeded with the magnitude of an integer. Its first draw renews all words. -/
def ofSeed (seed : Int) : Twister :=
  let (words, index) := mixKey (keyWords seed.natAbs).toArray (grow 19650218)
  ⟨(mixIndices words index).setIfInBounds 0 0x80000000, size⟩

/-- The next state word at an index, from the word there, the one behind it and the one 397 places
on. -/
def renewAt (words : Array UInt32) (index : Nat) : Array UInt32 :=
  let joined :=
    (wordAt words index &&& 0x80000000) ||| (wordAt words ((index + 1) % size) &&& 0x7FFFFFFF)
  let twist : UInt32 := if joined &&& 1 == 0 then 0 else 0x9908B0DF
  words.setIfInBounds index (wordAt words ((index + 397) % size) ^^^ (joined >>> 1) ^^^ twist)

def renew (words : Array UInt32) : Array UInt32 :=
  (List.range size).foldl renewAt words

def temper (word : UInt32) : UInt32 :=
  let word := word ^^^ (word >>> 11)
  let word := word ^^^ ((word <<< 7) &&& 0x9D2C5680)
  let word := word ^^^ ((word <<< 15) &&& 0xEFC60000)
  word ^^^ (word >>> 18)

/-- The next 32 random bits. -/
def next (state : Twister) : UInt32 × Twister :=
  if state.used < size then
    (temper (wordAt state.words state.used), { state with used := state.used + 1 })
  else
    let words := renew state.words
    (temper (wordAt words 0), ⟨words, 1⟩)

/-- A number of so many random bits, taken 32 at a time with the least significant first. The last
word gives its high bits. -/
def bits (count : Nat) (state : Twister) : Nat × Twister :=
  let (word, state) := state.next
  if count ≤ 32 then (word.toNat >>> (32 - count), state)
  else
    let (high, state) := bits (count - 32) state
    (word.toNat + high <<< 32, state)
termination_by count
decreasing_by omega

def bitLength (number : Nat) : Nat :=
  number.log2 + 1

/-- Draws numbers of as many bits as the bound has, until one is below the bound. Each draw
succeeds with a chance of at least one half, so that the fuel never runs out in practice; if it
did, the answer would be zero. -/
def belowWith (fuel : Nat) (bound : Nat) (state : Twister) : Nat × Twister :=
  match fuel with
  | 0 => (0, state)
  | fuel + 1 =>
      let (number, state) := state.bits (bitLength bound)
      if number < bound then (number, state) else belowWith fuel bound state

def below (bound : Nat) (state : Twister) : Nat × Twister :=
  belowWith 100000 bound state

theorem belowWith_lt {bound : Nat} (positive : 0 < bound) (fuel : Nat) (state : Twister) :
    (belowWith fuel bound state).1 < bound := by
  induction fuel generalizing state with
  | zero => exact positive
  | succ fuel ih =>
      simp only [belowWith]
      split
      · assumption
      · exact ih _

end Twister

end TabletopDice
