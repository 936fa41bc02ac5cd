/-!
# A reproducible stream of words

ChaCha with 12 rounds, a block counter of 64 bits and no nonce. A 64-bit seed is spread over the
key by a permuted congruential generator, one word of the key a step.
-/

namespace Acquisition.Random

abbrev Block := Vector UInt32 16

def rotateLeft (v : UInt32) (k : UInt32) : UInt32 := (v <<< k) ||| (v >>> (32 - k))

def quarter (a b c d : UInt32) : UInt32 × UInt32 × UInt32 × UInt32 :=
  let a := a + b
  let d := rotateLeft (d ^^^ a) 16
  let c := c + d
  let b := rotateLeft (b ^^^ c) 12
  let a := a + b
  let d := rotateLeft (d ^^^ a) 8
  let c := c + d
  let b := rotateLeft (b ^^^ c) 7
  (a, b, c, d)

def quarterAt (s : Block) (i j k l : Fin 16) : Block :=
  let (a, b, c, d) := quarter s[i] s[j] s[k] s[l]
  (((s.set i a).set j b).set k c).set l d

/-- Four quarter rounds down the columns and four along the diagonals. -/
def doubleRound (s : Block) : Block :=
  let s := quarterAt s 0 4 8 12
  let s := quarterAt s 1 5 9 13
  let s := quarterAt s 2 6 10 14
  let s := quarterAt s 3 7 11 15
  let s := quarterAt s 0 5 10 15
  let s := quarterAt s 1 6 11 12
  let s := quarterAt s 2 7 8 13
  quarterAt s 3 4 9 14

def doubleRounds : Nat → Block → Block
  | 0, s => s
  | n + 1, s => doubleRounds n (doubleRound s)

/-- The words of block number `counter` under a key. -/
def keyBlock (key : Vector UInt32 8) (counter : UInt64) : Block :=
  let start : Block := #v[
    0x61707865, 0x3320646e, 0x79622d32, 0x6b206574,
    key[0], key[1], key[2], key[3], key[4], key[5], key[6], key[7],
    counter.toUInt32, (counter >>> 32).toUInt32, 0, 0]
  (doubleRounds 6 start).zipWith (· + ·) start

/-- The words not yet drawn: `words` first, then those of the blocks from `counter` on. -/
structure Stream where
  key : Vector UInt32 8
  counter : UInt64
  words : List UInt32
deriving DecidableEq

namespace Stream

def ofKey (key : Vector UInt32 8) : Stream := { key, counter := 0, words := [] }

/-- The state of the seed generator after each step, and the word it puts out there. -/
def seedWord (state : UInt64) : UInt32 :=
  let shuffled := (((state >>> 18) ^^^ state) >>> 27).toUInt32
  let turn := (state >>> 59).toUInt32
  (shuffled >>> turn) ||| (shuffled <<< ((32 - turn) % 32))

def seedStep (state : UInt64) : UInt64 :=
  state * 6364136223846793005 + 11634580027462260723

def seedStates (seed : UInt64) : Nat → UInt64
  | 0 => seed
  | n + 1 => seedStep (seedStates seed n)

def ofSeed (seed : UInt64) : Stream :=
  ofKey (Vector.ofFn fun i => seedWord (seedStates seed (i + 1)))

def nextWord (s : Stream) : UInt32 × Stream :=
  match s.words with
  | w :: rest => (w, { s with words := rest })
  | [] =>
    let block := keyBlock s.key s.counter
    (block[0], { s with counter := s.counter + 1, words := block.toList.drop 1 })

/-- 32 bits as a number. -/
def next32 (s : Stream) : Nat × Stream :=
  let (w, s) := s.nextWord
  (w.toNat, s)

/-- 64 bits as a number, the low word first. -/
def next64 (s : Stream) : Nat × Stream :=
  let (low, s) := s.nextWord
  let (high, s) := s.nextWord
  (low.toNat + UInt32.size * high.toNat, s)

end Stream

end Acquisition.Random
