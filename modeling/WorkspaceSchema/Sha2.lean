import WorkspaceSchema.Der

/-!
# Digests

A family of digests.  The message is padded to whole blocks of sixteen words: a one bit, zeros, and
the length in bits.  Each block is mixed into eight words of state in many rounds.  A round takes one
word of the schedule, which begins with the block; the schedule is kept as a window of the next
sixteen words.

The members of the family differ in the size of a word, in the number of rounds, and in how far
words are turned.  The words a member begins with are the first bits behind the point of the square
roots of the first primes, and those of its rounds are the first bits behind the point of their cube
roots.
-/

namespace WorkspaceSchema

/-- A member of the family.  `turns` are the distances for the two sums of a round; `schedule` those
for the two sums of the schedule, the last of which shifts. -/
structure Sha2 where
  width : Nat
  rounds : Nat
  turnsOfA : Nat × Nat × Nat
  turnsOfE : Nat × Nat × Nat
  early : Nat × Nat × Nat
  late : Nat × Nat × Nat
deriving DecidableEq, Repr

namespace Sha2

/-- The member with words of 32 bits. -/
def sha256 : Sha2 :=
  ⟨32, 64, (2, 13, 22), (6, 11, 25), (7, 18, 3), (17, 19, 10)⟩

/-- The member with words of 64 bits. -/
def sha512 : Sha2 :=
  ⟨64, 80, (28, 34, 39), (14, 18, 41), (1, 8, 7), (19, 61, 6)⟩

/-! ### Words -/

/-- A sum of words. -/
def plus (v : Sha2) (a b : Nat) : Nat :=
  (a + b) % Nat.pow 2 v.width

/-- A word turned to the right. -/
def turn (v : Sha2) (w n : Nat) : Nat :=
  w / Nat.pow 2 n + w % Nat.pow 2 n * Nat.pow 2 (v.width - n)

/-- Three turned copies of a word, added bit by bit. -/
def mixTurned (v : Sha2) (w : Nat) (turns : Nat × Nat × Nat) : Nat :=
  v.turn w turns.1 ^^^ v.turn w turns.2.1 ^^^ v.turn w turns.2.2

/-- Two turned copies and a shifted one, added bit by bit. -/
def mixShifted (v : Sha2) (w : Nat) (turns : Nat × Nat × Nat) : Nat :=
  v.turn w turns.1 ^^^ v.turn w turns.2.1 ^^^ (w / Nat.pow 2 turns.2.2)

/-- The bits of `b` where `a` has ones, and those of `c` where it has zeros. -/
def choose (a b c : Nat) : Nat :=
  c ^^^ (a &&& (b ^^^ c))

/-- The bits that most of three words have. -/
def majority (a b c : Nat) : Nat :=
  (a &&& b) ^^^ (a &&& c) ^^^ (b &&& c)

/-! ### Constants -/

/-- Whether no number from 2 up to `k` divides `n`. -/
def isUndivided (n : Nat) : Nat → Bool
  | 0 => true
  | k + 1 => k = 0 || (n % (k + 1) ≠ 0 && isUndivided n k)

/-- The first `count` primes, all of which are below 500. -/
def primes (count : Nat) : List Nat :=
  ((List.range 500).filter fun n => 2 ≤ n && isUndivided n (n - 1)).take count

/-- The greatest number whose power is at most `n`, found bit by bit from `root` on. -/
def rootFrom (degree n : Nat) : Nat → Nat → Nat
  | 0, root => root
  | bits + 1, root =>
    let next := root + Nat.pow 2 bits
    rootFrom degree n bits (if Nat.pow next degree ≤ n then next else root)

/-- The first bits behind the point of a root of a number below 500. -/
def rootBits (v : Sha2) (degree n : Nat) : Nat :=
  rootFrom degree (n * Nat.pow 2 (degree * v.width)) (v.width + 5) 0 % Nat.pow 2 v.width

/-- The words of the rounds. -/
def roundWords (v : Sha2) : List Nat :=
  (primes v.rounds).map (v.rootBits 3)

/-- The state between two blocks. -/
structure State where
  a : Nat
  b : Nat
  c : Nat
  d : Nat
  e : Nat
  f : Nat
  g : Nat
  h : Nat
deriving DecidableEq, Repr

/-- The state that eight words make. -/
def State.ofWords : List Nat → State
  | [a, b, c, d, e, f, g, h] => ⟨a, b, c, d, e, f, g, h⟩
  | _ => ⟨0, 0, 0, 0, 0, 0, 0, 0⟩

/-- The words of a state. -/
def State.words (s : State) : List Nat :=
  [s.a, s.b, s.c, s.d, s.e, s.f, s.g, s.h]

/-- The state before the first block. -/
def initial (v : Sha2) : State :=
  State.ofWords ((primes 8).map (v.rootBits 2))

/-! ### Blocks -/

/-- The word of the schedule after a window of sixteen. -/
def scheduleWord (v : Sha2) (window : List Nat) : Nat :=
  v.plus (v.plus (window.getD 0 0) (v.mixShifted (window.getD 1 0) v.early))
    (v.plus (window.getD 9 0) (v.mixShifted (window.getD 14 0) v.late))

/-- One round with the constant `k` and the word `w`. -/
def round (v : Sha2) (s : State) (k w : Nat) : State :=
  let first := v.plus (v.plus s.h (v.mixTurned s.e v.turnsOfE))
    (v.plus (choose s.e s.f s.g) (v.plus k w))
  let second := v.plus (v.mixTurned s.a v.turnsOfA) (majority s.a s.b s.c)
  ⟨v.plus first second, s.a, s.b, s.c, v.plus s.d first, s.e, s.f, s.g⟩

/-- The rounds with the given constants, from a window of the schedule. -/
def roundsFrom (v : Sha2) : List Nat → List Nat → State → State
  | [], _, s => s
  | k :: ks, window, s =>
    roundsFrom v ks (window.drop 1 ++ [v.scheduleWord window]) (v.round s k (window.getD 0 0))

/-- Mixes a block into the state. -/
def compress (v : Sha2) (constants : List Nat) (s : State) (block : List Nat) : State :=
  State.ofWords (List.zipWith v.plus s.words (v.roundsFrom constants block s).words)

/-! ### Messages -/

/-- Bytes in a word. -/
def wordBytes (v : Sha2) : Nat :=
  v.width / 8

/-- A message padded to whole blocks. -/
def pad (v : Sha2) (message : List UInt8) : List UInt8 :=
  let block := 16 * v.wordBytes
  let lengthBytes := 2 * v.wordBytes
  let zeros := (2 * block - 1 - lengthBytes - message.length % block) % block
  message ++ [0x80] ++ List.replicate zeros 0 ++ Der.bytesOfNat lengthBytes (message.length * 8)

/-- The first `count` words that bytes stand for. -/
def wordsOf (v : Sha2) : Nat → List UInt8 → List Nat
  | 0, _ => []
  | count + 1, bytes =>
    Der.natOfBytes (bytes.take v.wordBytes) :: wordsOf v count (bytes.drop v.wordBytes)

/-- Mixes blocks of bytes into the state. -/
def absorb (v : Sha2) (constants : List Nat) : Nat → List UInt8 → State → State
  | 0, _, s => s
  | blocks + 1, bytes, s =>
    absorb v constants blocks (bytes.drop (16 * v.wordBytes))
      (v.compress constants s (v.wordsOf 16 bytes))

/-- The digest of a message, of eight words. -/
def digest (v : Sha2) (message : List UInt8) : List UInt8 :=
  let padded := v.pad message
  let s := v.absorb v.roundWords (padded.length / (16 * v.wordBytes)) padded v.initial
  s.words.flatMap (Der.bytesOfNat v.wordBytes)

end Sha2

end WorkspaceSchema
