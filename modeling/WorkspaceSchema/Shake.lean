import WorkspaceSchema.LittleEndian

/-!
# Digests of any length

A digest that goes on as long as it is asked for.  The state is 25 words of 64 bits in five rows of
five.  The message, padded to whole blocks, is added to the first words of the state block by block,
with a permutation after each; then the same words are given out, with a permutation between two
blocks.  The words that no block reaches are what makes the digest hard to steer: the more of them
there are, the stronger it is.
-/

namespace WorkspaceSchema

/-- A member of the family: the bytes in a block. -/
structure Shake where
  rate : Nat
deriving DecidableEq, Repr

namespace Shake

/-- The member with 128 bits of strength. -/
def shake128 : Shake := ⟨168⟩

/-- The member with 256 bits of strength. -/
def shake256 : Shake := ⟨136⟩

/-! ### The permutation -/

/-- The words of a state; the one in column `x` and row `y` has the place `x + 5 * y`. -/
abbrev State : Type := Array UInt64

/-- The word in a column and a row, both of which wrap around. -/
def State.word (s : State) (x y : Nat) : UInt64 :=
  s.getD (x % 5 + 5 * (y % 5)) 0

/-- The state whose words `f` gives. -/
def State.build (f : Nat → Nat → UInt64) : State :=
  (Array.range 25).map fun i => f (i % 5) (i / 5)

/-- A word turned to the left. -/
def turn (w : UInt64) (n : Nat) : UInt64 :=
  w <<< UInt64.ofNat n ||| w >>> UInt64.ofNat (64 - n)

/-- The words of a column, added bit by bit. -/
def columnSum (s : State) (x : Nat) : UInt64 :=
  s.word x 0 ^^^ s.word x 1 ^^^ s.word x 2 ^^^ s.word x 3 ^^^ s.word x 4

/-- Adds to each word the sums of the columns beside it, that on the right turned by one. -/
def mixColumns (s : State) : State :=
  let sums := (Array.range 5).map (columnSum s)
  let sum := fun x : Nat => sums.getD (x % 5) 0
  State.build fun x y => s.word x y ^^^ sum (x + 4) ^^^ turn (sum (x + 1)) 1

/-- How far the words are turned: a walk from the second word of the first row reaches all words but
the first, and the distances are the triangular numbers. -/
def distances : Array Nat :=
  let step := fun (table, x, y) t =>
    ((table : Array Nat).setIfInBounds (x + 5 * y) ((t + 1) * (t + 2) / 2 % 64),
      (y : Nat), (2 * x + 3 * y) % 5)
  ((List.range 24).foldl step (Array.replicate 25 0, 1, 0)).1

/-- Turns the words, and moves each to another place. -/
def scatter (s : State) : State :=
  State.build fun x y =>
    let column := (x + 3 * y) % 5
    turn (s.word column x) (distances.getD (column + 5 * x) 0)

/-- Adds to each word the bits of the second word after it where the next one has zeros. -/
def mixRows (s : State) : State :=
  State.build fun x y => s.word x y ^^^ (~~~(s.word (x + 1) y) &&& s.word (x + 2) y)

/-- The next content of a register of eight bits that runs through 255 of them. -/
def nextRegister (r : Nat) : Nat :=
  if r < 128 then 2 * r else (2 * r - 256) ^^^ 0x71

/-- The words that are added in the rounds: at the places one below the powers of two up to 64 stand
the last bits of the register at seven times in a row. -/
def roundWords : List UInt64 :=
  let registers := (List.range 168).foldl
    (fun (seen, r) _ => (seen ++ [r], nextRegister r)) (([] : List Nat), 1)
  (List.range 24).map fun round =>
    let bits := (registers.1.drop (7 * round)).take 7
    UInt64.ofNat ((bits.zipIdx.map fun (r, j) =>
      r % 2 * Nat.pow 2 (Nat.pow 2 j - 1)).foldl (· + ·) 0)

/-- One round. -/
def round (s : State) (k : UInt64) : State :=
  let s := mixRows (scatter (mixColumns s))
  s.setIfInBounds 0 (s.word 0 0 ^^^ k)

/-- All rounds. -/
def permute (s : State) : State :=
  roundWords.foldl round s

/-! ### Messages -/

/-- A message padded to whole blocks. -/
def pad (v : Shake) (message : List UInt8) : List UInt8 :=
  let room := v.rate - message.length % v.rate
  if room = 1 then message ++ [0x9F]
  else message ++ [0x1F] ++ List.replicate (room - 2) 0 ++ [0x80]

/-- Adds the block at the head of `bytes` to a state. -/
def addBlock (v : Shake) (s : State) (bytes : List UInt8) : State :=
  State.build fun x y =>
    let place := x + 5 * y
    if 8 * place < v.rate then
      s.word x y ^^^ UInt64.ofNat (LittleEndian.natOfBytes ((bytes.drop (8 * place)).take 8))
    else s.word x y

/-- Adds blocks to a state, with a permutation after each. -/
def absorb (v : Shake) : Nat → List UInt8 → State → State
  | 0, _, s => s
  | blocks + 1, bytes, s => absorb v blocks (bytes.drop v.rate) (permute (v.addBlock s bytes))

/-- The block that a state gives out. -/
def block (v : Shake) (s : State) : List UInt8 :=
  (s.toList.take (v.rate / 8)).flatMap fun w => LittleEndian.bytesOfNat 8 w.toNat

/-- The next blocks that are given out. -/
def squeeze (v : Shake) : Nat → State → List UInt8
  | 0, _ => []
  | blocks + 1, s => v.block s ++ squeeze v blocks (permute s)

/-- The first `count` bytes of the digest of a message. -/
def digest (v : Shake) (count : Nat) (message : List UInt8) : List UInt8 :=
  let padded := v.pad message
  let s := v.absorb (padded.length / v.rate) padded (State.build fun _ _ => 0)
  (v.squeeze ((count + v.rate - 1) / v.rate) s).take count

end Shake

end WorkspaceSchema
