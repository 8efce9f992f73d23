/-!
# Punycode

Host names travel in ASCII.  A label with other characters is written as its ASCII characters
followed by a variable-length numeral for each of the others, in the order of their code points:
each numeral says how many positions to pass before the next insertion.  `encode` writes a label so,
and `decode?` reads it.
-/

namespace WorkspaceSchema.Url.Punycode

/-- The digit of a value below 36: letters first, then figures. -/
def digit (n : Nat) : Char :=
  if n < 26 then Char.ofNat (97 + n) else Char.ofNat (22 + n)

/-- Divides down until the value is small, counting the steps. -/
def damp : Nat → Nat → Nat → Nat
  | 0, _, k => k
  | fuel + 1, delta, k => if 455 < delta then damp fuel (delta / 35) (k + 36) else k + 36 * delta / (delta + 38)

/-- The new bias after an insertion among `points` code points. -/
def adapt (delta points : Nat) (first : Bool) : Nat :=
  let delta := if first then delta / 700 else delta / 2
  let delta := delta + delta / points
  damp delta delta 0

/-- The threshold of a digit of weight `k`. -/
def threshold (k bias : Nat) : Nat :=
  if k ≤ bias then 1 else if bias + 26 ≤ k then 26 else k - bias

/-- The digits of a numeral, the least significant first. -/
def numeral (bias : Nat) : Nat → Nat → Nat → List Char
  | 0, _, _ => []
  | fuel + 1, k, q =>
    let t := threshold k bias
    if q < t then [digit q]
    else digit (t + (q - t) % (36 - t)) :: numeral bias fuel (k + 36) ((q - t) / (36 - t))

/-- The state of the encoder between two insertions. -/
structure State where
  delta : Nat
  bias : Nat
  handled : Nat
  output : List Char

/-- Passes over one code point of the label while `n` is being inserted. -/
def visit (basic n : Nat) (s : State) (c : Nat) : State :=
  if c < n then { s with delta := s.delta + 1 }
  else if c = n then
    { delta := 0
      bias := adapt s.delta (s.handled + 1) (s.handled = basic)
      handled := s.handled + 1
      output := s.output ++ numeral s.bias (s.delta + 1) 36 s.delta }
  else s

/-- Inserts every occurrence of the code points in `rest`, which ascend from `n`. -/
def insertAll (basic : Nat) (label : List Nat) : Nat → List Nat → State → State
  | _, [], s => s
  | n, m :: rest, s =>
    let s := { s with delta := s.delta + (m - n) * (s.handled + 1) }
    let s := label.foldl (visit basic m) s
    insertAll basic label (m + 1) rest { s with delta := s.delta + 1 }

/-- A label in Punycode. -/
def encode (label : List Char) : List Char :=
  let ascii := label.filter (·.toNat < 0x80)
  let points := label.map Char.toNat
  let others := ((points.filter (0x80 ≤ ·)).eraseDups).mergeSort
  let start : State := ⟨0, 72, ascii.length, if ascii.isEmpty then [] else ascii ++ ['-']⟩
  (insertAll ascii.length points 0x80 others start).output

/-! ### Reading -/

/-- The value of a digit. -/
def digitValue? (c : Char) : Option Nat :=
  if 'a' ≤ c && c ≤ 'z' then some (c.toNat - 97)
  else if '0' ≤ c && c ≤ '9' then some (c.toNat - 22)
  else none

/-- One more than the greatest sum and the greatest weight that are counted with. -/
def word : Nat := 4294967296

/-- Reads a numeral at the head of a text, and adds it to `sum`: the result and the text after it.
`weight` is that of the first digit. -/
def readNumeral? (bias : Nat) : Nat → Nat → Nat → List Char → Option (Nat × List Char)
  | _, _, _, [] => none
  | k, weight, sum, c :: rest => do
    let value ← digitValue? c
    let sum := sum + value * weight
    let t := threshold k bias
    if word ≤ sum then none
    else if value < t then some (sum, rest)
    else if word ≤ weight * (36 - t) then none
    else readNumeral? bias (k + 36) (weight * (36 - t)) sum rest

/-- A numeral has at least one digit. -/
theorem length_lt_of_readNumeral? {bias k weight sum n : Nat} {cs rest : List Char}
    (h : readNumeral? bias k weight sum cs = some (n, rest)) : rest.length < cs.length := by
  induction cs generalizing k weight sum with
  | nil => simp [readNumeral?] at h
  | cons c cs ih =>
    rw [readNumeral?] at h
    cases hv : digitValue? c with
    | none => simp [hv] at h
    | some value =>
      simp only [hv, Option.bind_eq_bind, Option.bind_some] at h
      split at h
      · simp at h
      · split at h
        · simp only [Option.some.injEq, Prod.mk.injEq] at h
          simp [← h.2]
        · split at h
          · simp at h
          · exact Nat.lt_succ_of_lt (ih h)

/-- Inserts the characters that the numerals of `cs` stand for into `label`.  The next one is not
below the code point `n`, nor is it in front of the place `place` if it is `n` again. -/
def insertDecoded? (bias n place : Nat) (label cs : List Char) : Option (List Char) :=
  match _h : readNumeral? bias 36 1 place cs with
  | none => if cs.isEmpty then some label else none
  | some (reached, rest) =>
    let places := label.length + 1
    let n := n + reached / places
    if n.isValidChar then
      insertDecoded? (adapt (reached - place) places (place = 0)) n (reached % places + 1)
        (label.insertIdx (reached % places) (Char.ofNat n)) rest
    else none
termination_by cs.length
decreasing_by exact length_lt_of_readNumeral? ‹_›

/-- The label that a text in Punycode stands for.  What stands before the last hyphen are its
characters in ASCII; a hyphen in front separates nothing. -/
def decode? (cs : List Char) : Option (List Char) :=
  let after := (cs.reverse.takeWhile (· ≠ '-')).reverse
  match cs.take (cs.length - after.length - 1) with
  | [] => insertDecoded? 72 0x80 0 [] cs
  | ascii => insertDecoded? 72 0x80 0 ascii after

end WorkspaceSchema.Url.Punycode
