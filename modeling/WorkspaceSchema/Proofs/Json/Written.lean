import Mathlib.Tactic.IntervalCases
import WorkspaceSchema.Proofs.Json.Container

/-!
# Documents as they are written

The same document can be written in many ways: with blanks between its parts, with its characters as they
are or escaped, with its members in any order and some of them twice.  `Written` is a document with
everything that reading may depend on, and `Written.Spelled` says which bytes write it.  Where a character
may be escaped, all its spellings are allowed, and blanks may stand in front of every part.

This is the grammar of documents, without any reader.  What follows it are the readers that pass over a
part: they get to the end of a document, however deep it is nested (`Written.reads_skippedValue`).  The walk
that passes over a document is given a number of rounds, and every round that it takes is paid for by a byte.
-/

namespace WorkspaceSchema.Json

open Reading

/-! ### The grammar -/

/-- A document as it is written.  Members stand in their order, each as often as it is written.  A number is
its sign, its digits up to the point, and what follows them. -/
inductive Written where
  | null
  | bool (value : Bool)
  | number (negative : Bool) (whole : Nat) (tail : List UInt8)
  | text (value : String)
  | array (items : List Written)
  | object (members : List (String × Written))

/-- Some part, with blanks in front of it. -/
def Behind (part bytes : List UInt8) : Prop :=
  ∃ blanks, (∀ b ∈ blanks, Cursor.isBlank b = true) ∧ bytes = blanks ++ part

/-- Digits, at least one. -/
def IsDigits (ds : List UInt8) : Prop :=
  ds ≠ [] ∧ ∀ d ∈ ds, isDigit d = true

/-- A point and digits. -/
def IsFraction (bytes : List UInt8) : Prop :=
  ∃ ds, IsDigits ds ∧ bytes = 0x2E :: ds

/-- The letter of an exponent, its sign if it has one, and digits. -/
def IsExponent (bytes : List UInt8) : Prop :=
  ∃ letter sign ds, (letter = 0x65 ∨ letter = 0x45) ∧ (sign = [] ∨ sign = [0x2B] ∨ sign = [0x2D]) ∧
    IsDigits ds ∧ bytes = letter :: (sign ++ ds)

/-- What may follow the whole part of a number. -/
def IsTail (bytes : List UInt8) : Prop :=
  ∃ fraction exponent, (fraction = [] ∨ IsFraction fraction) ∧ (exponent = [] ∨ IsExponent exponent) ∧
    bytes = fraction ++ exponent

/-- A part of a container: the first one stands alone, and each of the others behind a comma. -/
def Separated (first : Bool) (part bytes : List UInt8) : Prop :=
  match first with
  | true => bytes = part
  | false => Behind (0x2C :: part) bytes

mutual

/-- The bytes that write a document, with blanks in front of it. -/
def Written.Spelled : Written → List UInt8 → Prop
  | .null, bytes => Behind [0x6E, 0x75, 0x6C, 0x6C] bytes
  | .bool true, bytes => Behind [0x74, 0x72, 0x75, 0x65] bytes
  | .bool false, bytes => Behind [0x66, 0x61, 0x6C, 0x73, 0x65] bytes
  | .number negative whole tail, bytes => IsTail tail ∧
    Behind ((if negative then [0x2D] else []) ++ (digits whole ++ tail)) bytes
  | .text value, bytes => ∃ body, SpellsText value.toList body ∧ Behind (0x22 :: (body ++ [0x22])) bytes
  | .array items, bytes => ∃ inner, SpelledItems true items inner ∧ Behind (0x5B :: inner) bytes
  | .object members, bytes => ∃ inner, SpelledMembers true members inner ∧ Behind (0x7B :: inner) bytes

/-- The bytes that write the items of a list, with the closing bracket. -/
def SpelledItems : Bool → List Written → List UInt8 → Prop
  | _, [], bytes => Behind [0x5D] bytes
  | first, item :: items, bytes => ∃ one later, item.Spelled one ∧ SpelledItems false items later ∧
    Separated first (one ++ later) bytes

/-- The bytes that write the members of an object, with the closing brace. -/
def SpelledMembers : Bool → List (String × Written) → List UInt8 → Prop
  | _, [], bytes => Behind [0x7D] bytes
  | first, (name, value) :: members, bytes => ∃ body one later valued named,
    SpellsText name.toList body ∧ value.Spelled one ∧ SpelledMembers false members later ∧
    Behind (0x3A :: (one ++ later)) valued ∧ Behind (0x22 :: (body ++ (0x22 :: valued))) named ∧
    Separated first named bytes

end

/-- The texts of a document: bytes that write it, and blanks. -/
def Written.Writes (t : Written) (bytes : List UInt8) : Prop :=
  ∃ spelled blanks, t.Spelled spelled ∧ (∀ b ∈ blanks, Cursor.isBlank b = true) ∧
    bytes = spelled ++ blanks

/-! ### What stands in front -/

section Behind

variable {b : UInt8} {part bytes rest : List UInt8}

lemma Behind.self (part : List UInt8) : Behind part part :=
  ⟨[], List.forall_mem_nil _, rfl⟩

/-- Blanks are passed over on the way to a part. -/
lemma Behind.reads_peekToken (behind : Behind (b :: part) bytes) (visible : Cursor.isBlank b = false) :
    Reads peekToken (bytes ++ rest) (some b) (b :: (part ++ rest)) := by
  obtain ⟨blanks, blank, rfl⟩ := behind
  rw [List.append_assoc]
  exact reads_peekToken_blanks blank visible (part ++ rest)

lemma Behind.length_le (behind : Behind part bytes) : part.length ≤ bytes.length := by
  obtain ⟨blanks, -, rfl⟩ := behind
  rw [List.length_append]
  exact Nat.le_add_left _ _

/-- A number ends in front of blanks. -/
lemma delimited_of_blank {blanks : List UInt8} (blank : ∀ b ∈ blanks, Cursor.isBlank b = true)
    (delimited : Delimited rest) : Delimited (blanks ++ rest) := by
  cases blanks with
  | nil => exact delimited
  | cons b blanks =>
    have first := blank b List.mem_cons_self
    simp only [Cursor.isBlank, Bool.or_eq_true, decide_eq_true_eq] at first
    exact .inr ⟨b, _, rfl, by tauto⟩

/-- A number ends in front of a comma or a closing bracket. -/
lemma Behind.delimited (behind : Behind (b :: part) bytes) (ends : b = 0x2C ∨ b = 0x5D ∨ b = 0x7D) :
    Delimited (bytes ++ rest) := by
  obtain ⟨blanks, blank, rfl⟩ := behind
  rw [List.append_assoc]
  exact delimited_of_blank blank (.inr ⟨b, _, rfl, by tauto⟩)

end Behind

/-- The bytes that a document may begin with. -/
def Written.BeginsWith : Written → UInt8 → Prop
  | .null, b => b = 0x6E
  | .bool true, b => b = 0x74
  | .bool false, b => b = 0x66
  | .number negative _ _, b => if negative = true then b = 0x2D else isDigit b = true
  | .text _, b => b = 0x22
  | .array _, b => b = 0x5B
  | .object _, b => b = 0x7B

/-- No document begins with a blank, or like the end of a list. -/
lemma Written.BeginsWith.opens {t : Written} {b : UInt8} (begins : t.BeginsWith b) :
    Cursor.isBlank b = false ∧ b ≠ 0x5D := by
  have digit (b : UInt8) (is : isDigit b = true) : Cursor.isBlank b = false ∧ b ≠ 0x5D := by
    refine ⟨?_, by rintro rfl; cases is⟩
    rw [← Bool.not_eq_true]
    intro blank
    simp only [Cursor.isBlank, Bool.or_eq_true, decide_eq_true_eq] at blank
    rcases blank with ((rfl | rfl) | rfl) | rfl <;> cases is
  unfold BeginsWith at begins
  split at begins
  case h_4 =>
    split at begins
    · subst begins; decide
    · exact digit b begins
  all_goals subst begins; decide

/-- The bytes of a document begin, behind blanks, with one that tells its kind. -/
lemma Written.Spelled.exists_first {t : Written} {bytes : List UInt8} (spelled : t.Spelled bytes) :
    ∃ b part, Behind (b :: part) bytes ∧ t.Spelled (b :: part) ∧ t.BeginsWith b := by
  cases t with
  | null => exact ⟨_, _, spelled, .self _, rfl⟩
  | bool value => cases value <;> exact ⟨_, _, spelled, .self _, rfl⟩
  | number negative whole tail =>
    obtain ⟨isTail, behind⟩ := spelled
    cases negative with
    | true => exact ⟨_, _, behind, ⟨isTail, .self _⟩, rfl⟩
    | false =>
      obtain ⟨d, others, first, one, -⟩ := exists_digits whole
      rw [first] at behind
      refine ⟨_, _, behind, ⟨isTail, ?_⟩, isDigit_ofNat d one⟩
      rw [first]
      exact .self _
  | text value =>
    obtain ⟨body, spells, behind⟩ := spelled
    exact ⟨_, _, behind, ⟨body, spells, .self _⟩, rfl⟩
  | array items =>
    obtain ⟨inner, spells, behind⟩ := spelled
    exact ⟨_, _, behind, ⟨inner, spells, .self _⟩, rfl⟩
  | object members =>
    obtain ⟨inner, spells, behind⟩ := spelled
    exact ⟨_, _, behind, ⟨inner, spells, .self _⟩, rfl⟩

/-! ### Texts -/

section Texts

variable {c : Char} {letters body : List UInt8} {value : Nat}

/-- Characters that need no escape are a spelling of themselves. -/
lemma SpellsText.plain {cs : List Char}
    (plain : cs.all (fun c => c ≠ '"' && c ≠ '\\' && !decide (c.toNat < 0x20)) = true) :
    SpellsText cs (Utf8.encode cs) := by
  induction cs with
  | nil => exact .nil
  | cons c cs ih =>
    rw [List.all_cons, Bool.and_eq_true, Bool.and_eq_true, Bool.and_eq_true, Bool.not_eq_true',
      decide_eq_true_eq, decide_eq_true_eq, decide_eq_false_iff_not] at plain
    obtain ⟨⟨⟨quote, backslash⟩, printable⟩, others⟩ := plain
    rw [Utf8.encode_cons]
    exact .cons (.plain quote backslash printable) (ih others)

/-! ### Passing over texts -/

lemma skippedTextFrom_skip (passed rest : List UInt8) (taken : Nat) :
    skippedTextFrom passed.length taken (passed ++ rest) =
      skippedTextFrom 0 (taken + passed.length) rest := by
  induction passed generalizing taken with
  | nil => rfl
  | cons b passed ih =>
    rw [List.length_cons, List.cons_append, skippedTextFrom, ih, Nat.add_assoc, Nat.add_comm 1]

lemma skippedTextFrom_plain {bytes : List UInt8} (plain : ∀ b ∈ bytes, StandsForItself b)
    (rest : List UInt8) (taken : Nat) :
    skippedTextFrom 0 taken (bytes ++ rest) = skippedTextFrom 0 (taken + bytes.length) rest := by
  induction bytes generalizing taken with
  | nil => rfl
  | cons b bytes ih =>
    obtain ⟨quote, backslash, printable⟩ := plain b List.mem_cons_self
    rw [List.cons_append, skippedTextFrom, if_neg quote, if_neg backslash, if_neg printable,
      ih (fun b' member => plain b' (List.mem_cons_of_mem b member)), List.length_cons, Nat.add_assoc,
      Nat.add_comm 1]

lemma skippedTextFrom_escape (letters rest : List UInt8)
    (known : skippedEscape (letters ++ rest) = .ok letters.length) (taken : Nat) :
    skippedTextFrom 0 taken (0x5C :: letters ++ rest) =
      skippedTextFrom 0 (taken + (0x5C :: letters).length) rest := by
  rw [List.cons_append, skippedTextFrom, if_neg (by decide), if_pos rfl, known]
  change skippedTextFrom letters.length (taken + 1) (letters ++ rest) = _
  rw [skippedTextFrom_skip, List.length_cons, Nat.add_assoc, Nat.add_comm 1]

lemma skippedTextFrom_unit (unit : IsUnit letters value) (rest : List UInt8) (taken : Nat) :
    skippedTextFrom 0 taken (0x5C :: 0x75 :: letters ++ rest) =
      skippedTextFrom 0 (taken + (0x5C :: 0x75 :: letters).length) rest := by
  obtain ⟨four, is⟩ := hexUnit_of_isUnit unit rest
  refine skippedTextFrom_escape (0x75 :: letters) rest ?_ taken
  rw [List.cons_append, skippedEscape, is, List.length_cons, four]
  rfl

/-- A character is passed over, however it is spelled. -/
lemma SpellsChar.skippedTextFrom (spells : SpellsChar c body) (rest : List UInt8) (taken : Nat) :
    skippedTextFrom 0 taken (body ++ rest) = skippedTextFrom 0 (taken + body.length) rest := by
  cases spells with
  | plain quote backslash printable =>
    exact skippedTextFrom_plain (fun b => standsForItself_of_mem quote backslash printable) rest taken
  | @short letter known =>
    refine skippedTextFrom_escape [letter] rest ?_ taken
    simp only [shortEscapes, List.mem_cons, Prod.mk.injEq, List.not_mem_nil, or_false] at known
    rcases known with ⟨rfl, -⟩ | ⟨rfl, -⟩ | ⟨rfl, -⟩ | ⟨rfl, -⟩ | ⟨rfl, -⟩ | ⟨rfl, -⟩ | ⟨rfl, -⟩ |
      ⟨rfl, -⟩ <;> rfl
  | unit unit => exact skippedTextFrom_unit unit rest taken
  | pair first second =>
    rw [List.append_assoc, skippedTextFrom_unit first, skippedTextFrom_unit second, List.length_append,
      Nat.add_assoc]

/-- A text is passed over, its first quote having been passed. -/
lemma reads_skippedTextBody {cs : List Char} (spells : SpellsText cs body) (rest : List UInt8) :
    Reads skippedTextBody (body ++ 0x22 :: rest) () rest := by
  have found (taken : Nat) :
      skippedTextFrom 0 taken (body ++ 0x22 :: rest) = .ok (taken + body.length + 1) := by
    induction spells generalizing taken with
    | nil => rfl
    | cons one others ih =>
      rw [List.append_assoc, one.skippedTextFrom, ih, List.length_append, ← Nat.add_assoc]
  intro c here
  refine ⟨c.advance (0 + body.length + 1), ?_, ?_⟩
  · unfold skippedTextBody
    rw [StateT.run_bind, StateT.run_get, pure_bind, here, found 0]
    rfl
  · rw [Cursor.rest_advance, here, Nat.zero_add]
    exact List.drop_length_add_append 1

end Texts

/-! ### Passing over numbers -/

section Numbers

variable {ds tail rest : List UInt8}

/-- What may follow the whole part of a number is no further digit of it. -/
lemma IsTail.takeWhile_isDigit (isTail : IsTail tail) (delimited : Delimited rest) :
    (tail ++ rest).takeWhile isDigit = [] := by
  obtain ⟨fraction, exponent, fractional, exponential, rfl⟩ := isTail
  rcases fractional with rfl | ⟨ds, -, rfl⟩
  · rcases exponential with rfl | ⟨letter, sign, ds, rfl | rfl, -, -, rfl⟩
    · exact delimited.takeWhile_isDigit
    · rfl
    · rfl
  · rfl

lemma IsDigits.isEmpty_eq_false (filled : IsDigits ds) : ¬ds.isEmpty = true := by
  rw [List.isEmpty_iff]
  exact filled.1

/-- Digits are not the sign of an exponent. -/
lemma IsDigits.head?_ne_sign (filled : IsDigits ds) {sign : UInt8} (is : sign = 0x2B ∨ sign = 0x2D) :
    (ds ++ rest).head? ≠ some sign := by
  obtain ⟨d, ds, rfl⟩ := List.exists_cons_of_ne_nil filled.1
  intro same
  obtain rfl := Option.some.inj same
  have digit := filled.2 d List.mem_cons_self
  rcases is with rfl | rfl <;> cases digit

/-- Digits are passed over, if something else follows them, and are not missed. -/
lemma IsDigits.reads_filled {later : List UInt8 → Reading Unit} {refusal : Reading Unit}
    (filled : IsDigits ds) (stops : tail.takeWhile isDigit = [])
    (reads : Reads (later ds) (ds ++ tail) () rest) :
    Reads (do
      let taken ← digitsAhead
      if taken.isEmpty = true then refusal else later taken) (ds ++ tail) () rest := by
  refine (reads_digitsAhead filled.2 stops).bind ?_
  rw [if_neg filled.isEmpty_eq_false]
  exact reads

/-- Nothing that may follow a fraction, or the whole part of a number without one, begins with a point. -/
lemma head?_ne_point {exponent : List UInt8} (exponential : exponent = [] ∨ IsExponent exponent)
    (delimited : Delimited rest) : (exponent ++ rest).head? ≠ some 0x2E := by
  intro point
  rcases exponential with rfl | ⟨letter, sign, ds, rfl | rfl, -, -, rfl⟩
  · rcases delimited with rfl | ⟨b, tail, rfl, rfl | rfl | rfl | rfl | rfl | rfl | rfl⟩ <;> cases point
  · cases point
  · cases point

/-- A number is passed over, its sign having been passed. -/
lemma reads_skippedNumber (whole : Nat) (isTail : IsTail tail) (delimited : Delimited rest) :
    Reads skippedNumber (digits whole ++ (tail ++ rest)) () rest := by
  obtain ⟨d, others, first, one, zero⟩ := exists_digits whole
  have head : (digits whole ++ (tail ++ rest)).head? = some (UInt8.ofNat (48 + d)) := by rw [first]; rfl
  unfold skippedNumber
  refine (reads_peek _).bind ?_
  rw [head]
  dsimp only
  rw [if_neg (by rw [isDigit_ofNat d one]; decide)]
  refine (reads_digitsAhead (fun _ => isDigit_of_mem_digits) (isTail.takeWhile_isDigit delimited)).bind ?_
  rw [if_neg (no_leading_zero one zero)]
  refine (reads_skip _ _).bind ?_
  obtain ⟨fraction, exponent, fractional, exponential, rfl⟩ := isTail
  rw [List.append_assoc]
  have stops : (exponent ++ rest).takeWhile isDigit = [] :=
    IsTail.takeWhile_isDigit ⟨[], exponent, .inl rfl, exponential, rfl⟩ delimited
  -- The fraction comes first, and what follows it is the same with and without it.
  refine (reads_peek _).bind ?_
  suffices after : Reads _ (exponent ++ rest) () rest by
    rcases fractional with rfl | ⟨ds, filled, rfl⟩
    · rw [List.nil_append, if_neg (head?_ne_point exponential delimited)]
      exact after
    · exact (reads_skip_one _ _).bind (filled.reads_filled stops ((reads_skip ds _).bind after))
  refine (reads_peek _).bind ?_
  rcases exponential with rfl | ⟨letter, sign, ds, isLetter, isSign, filled, rfl⟩
  · rcases delimited with rfl | ⟨b, tail, rfl, rfl | rfl | rfl | rfl | rfl | rfl | rfl⟩ <;>
      exact reads_pure () _
  · have power : Reads (do
        let taken ← digitsAhead
        if taken.isEmpty = true then refuseAfter 1 .invalidNumber else skip taken.length)
        (ds ++ rest) () rest :=
      filled.reads_filled delimited.takeWhile_isDigit (reads_skip ds rest)
    rw [List.cons_append, List.append_assoc]
    rcases isLetter with rfl | rfl <;> refine (reads_skip_one _ _).bind ((reads_peek _).bind ?_)
    all_goals
      rcases isSign with rfl | rfl | rfl
      · rw [List.nil_append]
        split
        · exact absurd ‹_› (filled.head?_ne_sign (.inl rfl))
        · exact absurd ‹_› (filled.head?_ne_sign (.inr rfl))
        · exact power
      · exact (reads_skip_one _ _).bind power
      · exact (reads_skip_one _ _).bind power

end Numbers

/-! ### Passing over documents -/

section Documents

variable {bytes rest : List UInt8}

/-- A colon is passed over, with the blanks in front of it. -/
lemma Behind.reads_colon {part : List UInt8} (behind : Behind (0x3A :: part) bytes) :
    Reads colon (bytes ++ rest) () (part ++ rest) :=
  (behind.reads_peekToken rfl).bind (reads_skip_one _ _)

lemma Behind.reads_colon_at {part : List UInt8} (behind : Behind (0x3A :: part) bytes) :
    Reads Reading.colon bytes () part := by
  have colon : Reads Reading.colon (bytes ++ []) () (part ++ []) := behind.reads_colon
  rwa [List.append_nil, List.append_nil] at colon

lemma Behind.length_lt {b : UInt8} {part : List UInt8} (behind : Behind (b :: part) bytes) :
    part.length < bytes.length :=
  behind.length_le

/-- What follows an item ends a number. -/
lemma SpelledItems.delimited {items : List Written} (spelled : SpelledItems false items bytes)
    (rest : List UInt8) : Delimited (bytes ++ rest) := by
  cases items with
  | nil => exact Behind.delimited spelled (.inr (.inl rfl))
  | cons item items =>
    obtain ⟨one, later, -, -, behind⟩ := spelled
    exact behind.delimited (.inl rfl)

/-- What follows a member ends a number. -/
lemma SpelledMembers.delimited {members : List (String × Written)}
    (spelled : SpelledMembers false members bytes) (rest : List UInt8) : Delimited (bytes ++ rest) := by
  cases members with
  | nil => exact Behind.delimited spelled (.inr (.inr rfl))
  | cons member members =>
    obtain ⟨body, one, later, valued, named, -, -, -, -, -, behind⟩ := spelled
    exact behind.delimited (.inl rfl)

mutual

/-- A document is passed over in as many rounds as it has bytes. -/
lemma Written.reads_skippedValueFrom (t : Written) {bytes rest : List UInt8} (spelled : t.Spelled bytes)
    (rounds : Nat) (enough : bytes.length ≤ rounds) (delimited : Delimited rest) :
    Reads (skippedValueFrom rounds) (bytes ++ rest) () rest := by
  obtain ⟨b, part, begun, -⟩ := spelled.exists_first
  obtain ⟨rounds, rfl⟩ := Nat.exists_eq_succ_of_ne_zero (n := rounds) (by
    have := begun.length_lt
    omega)
  rw [skippedValueFrom]
  match t with
  | .null =>
    exact (Behind.reads_peekToken spelled rfl).bind
      ((reads_skip_one _ _).bind (reads_keyword [0x75, 0x6C, 0x6C] rest))
  | .bool true =>
    exact (Behind.reads_peekToken spelled rfl).bind
      ((reads_skip_one _ _).bind (reads_keyword [0x72, 0x75, 0x65] rest))
  | .bool false =>
    exact (Behind.reads_peekToken spelled rfl).bind
      ((reads_skip_one _ _).bind (reads_keyword [0x61, 0x6C, 0x73, 0x65] rest))
  | .number true whole tail =>
    obtain ⟨isTail, behind⟩ := spelled
    have number := reads_skippedNumber whole isTail delimited
    rw [← List.append_assoc] at number
    exact (behind.reads_peekToken rfl).bind ((reads_skip_one _ _).bind number)
  | .number false whole tail =>
    obtain ⟨isTail, behind⟩ := spelled
    have number := reads_skippedNumber whole isTail delimited
    obtain ⟨d, others, first, one, -⟩ := exists_digits whole
    obtain ⟨visible, -⟩ := isDigit_first one
    rw [← List.append_assoc] at number
    rw [first] at behind number
    refine (behind.reads_peekToken visible).bind ?_
    -- None of the digits is taken for the beginning of something else.
    interval_cases d <;> exact number
  | .text value =>
    obtain ⟨body, spells, behind⟩ := spelled
    have text := reads_skippedTextBody spells rest
    refine (behind.reads_peekToken rfl).bind ((reads_skip_one _ _).bind ?_)
    rw [List.append_assoc]
    exact text
  | .array [] =>
    obtain ⟨inner, empty, behind⟩ := spelled
    exact (behind.reads_peekToken rfl).bind ((reads_skip_one _ _).bind
      ((Behind.reads_peekToken empty rfl).bind (reads_skip_one _ _)))
  | .array (item :: items) =>
    obtain ⟨inner, ⟨one, later, first, others, rfl⟩, behind⟩ := spelled
    have short := behind.length_lt
    rw [List.length_append] at short
    obtain ⟨b, part, begun, spelled, begins⟩ := first.exists_first
    obtain ⟨visible, other⟩ := begins.opens
    have length := begun.length_le
    have reads := item.reads_skippedValueFrom spelled rounds (by omega) (others.delimited rest)
    have reads' := reads_skippedItemsFrom items others rounds (by omega) rest
    refine (behind.reads_peekToken rfl).bind ((reads_skip_one _ _).bind ?_)
    rw [List.append_assoc]
    refine (begun.reads_peekToken visible).bind ?_
    split
    · contradiction
    · simp_all
    · exact reads.bind reads'
  | .object [] =>
    obtain ⟨inner, empty, behind⟩ := spelled
    exact (behind.reads_peekToken rfl).bind ((reads_skip_one _ _).bind
      ((Behind.reads_peekToken empty rfl).bind (reads_skip_one _ _)))
  | .object ((name, value) :: members) =>
    obtain ⟨inner, ⟨body, one, later, valued, named, text, first, others, colon, quoted, rfl⟩, behind⟩ :=
      spelled
    have short := behind.length_lt
    have length := quoted.length_le
    have reads := reads_skippedMembersFrom name value members
      ⟨body, one, later, valued, _, text, first, others, colon, .self _, rfl⟩ rounds (by omega) rest
    exact (behind.reads_peekToken rfl).bind ((reads_skip_one _ _).bind
      ((quoted.reads_peekToken rfl).bind reads))
termination_by rounds

/-- The items after an item are passed over. -/
lemma reads_skippedItemsFrom (items : List Written) {bytes : List UInt8}
    (spelled : SpelledItems false items bytes) (rounds : Nat) (enough : bytes.length ≤ rounds)
    (rest : List UInt8) :
    Reads (skippedItemsFrom rounds) (bytes ++ rest) () rest := by
  match items with
  | [] =>
    obtain ⟨rounds, rfl⟩ := Nat.exists_eq_succ_of_ne_zero (n := rounds) (by
      have := Behind.length_lt spelled
      omega)
    exact (Behind.reads_peekToken spelled rfl).bind (reads_skip_one _ _)
  | item :: items =>
    obtain ⟨one, later, first, others, behind⟩ := spelled
    have short := Behind.length_lt behind
    rw [List.length_append] at short
    obtain ⟨rounds, rfl⟩ := Nat.exists_eq_succ_of_ne_zero (n := rounds) (by omega)
    have reads := item.reads_skippedValueFrom first rounds (by omega) (others.delimited rest)
    have reads' := reads_skippedItemsFrom items others rounds (by omega) rest
    refine (Behind.reads_peekToken behind rfl).bind ((reads_skip_one _ _).bind ?_)
    rw [List.append_assoc]
    exact reads.bind reads'
termination_by rounds

/-- Members are passed over, the first of them not behind a comma. -/
lemma reads_skippedMembersFrom (name : String) (value : Written) (members : List (String × Written))
    {bytes : List UInt8} (spelled : SpelledMembers true ((name, value) :: members) bytes) (rounds : Nat)
    (enough : bytes.length ≤ rounds) (rest : List UInt8) :
    Reads (skippedMembersFrom rounds) (bytes ++ rest) () rest := by
  obtain ⟨body, one, later, valued, named, text, first, others, colon, quoted, rfl⟩ := spelled
  have short := quoted.length_lt
  have short' := colon.length_lt
  rw [List.length_append, List.length_cons] at short
  rw [List.length_append] at short'
  obtain ⟨rounds, rfl⟩ := Nat.exists_eq_succ_of_ne_zero (n := rounds) (by omega)
  have reads := value.reads_skippedValueFrom first rounds (by omega) (others.delimited rest)
  have named := reads_skippedTextBody text (valued ++ rest)
  have ahead : Reads Reading.colon (valued ++ rest) () (one ++ (later ++ rest)) := by
    rw [← List.append_assoc]
    exact colon.reads_colon
  rw [skippedMembersFrom]
  refine (quoted.reads_peekToken rfl).bind ((reads_skip_one _ _).bind ?_)
  rw [List.append_assoc]
  refine named.bind (ahead.bind (reads.bind ?_))
  match members with
  | [] => exact (Behind.reads_peekToken others rfl).bind (reads_skip_one _ _)
  | (name', value') :: members =>
    obtain ⟨body', one', later', valued', named', text', first', others', colon', quoted', comma⟩ := others
    have short'' := Behind.length_lt comma
    have reads' := reads_skippedMembersFrom name' value' members
      ⟨body', one', later', valued', named', text', first', others', colon', quoted', rfl⟩ rounds (by omega)
      rest
    exact (Behind.reads_peekToken comma rfl).bind ((reads_skip_one _ _).bind reads')
termination_by rounds

end

/-- A document is passed over, however deep it is nested. -/
lemma Written.reads_skippedValue {t : Written} (spelled : t.Spelled bytes) (delimited : Delimited rest) :
    Reads skippedValue (bytes ++ rest) () rest := by
  refine reads_counted (f := fun n => skippedValueFrom (2 * n + 2)) ?_
  refine t.reads_skippedValueFrom spelled _ ?_ delimited
  rw [List.length_append]
  omega

end Documents

end WorkspaceSchema.Json
