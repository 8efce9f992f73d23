import WorkspaceSchema.Json.Container
import WorkspaceSchema.Json.Printer
import WorkspaceSchema.Proofs.Text.Utf8

/-!
# Reading what was printed: texts and numbers

`Reads r ahead a rest` says that `r`, with the bytes `ahead` in front of it, finds `a` and leaves `rest`,
wherever in a text this may be.  Readers that follow one another are put together by `Reads.bind`, and
`Continues` says that a reader comes down to another one further on.

The two things that take reading byte by byte come here.  A text may be spelled in several ways, character by
character, and each character is read from its own bytes, whether it is escaped or not
(`SpellsChar.textFrom`).  What is printed is one of the spellings (`SpellsText.escaped`).  A number is read up
to the end of its digits, and a whole number is read back if a byte follows that cannot belong to it.
-/

namespace WorkspaceSchema.Json

open Reading

/-- With the bytes `ahead` a reader finds `a`, and leaves `rest`. -/
def Reads {α : Type} (r : Reading α) (ahead : List UInt8) (a : α) (rest : List UInt8) : Prop :=
  ∀ c : Cursor, c.rest = ahead → ∃ c' : Cursor, r.run c = .ok (a, c') ∧ c'.rest = rest

/-! ### Passing over bytes -/

lemma Cursor.rest_next (c : Cursor) : c.next.rest = c.rest.tail := by
  unfold Cursor.next
  split
  case h_1 nothing => rw [nothing, List.tail_nil]
  case h_2 b rest some => rw [some]; split <;> rfl

lemma Cursor.rest_advance (c : Cursor) (n : Nat) : (c.advance n).rest = c.rest.drop n := by
  induction n generalizing c with
  | zero => rfl
  | succ n ih => rw [Cursor.advance, ih, Cursor.rest_next, List.drop_tail]

section Readers

variable {α β : Type} {r : Reading α} {a : α} {x : β} {ahead between rest : List UInt8} {b : UInt8}

/-- With the bytes `ahead` a reader goes on as `r'` does with the bytes `between`. -/
def Continues (r : Reading α) (ahead : List UInt8) (r' : Reading α) (between : List UInt8) : Prop :=
  ∀ c : Cursor, c.rest = ahead → ∃ c' : Cursor, c'.rest = between ∧ r.run c = r'.run c'

lemma Continues.refl (r : Reading α) (ahead : List UInt8) : Continues r ahead r ahead :=
  fun c here => ⟨c, here, rfl⟩

lemma Continues.trans {r' r'' : Reading α} (first : Continues r ahead r' between)
    (second : Continues r' between r'' rest) : Continues r ahead r'' rest := by
  intro c here
  obtain ⟨c', there, same⟩ := first c here
  obtain ⟨c'', there', same'⟩ := second c' there
  exact ⟨c'', there', same.trans same'⟩

lemma Continues.reads {r' : Reading α} (continues : Continues r ahead r' between)
    (reads : Reads r' between a rest) : Reads r ahead a rest := by
  intro c here
  obtain ⟨c', there, same⟩ := continues c here
  rw [same]
  exact reads c' there

/-- Once a reader has found something, what comes next goes on. -/
lemma Reads.continues {f : α → Reading β} (first : Reads r ahead a between) :
    Continues (r >>= f) ahead (f a) between := by
  intro c here
  obtain ⟨c', found, there⟩ := first c here
  exact ⟨c', there, by rw [StateT.run_bind, found]; rfl⟩

lemma Reads.bind {f : α → Reading β} (first : Reads r ahead a between) (second : Reads (f a) between x rest) :
    Reads (r >>= f) ahead x rest :=
  first.continues.reads second

lemma reads_pure (a : α) (rest : List UInt8) : Reads (pure a) rest a rest :=
  fun c here => ⟨c, rfl, here⟩

lemma reads_peek (rest : List UInt8) : Reads peek rest rest.head? rest :=
  fun c here => ⟨c, by rw [← here]; rfl, here⟩

lemma reads_skip (passed rest : List UInt8) : Reads (skip passed.length) (passed ++ rest) () rest :=
  fun c here => ⟨c.advance passed.length, rfl, by rw [Cursor.rest_advance, here, List.drop_left]⟩

lemma reads_skip_one (b : UInt8) (rest : List UInt8) : Reads (skip 1) (b :: rest) () rest :=
  reads_skip [b] rest

/-- Blanks ahead are passed over, and the byte behind them is looked at. -/
lemma reads_peekToken_blanks {blanks : List UInt8} (blank : ∀ b ∈ blanks, Cursor.isBlank b = true)
    (visible : Cursor.isBlank b = false) (rest : List UInt8) :
    Reads peekToken (blanks ++ b :: rest) (some b) (b :: rest) := by
  intro c here
  have passed : c.skipBlanks.rest = b :: rest := by
    unfold Cursor.skipBlanks
    rw [Cursor.rest_advance, here, List.takeWhile_append_of_pos blank, List.takeWhile_cons, visible,
      if_neg Bool.false_ne_true, List.append_nil, List.drop_left]
  refine ⟨c.skipBlanks, ?_, passed⟩
  change Except.ok (c.skipBlanks.rest.head?, c.skipBlanks) = _
  rw [passed]
  rfl

/-- A byte ahead that is no blank is looked at, and nothing is passed over. -/
lemma reads_peekToken (visible : Cursor.isBlank b = false) (rest : List UInt8) :
    Reads peekToken (b :: rest) (some b) (b :: rest) :=
  reads_peekToken_blanks (List.forall_mem_nil _) visible rest

/-- At the end of a text there is no byte ahead, but for blanks. -/
lemma reads_peekToken_end {blanks : List UInt8} (blank : ∀ b ∈ blanks, Cursor.isBlank b = true) :
    Reads peekToken blanks none [] := by
  intro c here
  have all : (blanks ++ []).takeWhile Cursor.isBlank = blanks ++ [] := List.takeWhile_append_of_pos blank
  have passed : c.skipBlanks.rest = [] := by
    unfold Cursor.skipBlanks
    rw [List.append_nil] at all
    rw [Cursor.rest_advance, here, all, List.drop_length]
  refine ⟨c.skipBlanks, ?_, passed⟩
  change Except.ok (c.skipBlanks.rest.head?, c.skipBlanks) = _
  rw [passed]
  rfl

lemma reads_keyword (letters rest : List UInt8) : Reads (keyword letters) (letters ++ rest) () rest := by
  induction letters with
  | nil => exact reads_pure () rest
  | cons letter letters ih =>
    unfold keyword
    refine (reads_peek _).bind ((reads_skip_one letter _).bind ?_)
    rw [if_pos rfl]
    exact ih

/-- A text is read as a whole if it is read up to its end. -/
lemma whole_eq_ok (reads : Reads r ahead a []) : whole r ahead = .ok a := by
  have finishes : Reads finish [] () [] :=
    (reads_peekToken_end (List.forall_mem_nil _)).bind (reads_pure () [])
  have all : Reads (do let a ← r; finish; return a) ahead a [] :=
    reads.bind (finishes.bind (reads_pure a []))
  obtain ⟨c', found, -⟩ := all (Cursor.start ahead) rfl
  unfold whole
  exact congrArg (Except.map Prod.fst) found

end Readers

/-! ### Texts -/

/-- A byte that stands for itself in a text. -/
def StandsForItself (b : UInt8) : Prop :=
  b ≠ 0x22 ∧ b ≠ 0x5C ∧ ¬b < 0x20

lemma textFrom_skip (passed rest : List UInt8) (taken : Nat) :
    textFrom passed.length taken (passed ++ rest) = textFrom 0 (taken + passed.length) rest := by
  induction passed generalizing taken with
  | nil => rfl
  | cons b passed ih =>
    rw [List.length_cons, List.cons_append, textFrom, ih, Nat.add_assoc, Nat.add_comm 1]

/-- What was read of a text, with bytes before it. -/
def prepend (bytes : List UInt8) (read : Except (Reason × Nat) (List UInt8 × Nat)) :
    Except (Reason × Nat) (List UInt8 × Nat) :=
  read.map fun (body, taken) => (bytes ++ body, taken)

lemma textFrom_plain {bytes : List UInt8} (plain : ∀ b ∈ bytes, StandsForItself b) (rest : List UInt8)
    (taken : Nat) :
    textFrom 0 taken (bytes ++ rest) = prepend bytes (textFrom 0 (taken + bytes.length) rest) := by
  induction bytes generalizing taken with
  | nil =>
    rw [List.nil_append, List.length_nil, Nat.add_zero]
    cases textFrom 0 taken rest <;> rfl
  | cons b bytes ih =>
    obtain ⟨quote, backslash, printable⟩ := plain b (List.mem_cons_self ..)
    have later := ih (fun b' member => plain b' (List.mem_cons_of_mem b member)) (taken + 1)
    rw [List.cons_append, textFrom, if_neg quote, if_neg backslash, if_neg printable, later,
      List.length_cons, Nat.add_assoc, Nat.add_comm 1]
    cases textFrom 0 (taken + (bytes.length + 1)) rest <;> rfl

/-- An escape is read for what it means. -/
lemma textFrom_escape (letters : List UInt8) {meaning : List UInt8} (rest : List UInt8)
    (means : escape (letters ++ rest) = .ok (meaning, letters.length)) (taken : Nat) :
    textFrom 0 taken (0x5C :: letters ++ rest) =
      prepend meaning (textFrom 0 (taken + (0x5C :: letters).length) rest) := by
  rw [List.cons_append, textFrom, if_neg (by decide), if_pos rfl, means]
  change (textFrom letters.length (taken + 1) (letters ++ rest) >>= _) = _
  rw [textFrom_skip, List.length_cons, Nat.add_assoc, Nat.add_comm 1]
  cases textFrom 0 (taken + (letters.length + 1)) rest <;> rfl

/-- The bytes of a character stand for themselves, unless the character has to be escaped. -/
lemma standsForItself_of_mem {c : Char} (quote : c ≠ '"') (backslash : c ≠ '\\')
    (printable : ¬c.toNat < 0x20) {b : UInt8} (member : b ∈ String.utf8EncodeChar c) :
    StandsForItself b := by
  have number : b.toNat = c.toNat ∨ 128 ≤ b.toNat := by
    unfold String.utf8EncodeChar at member
    change b ∈ (if c.toNat ≤ 127 then _ else _) at member
    dsimp only [Char.toNat_val] at member
    split_ifs at member <;>
      simp only [List.mem_cons, List.not_mem_nil, or_false] at member <;>
      rcases member with rfl | rfl | rfl | rfl <;> rw [Utf8.toNat_ofNat (by omega)] <;> omega
  have differs {d : Char} (other : c ≠ d) (n : Nat) (is : d.toNat = n) : c.toNat ≠ n := by
    rintro rfl
    exact other (Char.toNat_inj.mp is.symm)
  have not_quote := differs quote 0x22 rfl
  have not_backslash := differs backslash 0x5C rfl
  refine ⟨?_, ?_, ?_⟩
  · rintro rfl
    change 0x22 = c.toNat ∨ 128 ≤ 0x22 at number
    omega
  · rintro rfl
    change 0x5C = c.toNat ∨ 128 ≤ 0x5C at number
    omega
  · rw [UInt8.lt_iff_toNat_lt]
    change ¬b.toNat < 0x20
    omega

/-! ### Spellings -/

/-- The letters of the short escapes, with the characters they stand for. -/
def shortEscapes : List (UInt8 × Char) :=
  [(0x22, '"'), (0x5C, '\\'), (0x2F, '/'), (0x62, '\x08'), (0x66, '\x0c'), (0x6E, '\n'), (0x72, '\r'),
    (0x74, '\t')]

/-- Four hexadecimal digits. -/
def IsUnit (letters : List UInt8) (value : Nat) : Prop :=
  ∃ a b c d w x y z, letters = [a, b, c, d] ∧ hexValue? a = some w ∧ hexValue? b = some x ∧
    hexValue? c = some y ∧ hexValue? d = some z ∧ value = ((w * 16 + x) * 16 + y) * 16 + z

/-- The spellings of a character inside quotes: as it is, by a short escape, by its number, or, if its number
takes more than four digits, by two halves of it. -/
inductive SpellsChar (c : Char) : List UInt8 → Prop where
  | plain (quote : c ≠ '"') (backslash : c ≠ '\\') (printable : ¬c.toNat < 0x20) :
      SpellsChar c (String.utf8EncodeChar c)
  | short {letter : UInt8} (known : (letter, c) ∈ shortEscapes) : SpellsChar c [0x5C, letter]
  | unit {letters : List UInt8} (unit : IsUnit letters c.toNat) : SpellsChar c (0x5C :: 0x75 :: letters)
  | pair {letters letters' : List UInt8} {high low : Nat} (first : IsUnit letters high)
      (second : IsUnit letters' low) (isHigh : 0xD800 ≤ high ∧ high ≤ 0xDBFF)
      (isLow : 0xDC00 ≤ low ∧ low ≤ 0xDFFF)
      (joined : c.toNat = (high - 0xD800) * 0x400 + (low - 0xDC00) + 0x10000) :
      SpellsChar c ((0x5C :: 0x75 :: letters) ++ (0x5C :: 0x75 :: letters'))

/-- The spellings of some characters inside quotes. -/
inductive SpellsText : List Char → List UInt8 → Prop where
  | nil : SpellsText [] []
  | cons {c : Char} {cs : List Char} {bytes later : List UInt8} (one : SpellsChar c bytes)
      (others : SpellsText cs later) : SpellsText (c :: cs) (bytes ++ later)

lemma hexUnit_of_isUnit {letters : List UInt8} {value : Nat} (unit : IsUnit letters value)
    (rest : List UInt8) : letters.length = 4 ∧ hexUnit (letters ++ rest) = .ok value := by
  obtain ⟨a, b, c, d, w, x, y, z, rfl, ha, hb, hc, hd, rfl⟩ := unit
  refine ⟨rfl, ?_⟩
  simp only [List.cons_append, List.nil_append, hexUnit, ha, hb, hc, hd]

/-- A character is read, however it is spelled. -/
lemma SpellsChar.textFrom {c : Char} {body : List UInt8} (spells : SpellsChar c body) (rest : List UInt8)
    (taken : Nat) :
    textFrom 0 taken (body ++ rest) =
      prepend (String.utf8EncodeChar c) (textFrom 0 (taken + body.length) rest) := by
  cases spells with
  | plain quote backslash printable =>
    exact textFrom_plain (fun b => standsForItself_of_mem quote backslash printable) rest taken
  | @short letter known =>
    refine textFrom_escape [letter] rest ?_ taken
    simp only [shortEscapes, List.mem_cons, Prod.mk.injEq, List.not_mem_nil, or_false] at known
    rcases known with ⟨rfl, rfl⟩ | ⟨rfl, rfl⟩ | ⟨rfl, rfl⟩ | ⟨rfl, rfl⟩ | ⟨rfl, rfl⟩ | ⟨rfl, rfl⟩ |
      ⟨rfl, rfl⟩ | ⟨rfl, rfl⟩ <;> rfl
  | @unit letters unit =>
    obtain ⟨four, is⟩ := hexUnit_of_isUnit unit rest
    have valid := Utf8.toNat_isValid c
    refine textFrom_escape (0x75 :: letters) rest ?_ taken
    rw [List.cons_append, escape, is, List.length_cons, four]
    change shiftRefusal 1 (if 0xDC00 ≤ c.toNat && c.toNat ≤ 0xDFFF then _ else _) = _
    rw [if_neg (by simp; omega), if_neg (by simp; omega), Char.ofNat_toNat]
    rfl
  | @pair letters letters' high low first second isHigh isLow joined =>
    obtain ⟨four, is⟩ := hexUnit_of_isUnit first ((0x5C :: 0x75 :: letters') ++ rest)
    obtain ⟨four', is'⟩ := hexUnit_of_isUnit second rest
    have behind : (letters ++ ((0x5C :: 0x75 :: letters') ++ rest)).drop 4 =
        0x5C :: 0x75 :: (letters' ++ rest) := by
      rw [← four, List.drop_left]
      rfl
    have low' : (if 0xDC00 ≤ low && low ≤ 0xDFFF then .ok low else .error (.loneSurrogate, 6) :
        Except (Reason × Nat) Nat) = .ok low := if_pos (by simpa using isLow)
    have half : secondSurrogate (0x5C :: 0x75 :: (letters' ++ rest)) = .ok low := by
      rw [secondSurrogate, is']
      exact low'
    refine textFrom_escape (0x75 :: (letters ++ (0x5C :: 0x75 :: letters'))) rest ?_ taken
    rw [List.cons_append, List.append_assoc, escape, is, behind, half]
    change shiftRefusal 1 (if 0xDC00 ≤ high && high ≤ 0xDFFF then _ else
      if 0xD800 ≤ high && high ≤ 0xDBFF then _ else _) = _
    rw [if_neg (by simp; omega), if_pos (by simpa using isHigh)]
    change Except.ok (String.utf8EncodeChar
      (Char.ofNat ((high - 0xD800) * 0x400 + (low - 0xDC00) + 0x10000)), 11) = _
    rw [← joined, Char.ofNat_toNat, List.length_cons, List.length_append, four, List.length_cons,
      List.length_cons, four']

lemma SpellsText.textFrom {cs : List Char} {body : List UInt8} (spells : SpellsText cs body)
    (rest : List UInt8) (taken : Nat) :
    textFrom 0 taken (body ++ 0x22 :: rest) = .ok (Utf8.encode cs, taken + body.length + 1) := by
  induction spells generalizing taken with
  | nil => rfl
  | cons one others ih =>
    rw [List.append_assoc, one.textFrom, ih, List.length_append, ← Nat.add_assoc, Utf8.encode_cons]
    rfl

/-- A text is read, its first quote having been passed, however it is spelled. -/
lemma reads_textBody_spelled {s : String} {body : List UInt8} (spells : SpellsText s.toList body)
    (rest : List UInt8) : Reads textBody (body ++ 0x22 :: rest) s rest := by
  intro c here
  refine ⟨c.advance (0 + body.length + 1), ?_, ?_⟩
  · have valid : Utf8.invalidIndex? (Utf8.encode s.toList) = none := Utf8.invalidIndex?_encode _
    have back : Utf8.decodeLossy (Utf8.encode s.toList) = s := Utf8.decodeLossy_ofString s
    unfold textBody
    rw [StateT.run_bind, StateT.run_get, pure_bind, here, spells.textFrom rest 0]
    dsimp only
    rw [valid, back]
    rfl
  · rw [Cursor.rest_advance, here, Nat.zero_add]
    exact List.drop_length_add_append 1

/-! ### Texts that are printed -/

lemma hexValue?_hexDigit : ∀ n < 16, Utf8.encode [hexDigit n] = [UInt8.ofNat (hexDigit n).toNat] ∧
    hexValue? (UInt8.ofNat (hexDigit n).toNat) = some n := by
  decide

/-- What is printed for a character spells it. -/
lemma SpellsChar.escaped (c : Char) : SpellsChar c (Utf8.encode (escapeChar c)) := by
  unfold escapeChar
  split
  case h_8 _ quote backslash _ _ _ _ _ =>
    split
    case isTrue control =>
      obtain ⟨high, is_high⟩ := hexValue?_hexDigit (c.toNat / 16) (by omega)
      obtain ⟨low, is_low⟩ := hexValue?_hexDigit (c.toNat % 16) (by omega)
      have letters : Utf8.encode ['\\', 'u', '0', '0', hexDigit (c.toNat / 16), hexDigit (c.toNat % 16)] =
          0x5C :: 0x75 :: [0x30, 0x30, UInt8.ofNat (hexDigit (c.toNat / 16)).toNat,
            UInt8.ofNat (hexDigit (c.toNat % 16)).toNat] := by
        change Utf8.encode (['\\', 'u', '0', '0'] ++ [hexDigit (c.toNat / 16)] ++ [hexDigit (c.toNat % 16)]) = _
        rw [Utf8.encode_append, Utf8.encode_append, high, low]
        rfl
      rw [letters]
      exact .unit ⟨_, _, _, _, 0, 0, _, _, rfl, by decide, by decide, is_high, is_low, by omega⟩
    case isFalse printable =>
      have single : Utf8.encode [c] = String.utf8EncodeChar c := by
        rw [Utf8.encode_cons, Utf8.encode_nil, List.append_nil]
      rw [single]
      exact .plain quote backslash printable
  all_goals exact .short (by decide)

/-- What is printed between the quotes of a text spells it. -/
lemma SpellsText.escaped (cs : List Char) : SpellsText cs (Utf8.encode (cs.flatMap escapeChar)) := by
  induction cs with
  | nil => exact .nil
  | cons c cs ih =>
    rw [List.flatMap_cons, Utf8.encode_append]
    exact .cons (.escaped c) ih

/-- What is printed for a text: two quotes, and what stands between them. -/
lemma encode_renderText (s : String) :
    Utf8.encode (renderText s) = 0x22 :: (Utf8.encode (s.toList.flatMap escapeChar) ++ [0x22]) := by
  unfold renderText
  rw [List.cons_append, Utf8.encode_cons, Utf8.encode_append]
  rfl

/-- A text is read back, its first quote having been passed. -/
lemma reads_textBody (s : String) (rest : List UInt8) :
    Reads textBody (Utf8.encode (s.toList.flatMap escapeChar) ++ 0x22 :: rest) s rest :=
  reads_textBody_spelled (.escaped s.toList) rest

/-! ### Digits -/

/-- The bytes of the digits of a number. -/
def digits (n : Nat) : List UInt8 :=
  Utf8.encode (Nat.toDigits 10 n)

lemma encode_digitChar : ∀ d < 10, Utf8.encode [d.digitChar] = [UInt8.ofNat (48 + d)] := by
  decide

lemma isDigit_ofNat : ∀ d < 10, isDigit (UInt8.ofNat (48 + d)) = true := by
  decide

lemma digitValue_ofNat : ∀ d < 10, digitValue (UInt8.ofNat (48 + d)) = d := by
  decide

lemma digits_of_lt {n : Nat} (small : n < 10) : digits n = [UInt8.ofNat (48 + n)] := by
  unfold digits
  rw [Nat.toDigits_of_lt_base small, encode_digitChar n small]

lemma digits_of_le {n : Nat} (large : 10 ≤ n) :
    digits n = digits (n / 10) ++ [UInt8.ofNat (48 + n % 10)] := by
  unfold digits
  rw [Nat.toDigits_of_base_le (by decide) large, Utf8.encode_append, encode_digitChar _ (by omega)]

/-- Only zero begins with the digit zero. -/
lemma exists_digits (n : Nat) :
    ∃ d others, digits n = UInt8.ofNat (48 + d) :: others ∧ d < 10 ∧ (d = 0 → n = 0) := by
  induction n using Nat.strongRecOn with
  | ind n ih =>
    by_cases small : n < 10
    · exact ⟨n, [], digits_of_lt small, small, id⟩
    · obtain ⟨d, others, first, one, zero⟩ := ih (n / 10) (by omega)
      refine ⟨d, others ++ [UInt8.ofNat (48 + n % 10)], ?_, one, fun is => ?_⟩
      · rw [digits_of_le (by omega), first, List.cons_append]
      · have := zero is
        omega

/-- No number is written with a zero in front of its digits. -/
lemma no_leading_zero {n d : Nat} (one : d < 10) (zero : d = 0 → n = 0) :
    ¬(UInt8.ofNat (48 + d) = 0x30 && 1 < (digits n).length : Bool) = true := by
  rw [Bool.and_eq_true, decide_eq_true_eq, decide_eq_true_eq]
  rintro ⟨is, long⟩
  have is_zero : d = 0 := by
    have := (Utf8.ofNat_inj (m := 48 + d) (n := 48) (by omega) (by omega)).mp is
    omega
  rw [zero is_zero] at long
  exact absurd long (by decide)

lemma isDigit_of_mem_digits {n : Nat} {b : UInt8} (member : b ∈ digits n) : isDigit b = true := by
  induction n using Nat.strongRecOn with
  | ind n ih =>
    by_cases small : n < 10
    · rw [digits_of_lt small, List.mem_singleton] at member
      rw [member]
      exact isDigit_ofNat n small
    · rw [digits_of_le (by omega), List.mem_append, List.mem_singleton] at member
      rcases member with before | rfl
      · exact ih (n / 10) (by omega) before
      · exact isDigit_ofNat _ (by omega)

lemma appendDigits_concat {s m : Nat} {bytes : List UInt8} {b : UInt8}
    (all : appendDigits s bytes = (m, bytes.length)) (fits : m * 10 + digitValue b < significandLimit) :
    appendDigits s (bytes ++ [b]) = (m * 10 + digitValue b, bytes.length + 1) := by
  induction bytes generalizing s with
  | nil =>
    obtain ⟨rfl, -⟩ := Prod.mk.inj all
    simp only [List.nil_append, appendDigits, if_pos fits, List.length_nil]
  | cons c bytes ih =>
    simp only [appendDigits] at all
    split at all
    case isTrue inside =>
      obtain ⟨value, count⟩ := Prod.mk.inj all
      have later := ih (Prod.ext value (Nat.succ.inj count))
      simp only [List.cons_append, appendDigits, if_pos inside, later, List.length_cons]
    case isFalse outside => cases (Prod.mk.inj all).2

/-- A number is the one that its digits make up. -/
lemma appendDigits_digits {n : Nat} (fits : n < significandLimit) :
    appendDigits 0 (digits n) = (n, (digits n).length) := by
  induction n using Nat.strongRecOn with
  | ind n ih =>
    by_cases small : n < 10
    · rw [digits_of_lt small]
      have value := digitValue_ofNat n small
      simp only [appendDigits, Nat.zero_mul, Nat.zero_add, value, if_pos fits, List.length_singleton]
    · have value := digitValue_ofNat (n % 10) (by omega)
      have joined : n / 10 * 10 + digitValue (UInt8.ofNat (48 + n % 10)) = n := by omega
      rw [digits_of_le (by omega), appendDigits_concat (ih (n / 10) (by omega) (by omega))
        (by rwa [joined]), joined, List.length_append, List.length_singleton]

/-- Bytes that cannot go on a number: there are none, or a comma, a closing bracket or a blank is the
first. -/
def Delimited (rest : List UInt8) : Prop :=
  rest = [] ∨ ∃ b tail, rest = b :: tail ∧
    (b = 0x2C ∨ b = 0x5D ∨ b = 0x7D ∨ b = 0x20 ∨ b = 0x0A ∨ b = 0x09 ∨ b = 0x0D)

lemma Delimited.takeWhile_isDigit {rest : List UInt8} (delimited : Delimited rest) :
    rest.takeWhile isDigit = [] := by
  rcases delimited with rfl | ⟨b, tail, rfl, rfl | rfl | rfl | rfl | rfl | rfl | rfl⟩ <;> rfl

lemma reads_digitsAhead {ds rest : List UInt8} (all : ∀ d ∈ ds, isDigit d = true)
    (stops : rest.takeWhile isDigit = []) : Reads digitsAhead (ds ++ rest) ds (ds ++ rest) := by
  refine fun c here => ⟨c, ?_, here⟩
  change Except.ok (c.rest.takeWhile isDigit, c) = _
  rw [here, List.takeWhile_append_of_pos all, stops, List.append_nil]

/-! ### Numbers

A number of any kind begins with its digits.  What is done once they are passed depends on the byte that
follows, and only this has to be looked at for each kind (`continues_number`). -/

/-- What is made of a number that ends with its digits. -/
def numberAtEnd (negative : Bool) (significand : Nat) (exponent : Int) : Reading Number :=
  if exponent ≠ 0 then return .real (← real negative significand exponent)
  else if !negative then return .integer significand
  else if significand = 0 || negativeLimit < significand then
    return .real (-(UInt64.ofNat significand).toFloat)
  else return .integer (-significand)

/-- What is made of a number whose digits are passed, by the byte that follows them. -/
def numberAfter (negative : Bool) (significand : Nat) (exponent : Int) (next : Option UInt8) :
    Reading Number :=
  if next = some 0x2E then return .real (← fractionPart negative significand exponent)
  else if next = some 0x65 ∨ next = some 0x45 then return .real (← exponentPart negative significand exponent)
  else numberAtEnd negative significand exponent

section Numbers

variable {whole : Nat} {after rest : List UInt8}

/-- The digits of a number are passed, and then it goes on by what follows. -/
lemma continues_number (negative : Bool) (stops : after.takeWhile isDigit = []) :
    Continues (Reading.number negative) (digits whole ++ after)
      (numberAfter negative (appendDigits 0 (digits whole)).1
        ((digits whole).length - (appendDigits 0 (digits whole)).2) after.head?) after := by
  obtain ⟨d, others, first, one, zero⟩ := exists_digits whole
  have head : (digits whole ++ after).head? = some (UInt8.ofNat (48 + d)) := by rw [first]; rfl
  unfold Reading.number
  refine (reads_peek _).continues.trans ?_
  rw [head]
  dsimp only
  rw [if_neg (by rw [isDigit_ofNat d one]; decide)]
  refine (reads_digitsAhead (fun _ => isDigit_of_mem_digits) stops).continues.trans ?_
  rw [if_neg (no_leading_zero one zero)]
  refine (reads_skip _ _).continues.trans ((reads_peek _).continues.trans ?_)
  generalize after.head? = next
  split
  case h_1 | h_2 | h_3 => exact .refl _ _
  case h_4 point small large =>
    unfold numberAfter
    rw [if_neg point, if_neg (not_or.mpr ⟨small, large⟩)]
    exact .refl _ _

/-- A delimited number ends with its digits. -/
lemma Delimited.numberAfter_eq (delimited : Delimited rest) (negative : Bool) (significand : Nat)
    (exponent : Int) :
    numberAfter negative significand exponent rest.head? = numberAtEnd negative significand exponent := by
  rcases delimited with rfl | ⟨b, tail, rfl, rfl | rfl | rfl | rfl | rfl | rfl | rfl⟩ <;> rfl

/-- A whole number is read back, its sign having been passed. -/
lemma reads_number (negative : Bool) {n : Nat} {rest : List UInt8} (fits : n < significandLimit)
    (below : negative = true → n ≠ 0 ∧ n ≤ negativeLimit) (delimited : Delimited rest) :
    Reads (Reading.number negative) (digits n ++ rest)
      (.integer (if negative = true then -(n : Int) else n)) rest := by
  refine (continues_number negative delimited.takeWhile_isDigit).reads ?_
  rw [delimited.numberAfter_eq, appendDigits_digits fits]
  unfold numberAtEnd
  rw [if_neg (by omega)]
  cases negative with
  | false => exact reads_pure _ _
  | true =>
    obtain ⟨nonzero, low⟩ := below rfl
    rw [if_neg (by decide), if_neg (by simp; omega)]
    exact reads_pure _ _

end Numbers

end WorkspaceSchema.Json
