import WorkspaceSchema.Text.Utf8
import Mathlib.Tactic.Lemma
import Mathlib.Tactic.SplitIfs

/-!
# Bytes of texts

What was encoded is read back.  One step of the decoder at the first byte of a character finds that
character and takes up all of its bytes, whatever follows them (`step_utf8EncodeChar`).  So the decoder,
which goes step by step, finds the characters of a text one after another, and no broken part.
-/

namespace WorkspaceSchema.Utf8

/-! ### Bytes as numbers -/

lemma toNat_ofNat {n : Nat} (small : n < 256) : (UInt8.ofNat n).toNat = n := by
  rw [UInt8.toNat_ofNat', Nat.mod_eq_of_lt small]

lemma ofNat_le_ofNat {m n : Nat} (small : m < 256) (small' : n < 256) :
    UInt8.ofNat m ≤ UInt8.ofNat n ↔ m ≤ n := by
  rw [UInt8.le_iff_toNat_le, toNat_ofNat small, toNat_ofNat small']

lemma ofNat_lt_ofNat {m n : Nat} (small : m < 256) (small' : n < 256) :
    UInt8.ofNat m < UInt8.ofNat n ↔ m < n := by
  rw [UInt8.lt_iff_toNat_lt, toNat_ofNat small, toNat_ofNat small']

lemma ofNat_inj {m n : Nat} (small : m < 256) (small' : n < 256) :
    UInt8.ofNat m = UInt8.ofNat n ↔ m = n := by
  rw [← UInt8.toNat_inj, toNat_ofNat small, toNat_ofNat small']

/-- Whether a byte is in a range, all three given as numbers. -/
lemma isBetween_ofNat {n : Nat} (first last : Nat) (small : first < 256) (small' : n < 256)
    (small'' : last < 256) :
    (UInt8.ofNat first ≤ UInt8.ofNat n && UInt8.ofNat n ≤ UInt8.ofNat last : Bool) =
      decide (first ≤ n ∧ n ≤ last) := by
  simp only [ofNat_le_ofNat small small', ofNat_le_ofNat small' small'', Bool.decide_and]

/-- A byte that holds six bits continues a character. -/
lemma isContinuation_ofNat {n : Nat} (six : n < 64) : isContinuation (UInt8.ofNat (n + 128)) = true :=
  (isBetween_ofNat 0x80 0xBF (by omega) (by omega) (by omega)).trans
    (decide_eq_true (by omega))

/-- The six bits of a byte that continues a character. -/
lemma low_ofNat {n : Nat} (six : n < 64) : low (UInt8.ofNat (n + 128)) = n := by
  unfold low
  rw [toNat_ofNat (by omega)]
  omega

/-- The second bytes that may follow a lead byte, in numbers. -/
lemma secondInRange_ofNat {l m : Nat} (small : l < 256) (six : m < 64) (e0 : l = 0xE0 → 32 ≤ m)
    (ed : l = 0xED → m < 32) (f0 : l = 0xF0 → 16 ≤ m) (f4 : l = 0xF4 → m < 16) :
    secondInRange (UInt8.ofNat l) (UInt8.ofNat (m + 128)) = true := by
  have between (first last : Nat) (h : first < 256 ∧ last < 256) (inside : first ≤ m + 128 ∧ m + 128 ≤ last) :
      (UInt8.ofNat first ≤ UInt8.ofNat (m + 128) && UInt8.ofNat (m + 128) ≤ UInt8.ofNat last : Bool) =
        true :=
    (isBetween_ofNat first last h.1 (by omega) h.2).trans (decide_eq_true inside)
  have lead (n : Nat) (h : n < 256) : UInt8.ofNat l = UInt8.ofNat n → l = n :=
    (ofNat_inj small h).mp
  unfold secondInRange
  split_ifs with is_e0 is_ed is_f0 is_f4
  · have := e0 (lead 0xE0 (by omega) is_e0)
    exact between 0xA0 0xBF (by omega) (by omega)
  · have := ed (lead 0xED (by omega) is_ed)
    exact between 0x80 0x9F (by omega) (by omega)
  · have := f0 (lead 0xF0 (by omega) is_f0)
    exact between 0x90 0xBF (by omega) (by omega)
  · have := f4 (lead 0xF4 (by omega) is_f4)
    exact between 0x80 0x8F (by omega) (by omega)
  · exact isContinuation_ofNat six

/-! ### One character -/

section Step

variable {n : Nat} (rest : List UInt8)

lemma step_one (small : n < 128) : step (UInt8.ofNat n) rest = (some (Char.ofNat n), 0) := by
  have one : UInt8.ofNat n < 0x80 := (ofNat_lt_ofNat (n := 0x80) (by omega) (by omega)).mpr small
  unfold step
  rw [if_pos one, toNat_ofNat (by omega)]

/-- A lead byte is not taken for one of a lower range. -/
lemma step_lead (small : n < 256) (high : 192 ≤ n) : ¬UInt8.ofNat n < 0x80 :=
  fun h => absurd ((ofNat_lt_ofNat (n := 0x80) small (by omega)).mp h) (by omega)

lemma step_two {m : Nat} (low : 2 ≤ m) (high : m < 32) (six : n < 64) :
    step (UInt8.ofNat (m + 192)) (UInt8.ofNat (n + 128) :: rest) =
      (some (Char.ofNat (m * 64 + n)), 1) := by
  have two : (0xC2 ≤ UInt8.ofNat (m + 192) && UInt8.ofNat (m + 192) ≤ 0xDF : Bool) = true :=
    (isBetween_ofNat 0xC2 0xDF (by omega) (by omega) (by omega)).trans
      (decide_eq_true (by omega))
  unfold step
  rw [if_neg (step_lead (by omega) (by omega)), if_pos two]
  dsimp only
  rw [if_pos (isContinuation_ofNat six), low_ofNat six, toNat_ofNat (by omega),
    show (m + 192) % 32 = m by omega]

lemma step_three {l m : Nat} (four : l < 16) (six : m < 64) (six' : n < 64) (long : l = 0 → 32 ≤ m)
    (scalar : l = 13 → m < 32) :
    step (UInt8.ofNat (l + 224)) (UInt8.ofNat (m + 128) :: UInt8.ofNat (n + 128) :: rest) =
      (some (Char.ofNat ((l * 64 + m) * 64 + n)), 2) := by
  have two : ¬(0xC2 ≤ UInt8.ofNat (l + 224) && UInt8.ofNat (l + 224) ≤ 0xDF : Bool) = true :=
    Bool.not_eq_true _ ▸ (isBetween_ofNat 0xC2 0xDF (by omega) (by omega)
      (by omega)).trans (decide_eq_false (by omega))
  have three : (0xE0 ≤ UInt8.ofNat (l + 224) && UInt8.ofNat (l + 224) ≤ 0xEF : Bool) = true :=
    (isBetween_ofNat 0xE0 0xEF (by omega) (by omega) (by omega)).trans
      (decide_eq_true (by omega))
  have second : secondInRange (UInt8.ofNat (l + 224)) (UInt8.ofNat (m + 128)) = true :=
    secondInRange_ofNat (by omega) six (by omega) (by omega) (by omega) (by omega)
  unfold step
  rw [if_neg (step_lead (by omega) (by omega)), if_neg two, if_pos three]
  dsimp only
  rw [second, isContinuation_ofNat six', low_ofNat six, low_ofNat six', toNat_ofNat (by omega),
    show (l + 224) % 16 = l by omega]
  rfl

lemma step_four {k l m : Nat} (three : k < 8) (six : l < 64) (six' : m < 64) (six'' : n < 64)
    (long : k = 0 → 16 ≤ l) (scalar : k * 64 + l < 272) :
    step (UInt8.ofNat (k + 240))
        (UInt8.ofNat (l + 128) :: UInt8.ofNat (m + 128) :: UInt8.ofNat (n + 128) :: rest) =
      (some (Char.ofNat (((k * 64 + l) * 64 + m) * 64 + n)), 3) := by
  have two : ¬(0xC2 ≤ UInt8.ofNat (k + 240) && UInt8.ofNat (k + 240) ≤ 0xDF : Bool) = true :=
    Bool.not_eq_true _ ▸ (isBetween_ofNat 0xC2 0xDF (by omega) (by omega)
      (by omega)).trans (decide_eq_false (by omega))
  have three' : ¬(0xE0 ≤ UInt8.ofNat (k + 240) && UInt8.ofNat (k + 240) ≤ 0xEF : Bool) = true :=
    Bool.not_eq_true _ ▸ (isBetween_ofNat 0xE0 0xEF (by omega) (by omega)
      (by omega)).trans (decide_eq_false (by omega))
  have four : (0xF0 ≤ UInt8.ofNat (k + 240) && UInt8.ofNat (k + 240) ≤ 0xF4 : Bool) = true :=
    (isBetween_ofNat 0xF0 0xF4 (by omega) (by omega) (by omega)).trans
      (decide_eq_true (by omega))
  have second : secondInRange (UInt8.ofNat (k + 240)) (UInt8.ofNat (l + 128)) = true :=
    secondInRange_ofNat (by omega) six (by omega) (by omega) (by omega) (by omega)
  unfold step
  rw [if_neg (step_lead (by omega) (by omega)), if_neg two, if_neg three', if_pos four]
  dsimp only
  rw [second, isContinuation_ofNat six', isContinuation_ofNat six'', low_ofNat six, low_ofNat six',
    low_ofNat six'', toNat_ofNat (by omega), show (k + 240) % 8 = k by omega]
  rfl

end Step

/-- The numbers of characters leave out the surrogates, and end. -/
lemma toNat_isValid (c : Char) : c.toNat < 0xD800 ∨ 0xDFFF < c.toNat ∧ c.toNat < 0x110000 :=
  c.valid

/-- One step finds a character that was encoded, and takes up its bytes. -/
lemma step_utf8EncodeChar (c : Char) (rest : List UInt8) :
    ∃ lead tail, String.utf8EncodeChar c = lead :: tail ∧
      step lead (tail ++ rest) = (some c, tail.length) := by
  have valid := toNat_isValid c
  have character : ∀ n, n = c.toNat → Char.ofNat n = c := by
    rintro _ rfl
    exact Char.ofNat_toNat c
  unfold String.utf8EncodeChar
  change ∃ lead tail, (if c.toNat ≤ 127 then _ else _) = _ ∧ _
  dsimp only [Char.toNat_val]
  split_ifs with one two three
  · refine ⟨_, _, rfl, ?_⟩
    rw [List.nil_append, step_one rest (by omega), character _ rfl]
    rfl
  · refine ⟨_, _, rfl, ?_⟩
    rw [List.cons_append, List.nil_append, step_two rest (by omega) (by omega) (by omega),
      character _ (by omega)]
    rfl
  · refine ⟨_, _, rfl, ?_⟩
    rw [List.cons_append, List.cons_append, List.nil_append,
      step_three rest (by omega) (by omega) (by omega) (by omega) (by omega), character _ (by omega)]
    rfl
  · refine ⟨_, _, rfl, ?_⟩
    rw [List.cons_append, List.cons_append, List.cons_append, List.nil_append,
      step_four rest (by omega) (by omega) (by omega) (by omega) (by omega) (by omega),
      character _ (by omega)]
    rfl

lemma toNat_ofNat_of_valid {n : Nat} (valid : n < 0xD800 ∨ 0xDFFF < n ∧ n < 0x110000) :
    (Char.ofNat n).toNat = n := by
  unfold Char.ofNat
  rw [dif_pos valid]
  rfl

/-- The bytes of a character, by its number. -/
lemma utf8EncodeChar_ofNat {n : Nat} (valid : n < 0xD800 ∨ 0xDFFF < n ∧ n < 0x110000) :
    String.utf8EncodeChar (Char.ofNat n) =
      if n ≤ 127 then [UInt8.ofNat n]
      else if n ≤ 2047 then [UInt8.ofNat (n / 64 % 32 + 192), UInt8.ofNat (n % 64 + 128)]
      else if n ≤ 65535 then
        [UInt8.ofNat (n / 4096 % 16 + 224), UInt8.ofNat (n / 64 % 64 + 128), UInt8.ofNat (n % 64 + 128)]
      else [UInt8.ofNat (n / 262144 % 8 + 240), UInt8.ofNat (n / 4096 % 64 + 128),
        UInt8.ofNat (n / 64 % 64 + 128), UInt8.ofNat (n % 64 + 128)] := by
  unfold String.utf8EncodeChar
  dsimp only [Char.toNat_val]
  rw [toNat_ofNat_of_valid valid]

/-- A byte is a number. -/
lemma ofNat_eq_iff {n : Nat} (small : n < 256) {b : UInt8} : UInt8.ofNat n = b ↔ n = b.toNat := by
  rw [← UInt8.toNat_inj, toNat_ofNat small]

/-- A character that one step finds is encoded as the bytes that it takes up. -/
lemma utf8EncodeChar_of_step {b : UInt8} {rest : List UInt8} {c : Char} {taken : Nat}
    (found : step b rest = (some c, taken)) :
    taken ≤ rest.length ∧ String.utf8EncodeChar c = b :: rest.take taken := by
  have below := b.toNat_lt
  have continued {x : UInt8} (is : isContinuation x = true) : 128 ≤ x.toNat ∧ x.toNat ≤ 191 := by
    simpa [isContinuation, UInt8.le_iff_toNat_le] using is
  have second {lead x : UInt8} (is : secondInRange lead x = true) : 128 ≤ x.toNat ∧ x.toNat ≤ 191 ∧
      (lead.toNat = 224 → 160 ≤ x.toNat) ∧ (lead.toNat = 237 → x.toNat ≤ 159) ∧
      (lead.toNat = 240 → 144 ≤ x.toNat) ∧ (lead.toNat = 244 → x.toNat ≤ 143) := by
    simp only [secondInRange, isContinuation, UInt8.le_iff_toNat_le, ← UInt8.toNat_inj] at is
    split_ifs at is <;> simp at * <;> omega
  unfold step at found
  simp only [UInt8.le_iff_toNat_le, UInt8.lt_iff_toNat_lt, Bool.and_eq_true, decide_eq_true_eq] at found
  split_ifs at found with one two three four
  · obtain ⟨is, rfl⟩ := Prod.mk.inj found
    obtain rfl := Option.some.inj is
    have one : b.toNat < 128 := one
    refine ⟨Nat.zero_le _, ?_⟩
    rw [utf8EncodeChar_ofNat (by omega), if_pos (by omega), List.take_zero, UInt8.ofNat_toNat]
  · rcases rest with - | ⟨x, rest⟩
    · cases found
    · dsimp only at found
      split_ifs at found with h
      · obtain ⟨is, rfl⟩ := Prod.mk.inj found
        obtain rfl := Option.some.inj is
        have := continued h
        have two : 194 ≤ b.toNat ∧ b.toNat ≤ 223 := two
        unfold low
        refine ⟨by simp, ?_⟩
        rw [utf8EncodeChar_ofNat (by omega), if_neg (by omega), if_pos (by omega)]
        simp only [List.take_succ_cons, List.take_zero, List.cons.injEq, and_true]
        exact ⟨(ofNat_eq_iff (by omega)).mpr (by omega), (ofNat_eq_iff (by omega)).mpr (by omega)⟩
      · cases found
  · rcases rest with - | ⟨x, - | ⟨y, rest⟩⟩
    · cases found
    · cases found
    · dsimp only at found
      split_ifs at found with h h'
      · cases found
      · cases found
      · obtain ⟨is, rfl⟩ := Prod.mk.inj found
        obtain rfl := Option.some.inj is
        have := second (by simpa using h)
        have := continued (x := y) (by simpa using h')
        have three : 224 ≤ b.toNat ∧ b.toNat ≤ 239 := three
        unfold low
        refine ⟨by simp, ?_⟩
        rw [utf8EncodeChar_ofNat (by omega), if_neg (by omega), if_neg (by omega), if_pos (by omega)]
        simp only [List.take_succ_cons, List.take_zero, List.cons.injEq, and_true]
        exact ⟨(ofNat_eq_iff (by omega)).mpr (by omega), (ofNat_eq_iff (by omega)).mpr (by omega),
          (ofNat_eq_iff (by omega)).mpr (by omega)⟩
  · rcases rest with - | ⟨x, - | ⟨y, - | ⟨z, rest⟩⟩⟩
    · cases found
    · cases found
    · cases found
    · dsimp only at found
      split_ifs at found with h h' h''
      · cases found
      · cases found
      · cases found
      · obtain ⟨is, rfl⟩ := Prod.mk.inj found
        obtain rfl := Option.some.inj is
        have := second (by simpa using h)
        have := continued (x := y) (by simpa using h')
        have := continued (x := z) (by simpa using h'')
        have four : 240 ≤ b.toNat ∧ b.toNat ≤ 244 := four
        unfold low
        refine ⟨by simp, ?_⟩
        rw [utf8EncodeChar_ofNat (by omega), if_neg (by omega), if_neg (by omega), if_neg (by omega)]
        simp only [List.take_succ_cons, List.take_zero, List.cons.injEq, and_true]
        exact ⟨(ofNat_eq_iff (by omega)).mpr (by omega), (ofNat_eq_iff (by omega)).mpr (by omega),
          (ofNat_eq_iff (by omega)).mpr (by omega), (ofNat_eq_iff (by omega)).mpr (by omega)⟩
  · cases found

/-- A character of ASCII is one byte. -/
lemma utf8EncodeChar_of_lt {c : Char} (ascii : c.toNat < 128) :
    String.utf8EncodeChar c = [UInt8.ofNat c.toNat] := by
  unfold String.utf8EncodeChar
  exact if_pos (Nat.le_of_lt_succ ascii)

/-- The bytes of any other character are not those of ASCII. -/
lemma le_of_mem_utf8EncodeChar {c : Char} (other : 128 ≤ c.toNat) {b : UInt8}
    (member : b ∈ String.utf8EncodeChar c) : 128 ≤ b.toNat := by
  have valid := toNat_isValid c
  unfold String.utf8EncodeChar at member
  change b ∈ (if c.toNat ≤ 127 then _ else _) at member
  dsimp only [Char.toNat_val] at member
  split_ifs at member with one two three
  · omega
  · simp only [List.mem_cons, List.not_mem_nil, or_false] at member
    rcases member with rfl | rfl <;> rw [toNat_ofNat (by omega)] <;> omega
  · simp only [List.mem_cons, List.not_mem_nil, or_false] at member
    rcases member with rfl | rfl | rfl <;> rw [toNat_ofNat (by omega)] <;> omega
  · simp only [List.mem_cons, List.not_mem_nil, or_false] at member
    rcases member with rfl | rfl | rfl | rfl <;> rw [toNat_ofNat (by omega)] <;> omega

/-! ### Whole texts -/

@[simp] lemma encode_nil : encode [] = [] :=
  rfl

@[simp] lemma encode_cons (c : Char) (cs : List Char) :
    encode (c :: cs) = String.utf8EncodeChar c ++ encode cs :=
  List.flatMap_cons

@[simp] lemma encode_append (cs ds : List Char) : encode (cs ++ ds) = encode cs ++ encode ds :=
  List.flatMap_append

lemma decodeFrom_append (passed rest : List UInt8) :
    decodeFrom passed.length (passed ++ rest) = decodeFrom 0 rest := by
  induction passed with
  | nil => rfl
  | cons b passed ih => exact ih

lemma invalidIndexFrom_append (index : Nat) (passed rest : List UInt8) :
    invalidIndexFrom index passed.length (passed ++ rest) =
      invalidIndexFrom (index + passed.length) 0 rest := by
  induction passed generalizing index with
  | nil => rfl
  | cons b passed ih =>
    rw [List.length_cons, List.cons_append, invalidIndexFrom, ih, Nat.add_assoc, Nat.add_comm 1]

/-- The characters of a text that was encoded are found again. -/
theorem decode_encode (cs : List Char) : decode (encode cs) = cs.map some := by
  induction cs with
  | nil => rfl
  | cons c cs ih =>
    obtain ⟨lead, tail, bytes, found⟩ := step_utf8EncodeChar c (encode cs)
    rw [encode_cons, bytes, List.cons_append]
    unfold decode
    rw [decodeFrom, found, decodeFrom_append, List.map_cons]
    exact congrArg (some c :: ·) ih

/-- A text is decoded if and only if no part of it is broken. -/
theorem decode?_eq_some_iff {bytes : List UInt8} {cs : List Char} :
    decode? bytes = some cs ↔ decode bytes = cs.map some := by
  unfold decode?
  induction decode bytes generalizing cs with
  | nil => cases cs <;> simp
  | cons c rest ih =>
    cases c with
    | none => cases cs <;> simp
    | some c =>
      cases cs with
      | nil => cases whole : rest.mapM id <;> simp [whole]
      | cons c' cs => cases whole : rest.mapM id <;> simp [whole, ← ih]

/-- A text that was encoded is decoded again. -/
theorem decode?_encode (cs : List Char) : decode? (encode cs) = some cs :=
  decode?_eq_some_iff.mpr (decode_encode cs)

/-- A text that was encoded has no broken part. -/
theorem invalidIndex?_encode (cs : List Char) : invalidIndex? (encode cs) = none := by
  have from_index : ∀ index, invalidIndexFrom index 0 (encode cs) = none := by
    induction cs with
    | nil => exact fun _ => rfl
    | cons c cs ih =>
      intro index
      obtain ⟨lead, tail, bytes, found⟩ := step_utf8EncodeChar c (encode cs)
      rw [encode_cons, bytes, List.cons_append, invalidIndexFrom, found]
      dsimp only
      rw [invalidIndexFrom_append]
      exact ih _
  exact from_index 0

/-- Bytes of which no part is broken encode some characters. -/
lemma exists_encode_of_invalidIndexFrom {index skip : Nat} {bytes : List UInt8} (inside : skip ≤ bytes.length)
    (whole : invalidIndexFrom index skip bytes = none) : ∃ cs, bytes.drop skip = encode cs := by
  induction bytes generalizing index skip with
  | nil => exact ⟨[], List.drop_nil⟩
  | cons b rest ih =>
    cases skip with
    | succ skip => exact ih (Nat.le_of_succ_le_succ inside) whole
    | zero =>
      rw [invalidIndexFrom] at whole
      rcases found : step b rest with ⟨_ | c, taken⟩
      · rw [found] at whole
        cases whole
      · rw [found] at whole
        obtain ⟨inside, bytes⟩ := utf8EncodeChar_of_step found
        obtain ⟨cs, others⟩ := ih inside whole
        refine ⟨c :: cs, ?_⟩
        rw [encode_cons, bytes, ← others, List.cons_append, List.take_append_drop, List.drop_zero]

/-- Bytes have no broken part if and only if they are those of a text. -/
theorem invalidIndex?_eq_none_iff {bytes : List UInt8} :
    invalidIndex? bytes = none ↔ ∃ s : String, bytes = ofString s := by
  constructor
  · intro whole
    obtain ⟨cs, is⟩ := exists_encode_of_invalidIndexFrom (Nat.zero_le _) whole
    exact ⟨String.ofList cs, by rw [ofString, String.toList_ofList]; exact is⟩
  · rintro ⟨s, rfl⟩
    exact invalidIndex?_encode s.toList

/-- A text that was encoded is read back. -/
theorem decodeLossy_ofString (s : String) : decodeLossy (ofString s) = s := by
  unfold decodeLossy ofString
  rw [decode_encode, List.map_map]
  change String.ofList (s.toList.map id) = s
  rw [List.map_id, String.ofList_toList]

/-! ### Texts that end in ASCII -/

/-- The further bytes of a character are there, and none of them is in ASCII. -/
lemma le_of_mem_take_step {b : UInt8} {rest : List UInt8} {c : Char} {taken : Nat}
    (found : step b rest = (some c, taken)) :
    taken ≤ rest.length ∧ ∀ byte ∈ rest.take taken, 0x80 ≤ byte := by
  obtain ⟨inside, bytes⟩ := utf8EncodeChar_of_step found
  refine ⟨inside, fun byte member => ?_⟩
  by_cases ascii : c.toNat < 128
  · rw [utf8EncodeChar_of_lt ascii] at bytes
    rw [← (List.cons.inj bytes).2] at member
    cases member
  · have member : byte ∈ String.utf8EncodeChar c := bytes ▸ List.mem_cons_of_mem b member
    exact UInt8.le_iff_toNat_le.mpr (le_of_mem_utf8EncodeChar (Nat.not_lt.mp ascii) member)

/-- A byte of ASCII at the end is a character at the end, unless something is broken. -/
lemma decodeFrom_concat {x : UInt8} (ascii : x < 0x80) {skip : Nat} {bytes : List UInt8}
    (inside : skip ≤ bytes.length) (whole : none ∉ decodeFrom skip (bytes ++ [x])) :
    [some (Char.ofNat x.toNat)] <:+ decodeFrom skip (bytes ++ [x]) := by
  induction bytes generalizing skip with
  | nil =>
    obtain rfl : skip = 0 := Nat.le_zero.mp inside
    rw [List.nil_append, decodeFrom, step, if_pos ascii]
    exact List.suffix_refl _
  | cons b bytes ih =>
    cases skip with
    | succ skip => exact ih (Nat.le_of_succ_le_succ inside) whole
    | zero =>
      rw [List.cons_append, decodeFrom] at whole ⊢
      rcases found : step b (bytes ++ [x]) with ⟨_ | c, taken⟩
      · rw [found] at whole
        exact absurd List.mem_cons_self whole
      · rw [found] at whole
        obtain ⟨short, high⟩ := le_of_mem_take_step found
        -- The last byte is in ASCII, and so it is not one of those taken.
        have inside' : taken ≤ bytes.length := by
          refine Nat.le_of_not_lt fun beyond => ?_
          rw [List.length_append, List.length_singleton] at short
          have all : (bytes ++ [x]).take taken = bytes ++ [x] := List.take_of_length_le (by simp; omega)
          rw [all] at high
          exact UInt8.not_le.mpr ascii (high x (by simp))
        exact (ih inside' fun member => whole (List.mem_cons_of_mem _ member)).trans (List.suffix_cons _ _)

/-- A byte of ASCII at the end of a text is a character at its end. -/
lemma decode?_concat {x : UInt8} (ascii : x < 0x80) {bytes : List UInt8} {cs : List Char}
    (decoded : decode? (bytes ++ [x]) = some cs) : [Char.ofNat x.toNat] <:+ cs := by
  have all := decode?_eq_some_iff.mp decoded
  have whole : none ∉ decodeFrom 0 (bytes ++ [x]) := by
    change none ∉ decode (bytes ++ [x])
    rw [all]
    simp
  obtain ⟨front, last⟩ := decodeFrom_concat ascii (Nat.zero_le _) whole
  change _ = decode (bytes ++ [x]) at last
  rw [all] at last
  obtain ⟨before, here, rfl, -, one⟩ := List.map_eq_append_iff.mp last.symm
  obtain ⟨c, rfl, same⟩ := List.map_eq_singleton_iff.mp one
  obtain rfl := Option.some.inj same
  exact List.suffix_append _ _

end WorkspaceSchema.Utf8
