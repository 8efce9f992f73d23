import WorkspaceSchema.Url
import WorkspaceSchema.Proofs.Text.Utf8

/-!
# Percent-encoded texts

Whatever is percent-encoded is had back, as long as the percent sign itself is encoded wherever it stands
(`decode_encode`): decoding goes over the bytes of an encoded text one at a time, and finds for each either
the byte itself or its triplet.  So a segment of a path stands for the one text that it was made of
(`decodePart?_segment`).

A segment consists of unreserved characters and percent signs (`isSegmentChar_of_mem`).  None of them has a
meaning in a URL, and all of them may stand for themselves in a path.  Each percent sign begins a triplet with
upper-case digits (`isSegment_segment`).
-/

namespace WorkspaceSchema.Url.Percent

/-! ### Digits and triplets -/

/-- The number of a character of ASCII. -/
lemma toNat_ofNat_of_lt : ∀ n < 128, (Char.ofNat n).toNat = n := by
  decide

/-- The byte of a character of ASCII. -/
lemma encode_singleton {c : Char} (ascii : c.toNat < 128) : Utf8.encode [c] = [UInt8.ofNat c.toNat] := by
  rw [Utf8.encode_cons, Utf8.utf8EncodeChar_of_lt ascii]
  rfl

/-- Digits are characters of ASCII that have their value. -/
lemma digit_spec : ∀ n < 16, (digit n).toNat < 128 ∧
    digitValue? (UInt8.ofNat (digit n).toNat) = some (UInt8.ofNat n) := by
  decide

/-- A byte is made up of its two halves. -/
lemma halves (b : UInt8) : UInt8.ofNat (b.toNat / 16) * 16 + UInt8.ofNat (b.toNat % 16) = b := by
  rw [← UInt8.toNat_inj, UInt8.toNat_add, UInt8.toNat_mul, UInt8.toNat_ofNat', UInt8.toNat_ofNat']
  have small := b.toNat_lt
  change (b.toNat / 16 % 256 * 16 % 256 + b.toNat % 16 % 256) % 256 = b.toNat
  omega

/-- A byte that is no percent sign stands for itself. -/
lemma decode_cons_of_ne {b : UInt8} (plain : b ≠ 0x25) (rest : List UInt8) :
    decode (b :: rest) = b :: decode rest := by
  match rest with
  | [] => rfl
  | [_] => rfl
  | _ :: _ :: _ => rw [decode, if_neg plain]

/-- A triplet stands for its byte. -/
lemma decode_triplet (b : UInt8) (rest : List UInt8) :
    decode (Utf8.encode (triplet b) ++ rest) = b :: decode rest := by
  have small := b.toNat_lt
  obtain ⟨ascii, high⟩ := digit_spec (b.toNat / 16) (by omega)
  obtain ⟨ascii', low⟩ := digit_spec (b.toNat % 16) (by omega)
  have bytes : Utf8.encode (triplet b) =
      [0x25, UInt8.ofNat (digit (b.toNat / 16)).toNat, UInt8.ofNat (digit (b.toNat % 16)).toNat] := by
    unfold triplet
    rw [Utf8.encode_cons, Utf8.encode_cons, encode_singleton ascii', Utf8.utf8EncodeChar_of_lt ascii]
    rfl
  rw [bytes]
  change decode (_ :: _ :: _ :: rest) = _
  rw [decode, if_pos rfl, high, low]
  dsimp only
  rw [halves]

/-! ### Whole texts -/

section Encode

variable {keep : UInt8 → Bool}

/-- A byte of ASCII that is kept stands for itself, and any other byte is a triplet. -/
lemma encodeByte_cases (keep : UInt8 → Bool) (b : UInt8) :
    b.toNat < 128 ∧ keep b = true ∧ encodeByte keep b = [Char.ofNat b.toNat] ∨ encodeByte keep b = triplet b := by
  unfold encodeByte
  split
  case isTrue kept =>
    rw [Bool.and_eq_true, decide_eq_true_eq, UInt8.lt_iff_toNat_lt] at kept
    exact .inl ⟨kept.1, kept.2, rfl⟩
  case isFalse => exact .inr rfl

/-- One encoded byte is had back, whatever follows it. -/
lemma decode_encodeByte (sign : keep 0x25 = false) (b : UInt8) (rest : List UInt8) :
    decode (Utf8.encode (encodeByte keep b) ++ rest) = b :: decode rest := by
  rcases encodeByte_cases keep b with ⟨ascii, kept, encoded⟩ | encoded
  · have character := toNat_ofNat_of_lt b.toNat ascii
    have plain : b ≠ 0x25 := by
      rintro rfl
      rw [sign] at kept
      cases kept
    rw [encoded, encode_singleton (by omega), character, UInt8.ofNat_toNat]
    exact decode_cons_of_ne plain rest
  · rw [encoded]
    exact decode_triplet b rest

/-- Encoded bytes are had back. -/
lemma decode_encodeBytes (sign : keep 0x25 = false) (bytes : List UInt8) :
    decode (Utf8.encode (encodeBytes keep bytes)) = bytes := by
  induction bytes with
  | nil => rfl
  | cons b bytes ih =>
    have first : encodeBytes keep (b :: bytes) = encodeByte keep b ++ encodeBytes keep bytes :=
      List.flatMap_cons
    rw [first, Utf8.encode_append, decode_encodeByte sign, ih]

/-- An encoded text stands for its bytes. -/
theorem decode_encode (sign : keep 0x25 = false) (cs : List Char) :
    decode (Utf8.encode (encode keep cs)) = Utf8.encode cs :=
  decode_encodeBytes sign _

/-- A text of characters that may stand for themselves is left as it is. -/
lemma encode_of_kept {cs : List Char}
    (kept : ∀ c ∈ cs, c.toNat < 128 ∧ keep (UInt8.ofNat c.toNat) = true) : encode keep cs = cs := by
  induction cs with
  | nil => rfl
  | cons c cs ih =>
    obtain ⟨ascii, here⟩ := kept c List.mem_cons_self
    have byte : (UInt8.ofNat c.toNat).toNat = c.toNat := Utf8.toNat_ofNat (by omega)
    have first : encodeByte keep (UInt8.ofNat c.toNat) = [c] := by
      unfold encodeByte
      have small : UInt8.ofNat c.toNat < 0x80 := by
        rw [UInt8.lt_iff_toNat_lt, byte]
        exact ascii
      rw [if_pos (by simp [small, here]), byte, Char.ofNat_toNat]
    have later := ih fun c' member => kept c' (List.mem_cons_of_mem c member)
    unfold encode encodeBytes at later ⊢
    rw [Utf8.encode_cons, Utf8.utf8EncodeChar_of_lt ascii, List.flatMap_append, List.flatMap_singleton,
      first, later]
    rfl

end Encode

/-! ### Segments -/

/-- The characters of segments: unreserved ones and the percent sign. -/
def isSegmentChar (c : Char) : Bool :=
  c = '%' || (c.toNat < 128 && isUnreserved (UInt8.ofNat c.toNat))

/-- Digits are unreserved. -/
lemma isSegmentChar_digit : ∀ n < 16, isSegmentChar (digit n) = true := by
  decide

/-- There are no other characters in a segment. -/
lemma isSegmentChar_of_mem {s : String} {c : Char} (member : c ∈ (segment s).toList) :
    isSegmentChar c = true := by
  unfold segment encode encodeBytes at member
  rw [String.toList_ofList] at member
  obtain ⟨b, -, member⟩ := List.mem_flatMap.mp member
  have small := b.toNat_lt
  rcases encodeByte_cases isUnreserved b with ⟨ascii, kept, encoded⟩ | encoded <;> rw [encoded] at member
  · obtain rfl := List.mem_singleton.mp member
    have character := toNat_ofNat_of_lt b.toNat ascii
    unfold isSegmentChar
    rw [character, UInt8.ofNat_toNat, kept]
    simp [ascii]
  · simp only [triplet, List.mem_cons, List.not_mem_nil, or_false] at member
    rcases member with rfl | rfl | rfl
    · rfl
    · exact isSegmentChar_digit _ (by omega)
    · exact isSegmentChar_digit _ (by omega)

/-- A fact about all characters of segments is a fact about ASCII. -/
lemma of_isSegmentChar {p : Char → Bool}
    (ascii : ∀ n < 128, isSegmentChar (Char.ofNat n) = true → p (Char.ofNat n) = true) {c : Char}
    (h : isSegmentChar c = true) : p c = true := by
  have small : c.toNat < 128 := by
    unfold isSegmentChar at h
    rw [Bool.or_eq_true, Bool.and_eq_true, decide_eq_true_eq, decide_eq_true_eq] at h
    rcases h with rfl | ⟨small, -⟩
    · decide
    · exact small
  have here := ascii c.toNat small
  rw [Char.ofNat_toNat] at here
  exact here h

/-- The characters that are never encoded: letters and digits of ASCII, and four marks. -/
def isUnreservedChar (c : Char) : Bool :=
  c.isAlphanum || c = '-' || c = '.' || c = '_' || c = '~'

/-- The digits of triplets. -/
def isUpperHexDigit (c : Char) : Bool :=
  c.isDigit || 'A' ≤ c && c ≤ 'F'

/-- A text that has nothing in it but unreserved characters and triplets with upper-case digits. -/
inductive IsSegment : List Char → Prop where
  | nil : IsSegment []
  | unreserved {c : Char} {rest : List Char} (plain : isUnreservedChar c = true) (later : IsSegment rest) :
      IsSegment (c :: rest)
  | triplet {high low : Char} {rest : List Char} (first : isUpperHexDigit high = true)
      (second : isUpperHexDigit low = true) (later : IsSegment rest) : IsSegment ('%' :: high :: low :: rest)

/-- The unreserved bytes are those of unreserved characters. -/
lemma isUnreservedChar_ofNat : ∀ n < 128, isUnreserved (UInt8.ofNat n) = true →
    isUnreservedChar (Char.ofNat n) = true := by
  decide

/-- Digits are upper-case. -/
lemma isUpperHexDigit_digit : ∀ n < 16, isUpperHexDigit (digit n) = true := by
  decide

/-- One encoded byte goes on a segment. -/
lemma isSegment_encodeByte (b : UInt8) {rest : List Char} (later : IsSegment rest) :
    IsSegment (encodeByte isUnreserved b ++ rest) := by
  have small := b.toNat_lt
  rcases encodeByte_cases isUnreserved b with ⟨ascii, kept, encoded⟩ | encoded <;> rw [encoded]
  · have plain := isUnreservedChar_ofNat b.toNat ascii
    rw [UInt8.ofNat_toNat] at plain
    exact .unreserved (plain kept) later
  · have high : isUpperHexDigit (digit (b.toNat / 16)) = true := isUpperHexDigit_digit _ (by omega)
    have low : isUpperHexDigit (digit (b.toNat % 16)) = true := isUpperHexDigit_digit _ (by omega)
    exact .triplet high low later

/-- Whatever a text holds, its segment looks like one. -/
theorem isSegment_segment (s : String) : IsSegment (segment s).toList := by
  have bytes (bs : List UInt8) : IsSegment (encodeBytes isUnreserved bs) := by
    induction bs with
    | nil => exact .nil
    | cons b bs ih =>
      have later := isSegment_encodeByte b ih
      rwa [encodeBytes, List.flatMap_cons]
  have encoded : (segment s).toList = encodeBytes isUnreserved (Utf8.encode s.toList) := String.toList_ofList
  rw [encoded]
  exact bytes _

/-- A segment stands for the bytes of the text that it was made of. -/
lemma decode_segment (s : String) : decode (Utf8.ofString (segment s)) = Utf8.ofString s := by
  have sign : isUnreserved 0x25 = false := by decide
  have encoded : (segment s).toList = encode isUnreserved s.toList := String.toList_ofList
  unfold Utf8.ofString
  rw [encoded]
  exact decode_encode sign _

/-- A segment stands for the text that it was made of. -/
theorem decodePart?_segment (s : String) : decodePart? (segment s) = some s := by
  unfold decodePart? Utf8.toString?
  rw [decode_segment, Utf8.ofString, Utf8.decode?_encode]
  simp

/-- Texts with the same segment are the same. -/
theorem segment_injective : Function.Injective segment := by
  intro s t same
  have decoded := decodePart?_segment s
  rw [same, decodePart?_segment] at decoded
  exact (Option.some.inj decoded).symm

end WorkspaceSchema.Url.Percent
