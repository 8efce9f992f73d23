import WorkspaceSchema.Url.Host
import WorkspaceSchema.Proofs.Url.Percent

/-!
# Hosts that end with a blank

A blank or a control character at the end of a host is never lost, and so the host is refused.  The proof
goes with `Host.parse` from step to step.  The blank is the last byte after percent-decoding, the last
character of the decoded text, and still the last one after mapping and composing, since it is neither mapped
nor a part of any letter.  It closes the last label then, which cannot be an encoded one, and stands
somewhere in the label as it is written in ASCII (`mem_of_toAscii?`).  There it is forbidden.
-/

namespace WorkspaceSchema

/-- A last byte that is no hexadecimal digit stands for itself. -/
lemma Url.Percent.decode_concat {x : UInt8} (other : digitValue? x = none) (bytes : List UInt8) :
    decode (bytes ++ [x]) = decode bytes ++ [x] := by
  induction bytes using decode.induct with
  | case1 => rfl
  | case2 a => rfl
  | case3 a b =>
    change decode [a, b, x] = [a, b, x]
    rw [decode]
    split
    · rw [other]
      cases digitValue? b <;> rfl
    · rfl
  | case4 b c rest high low hb hc ih =>
    change decode (_ :: b :: c :: (rest ++ [x])) = _
    rw [decode, decode, if_pos rfl, if_pos rfl, hb, hc]
    exact congrArg _ ih
  | case5 b c rest no ih =>
    change decode (_ :: b :: c :: (rest ++ [x])) = _
    rw [decode, decode, if_pos rfl, if_pos rfl]
    split
    · exact absurd ‹digitValue? c = some _› (no _ _ ‹_›)
    · exact congrArg _ ih
  | case6 a b c rest plain ih =>
    rw [decode_cons_of_ne plain, List.cons_append, decode_cons_of_ne plain]
    exact congrArg _ ih

namespace Url.Name

/-! ### Mapping and composing -/

/-- A character that is no part of a letter and has no case: a blank, or a control character. -/
def isBlank (c : Char) : Bool :=
  c.toNat ≤ 0x20

variable {b : Char}

/-- A fact about all blanks. -/
lemma of_isBlank {p : Char → Prop} (all : ∀ n ≤ 0x20, p (Char.ofNat n)) (blank : isBlank b = true) : p b := by
  have here := all b.toNat (of_decide_eq_true blank)
  rwa [Char.ofNat_toNat] at here

/-- A blank is mapped to itself. -/
lemma mapped?_of_isBlank (blank : isBlank b = true) : mapped? b = some [b] :=
  of_isBlank (p := fun b => mapped? b = some [b]) (by decide) blank

/-- A blank has no parts. -/
lemma decomposed_of_isBlank (blank : isBlank b = true) : decomposed b = [b] := by
  have small : b.toNat ≤ 0x20 := of_decide_eq_true blank
  have none : parts? b.toNat = none := by
    unfold parts?
    rw [if_pos (by omega)]
  unfold decomposed takenApart
  rw [none]
  simp

/-- A blank is attached to nothing. -/
lemma combiningClass_of_isBlank (blank : isBlank b = true) : Text.combiningClass b = 0 :=
  of_isBlank (p := fun b => Text.combiningClass b = 0) (by decide) blank

/-- A blank is composed with nothing before it. -/
lemma whole?_of_isBlank (blank : isBlank b = true) (first : Nat) : whole? first b.toNat = none := by
  have small : b.toNat ≤ 0x20 := of_decide_eq_true blank
  unfold whole?
  rw [if_pos (by omega)]

/-- A blank at the end is not passed by any character. -/
lemma suffix_arrange (blank : isBlank b = true) (c : Char) {cs : List Char} (last : [b] <:+ cs) :
    [b] <:+ arrange c cs := by
  induction cs with
  | nil => cases List.suffix_nil.mp last
  | cons d rest ih =>
    unfold arrange
    split
    case isTrue behind =>
      rcases List.suffix_cons_iff.mp last with same | later
      · obtain ⟨rfl, -⟩ := List.cons.inj same
        simp [combiningClass_of_isBlank blank] at behind
      · exact (ih later).trans (List.suffix_cons _ _)
    case isFalse => exact last.trans (List.suffix_cons _ _)

/-- A blank at the end stays there when marks are put in order. -/
lemma suffix_foldr_arrange (blank : isBlank b = true) (cs : List Char) :
    [b] <:+ (cs ++ [b]).foldr arrange [] := by
  induction cs with
  | nil => exact List.suffix_refl _
  | cons c cs ih => exact suffix_arrange blank c ih

/-- A blank at the end stays there when letters are put together. -/
lemma suffix_composeFrom (blank : isBlank b = true) (base : Char) (passed cs : List Char) :
    [b] <:+ composeFrom base passed (cs ++ [b]) := by
  induction cs generalizing base passed with
  | nil =>
    rw [List.nil_append, composeFrom.eq_def]
    dsimp only
    rw [whole?_of_isBlank blank, ite_self]
    dsimp only
    rw [if_pos (combiningClass_of_isBlank blank)]
    exact List.suffix_append _ _
  | cons c cs ih =>
    rw [List.cons_append, composeFrom.eq_def]
    dsimp only
    split
    · exact ih _ _
    · split
      · exact (ih c []).trans (List.suffix_append _ _)
      · exact ih _ _

/-- A blank at the end is still there in composed form. -/
lemma suffix_composed (blank : isBlank b = true) (cs : List Char) : [b] <:+ composed (cs ++ [b]) := by
  unfold composed
  rw [List.flatMap_append, List.flatMap_singleton, decomposed_of_isBlank blank]
  obtain ⟨front, same⟩ := suffix_foldr_arrange blank (cs.flatMap decomposed)
  rw [← same]
  cases front with
  | nil => exact List.suffix_refl _
  | cons base rest => exact suffix_composeFrom blank base [] rest

/-- A blank at the end of a name is not lost. -/
lemma suffix_normalized? (blank : isBlank b = true) {cs ns : List Char}
    (normal : normalized? (cs ++ [b]) = some ns) : [b] <:+ ns := by
  unfold normalized? at normal
  rw [List.mapM_append, List.mapM_cons, List.mapM_nil, mapped?_of_isBlank blank] at normal
  cases targets : cs.mapM mapped? with
  | none =>
    rw [targets] at normal
    cases normal
  | some targets' =>
    rw [targets] at normal
    obtain rfl := Option.some.inj normal
    dsimp only
    rw [List.flatten_append, List.flatten_singleton]
    exact suffix_composed blank _

/-! ### Labels -/

/-- A blank at the end of a text closes its last part. -/
lemma exists_last_part {p : Char → Bool} (inside : p b = false) {cs : List Char} (last : [b] <:+ cs) :
    ∃ parts part, Text.splitAll p cs = parts ++ [part] ∧ [b] <:+ part := by
  induction cs with
  | nil => cases List.suffix_nil.mp last
  | cons c cs ih =>
    rcases List.suffix_cons_iff.mp last with same | later
    · obtain ⟨rfl, rfl⟩ := List.cons.inj same
      exact ⟨[], [b], Text.splitAll_eq_singleton (by simpa using inside), List.suffix_refl _⟩
    · obtain ⟨parts, part, split, closes⟩ := ih later
      rw [Text.splitAll, split]
      cases parts with
      | nil =>
        by_cases separates : p c = true
        · exact ⟨[[]], part, by simp [separates], closes⟩
        · exact ⟨[], c :: part, by simp [separates], closes.trans (List.suffix_cons _ _)⟩
      | cons first parts =>
        by_cases separates : p c = true
        · exact ⟨[] :: first :: parts, part, by simp [separates], closes⟩
        · exact ⟨(c :: first) :: parts, part, by simp [separates], closes⟩

/-- A blank is no digit of a numeral. -/
lemma digitValue?_of_isBlank (blank : isBlank b = true) : Punycode.digitValue? b = none :=
  of_isBlank (p := fun b => Punycode.digitValue? b = none) (by decide) blank

/-- A numeral ends before a blank. -/
lemma suffix_of_readNumeral? (blank : isBlank b = true) {bias k weight sum n : Nat} {cs rest : List Char}
    (last : [b] <:+ cs) (read : Punycode.readNumeral? bias k weight sum cs = some (n, rest)) :
    [b] <:+ rest := by
  induction cs generalizing k weight sum with
  | nil => cases List.suffix_nil.mp last
  | cons c cs ih =>
    rw [Punycode.readNumeral?] at read
    cases digit : Punycode.digitValue? c with
    | none =>
      rw [digit] at read
      cases read
    | some value =>
      have later : [b] <:+ cs := by
        rcases List.suffix_cons_iff.mp last with same | later
        · obtain ⟨rfl, -⟩ := List.cons.inj same
          rw [digitValue?_of_isBlank blank] at digit
          cases digit
        · exact later
      rw [digit] at read
      dsimp only [Option.bind_eq_bind, Option.bind_some] at read
      split at read
      · cases read
      · split at read
        · obtain ⟨-, rfl⟩ := Prod.mk.inj (Option.some.inj read)
          exact later
        · split at read
          · cases read
          · exact ih later read

/-- Numerals with a blank behind them are none. -/
lemma insertDecoded?_eq_none (blank : isBlank b = true) {bias n place : Nat} {label cs : List Char}
    (last : [b] <:+ cs) : Punycode.insertDecoded? bias n place label cs = none := by
  induction bias, n, place, label, cs using Punycode.insertDecoded?.induct with
  | case1 bias n place label cs none empty =>
    rw [List.isEmpty_iff.mp empty] at last
    cases List.suffix_nil.mp last
  | case2 bias n place label cs none filled =>
    rw [Punycode.insertDecoded?]
    split
    · exact if_neg filled
    · next h => cases none.symm.trans h
  | case3 bias n place label cs reached rest read places point valid ih =>
    rw [Punycode.insertDecoded?]
    split
    · next h => cases read.symm.trans h
    · next h =>
      obtain ⟨rfl, rfl⟩ := Prod.mk.inj (Option.some.inj (read.symm.trans h))
      exact (if_pos valid).trans (ih (suffix_of_readNumeral? blank last read))
  | case4 bias n place label cs reached rest read places point invalid =>
    rw [Punycode.insertDecoded?]
    split
    · next h => cases read.symm.trans h
    · next h =>
      obtain ⟨rfl, rfl⟩ := Prod.mk.inj (Option.some.inj (read.symm.trans h))
      exact if_neg invalid

/-- A text with a blank at its end is no label in Punycode. -/
lemma decode?_eq_none (blank : isBlank b = true) {part : List Char} (last : [b] <:+ part) :
    Punycode.decode? part = none := by
  have hyphen : b ≠ '-' := of_isBlank (p := fun b => b ≠ '-') (by decide) blank
  have after : [b] <:+ (part.reverse.takeWhile (· ≠ '-')).reverse := by
    obtain ⟨front, rfl⟩ := last
    rw [List.reverse_append, List.reverse_singleton, List.singleton_append,
      List.takeWhile_cons_of_pos (by simpa using hyphen), List.reverse_cons]
    exact List.suffix_append _ _
  unfold Punycode.decode?
  dsimp only
  split
  · exact insertDecoded?_eq_none blank last
  · exact insertDecoded?_eq_none blank after

/-- A label with a blank at its end is read as it is, if it is read. -/
lemma suffix_readLabel? (blank : isBlank b = true) {label read : List Char} (last : [b] <:+ label)
    (known : readLabel? label = some read) : [b] <:+ read := by
  have hyphen : b ≠ '-' := of_isBlank (p := fun b => b ≠ '-') (by decide) blank
  unfold readLabel? at known
  split at known
  · next part encoded =>
    have last' : [b] <:+ part := by
      unfold encodedPart? at encoded
      split at encoded
      · next tail =>
        obtain rfl : tail = part := Option.some.inj encoded
        rcases tail with - | ⟨c, tail⟩
        · rcases last with ⟨front, same⟩
          have ends := congrArg List.getLast? same
          simp only [List.getLast?_concat] at ends
          exact absurd (Option.some.inj ends) hyphen
        · simpa [List.suffix_cons_iff] using last
      · cases encoded
    unfold decodedPart? at known
    rw [decode?_eq_none blank last'] at known
    split at known <;> cases known
  · obtain rfl := Option.some.inj known
    exact last

/-! ### Names in ASCII -/

/-- What the encoder has written stays written. -/
lemma prefix_visit (basic n : Nat) (s : Punycode.State) (c : Nat) :
    s.output <+: (Punycode.visit basic n s c).output := by
  unfold Punycode.visit
  split
  · exact List.prefix_refl _
  · split
    · exact List.prefix_append _ _
    · exact List.prefix_refl _

/-- What the encoder has written stays written while it passes over a label. -/
lemma prefix_foldl_visit (basic n : Nat) (label : List Nat) (s : Punycode.State) :
    s.output <+: (label.foldl (Punycode.visit basic n) s).output := by
  induction label generalizing s with
  | nil => exact List.prefix_refl _
  | cons c label ih => exact (prefix_visit basic n s c).trans (ih _)

/-- What the encoder has written stays written to the end. -/
lemma prefix_insertAll (basic : Nat) (label : List Nat) (n : Nat) (rest : List Nat) (s : Punycode.State) :
    s.output <+: (Punycode.insertAll basic label n rest s).output := by
  induction rest generalizing n s with
  | nil => exact List.prefix_refl _
  | cons m rest ih =>
    unfold Punycode.insertAll
    refine List.IsPrefix.trans ?_ (ih _ _)
    exact prefix_foldl_visit basic m label { s with delta := s.delta + (m - n) * (s.handled + 1) }

/-- The characters of a label that are in ASCII are in the encoded label, too. -/
lemma mem_asciiLabel {c : Char} {label : List Char} (member : c ∈ label) (ascii : c.toNat < 0x80) :
    c ∈ asciiLabel label := by
  unfold asciiLabel
  split
  · exact member
  · refine List.mem_append_right _ ?_
    have kept : c ∈ label.filter (·.toNat < 0x80) := List.mem_filter.mpr ⟨member, decide_eq_true ascii⟩
    unfold Punycode.encode
    refine (prefix_insertAll _ _ _ _ _).subset ?_
    dsimp only
    split
    · next none =>
      rw [List.isEmpty_iff.mp none] at kept
      cases kept
    · exact List.mem_append_left _ kept

/-- What is in a part is in the parts joined together. -/
lemma mem_intercalate {α : Type} {separator : List α} {parts : List (List α)} {part : List α}
    (among : part ∈ parts) {a : α} (member : a ∈ part) : a ∈ separator.intercalate parts := by
  induction parts with
  | nil => cases among
  | cons first parts ih =>
    cases parts with
    | nil =>
      obtain rfl := List.mem_singleton.mp among
      rwa [List.intercalate_singleton]
    | cons next parts =>
      rw [List.intercalate_cons_cons]
      rcases List.mem_cons.mp among with rfl | among
      · exact List.mem_append_left _ (List.mem_append_left _ member)
      · exact List.mem_append_right _ (ih among)

/-- A blank at the end of a name is found in its form in ASCII. -/
theorem mem_of_toAscii? (blank : isBlank b = true) {cs text : List Char}
    (name : toAscii? (cs ++ [b]) = some text) : b ∈ text := by
  have dot : decide (b = '.') = false :=
    of_isBlank (p := fun b => decide (b = '.') = false) (by decide) blank
  have small : b.toNat ≤ 0x20 := of_decide_eq_true blank
  unfold toAscii? at name
  cases normal : normalized? (cs ++ [b]) with
  | none =>
    rw [normal] at name
    cases name
  | some ns =>
    obtain ⟨parts, part, split, closes⟩ := exists_last_part (p := (· = '.')) dot (suffix_normalized? blank normal)
    rw [normal] at name
    dsimp only [Option.bind_eq_bind, Option.bind_some] at name
    rw [split, List.mapM_append, List.mapM_cons, List.mapM_nil] at name
    cases before : parts.mapM readLabel? with
    | none =>
      rw [before] at name
      cases name
    | some labels =>
      cases known : readLabel? part with
      | none =>
        rw [before, known] at name
        cases name
      | some label =>
        rw [before, known] at name
        dsimp only [Option.bind_eq_bind, Option.bind_some, Option.pure_def] at name
        split at name
        · obtain rfl := Option.some.inj name
          have last := (suffix_readLabel? blank closes known).subset (List.mem_singleton_self b)
          have among : asciiLabel label ∈ (labels ++ [label]).map asciiLabel := by simp
          exact mem_intercalate among (mem_asciiLabel last (by omega))
        · cases name

end Url.Name

/-! ### Hosts -/

namespace Url.Host

/-- A text with a blank at its end is no host. -/
theorem exists_fault_of_blank {b : Char} (blank : Name.isBlank b = true) (cs : List Char) :
    ∃ fault, parse (cs ++ [b]) = .error fault := by
  have ascii : b.toNat < 128 := Nat.lt_of_le_of_lt (of_decide_eq_true blank) (by decide)
  unfold parse
  split
  · next rest opened =>
    -- An address in brackets ends with the closing one.
    refine ⟨.invalidIpv6, ?_⟩
    have last : rest.getLast? = some b := by
      cases cs with
      | nil =>
        obtain ⟨rfl, -⟩ := List.cons.inj opened
        cases blank
      | cons c cs =>
        obtain ⟨-, rfl⟩ := List.cons.inj opened
        exact List.getLast?_concat
    have open_end : b ≠ ']' := Name.of_isBlank (p := fun b => b ≠ ']') (by decide) blank
    unfold parseBracketed
    rw [last]
    split
    · next closed => exact absurd (Option.some.inj closed) open_end
    · rfl
  · have byte : Percent.digitValue? (UInt8.ofNat b.toNat) = none :=
      Name.of_isBlank (p := fun b => Percent.digitValue? (UInt8.ofNat b.toNat) = none) (by decide) blank
    have small : UInt8.ofNat b.toNat < 0x80 :=
      (Utf8.ofNat_lt_ofNat (n := 0x80) (by omega) (by omega)).mpr ascii
    rw [Utf8.encode_append, Percent.encode_singleton ascii, Percent.decode_concat byte]
    cases decoded : Utf8.decode? (Percent.decode (Utf8.encode cs) ++ [UInt8.ofNat b.toNat]) with
    | none => exact ⟨.invalidName, rfl⟩
    | some ds =>
      have last := Utf8.decode?_concat small decoded
      rw [Utf8.toNat_ofNat (by omega), Char.ofNat_toNat] at last
      obtain ⟨front, rfl⟩ := last
      rw [Option.bind_some]
      cases name : Name.toAscii? (front ++ [b]) with
      | none => exact ⟨.invalidName, rfl⟩
      | some text =>
        have forbidden : text.any isForbidden = true :=
          List.any_eq_true.mpr ⟨b, Name.mem_of_toAscii? blank name, by
            unfold isForbidden
            rw [show decide (b.toNat ≤ 0x20) = true from blank]
            rfl⟩
        refine ⟨.invalidName, ?_⟩
        dsimp only
        rw [if_pos forbidden]

end Url.Host

end WorkspaceSchema
