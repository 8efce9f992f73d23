import WorkspaceSchema.Proofs.Json.Outcome
import WorkspaceSchema.Proofs.Json.Record

/-!
# What documents mean to a shape

`Shape.meaning?` says what a document means to a shape, without a reader: which value it gives, if it gives
one at all.  Whatever text a document has, it is read for its meaning, and refused if it has none
(`Shape.toOption_parse`).  So two texts of one document are read alike, however they differ in blanks and in
how their characters are spelled.

A record takes its values from the members of an object, field by field, or from the items of a list in the
order of its fields.  In an object, members that belong to no field are passed over, whatever they hold.
-/

namespace WorkspaceSchema.Json

open Reading

/-! ### Meanings -/

/-- The whole number that a document is, if it is one and fits 64 bits.  With a sign, zero is none. -/
def Written.integer? : Written → Option Int
  | .number false whole [] => if whole < significandLimit then some whole else none
  | .number true whole [] => if whole ≠ 0 ∧ whole ≤ negativeLimit then some (-whole) else none
  | _ => none

/-- The whole number that a document is, if it lies in a range. -/
def Written.within? (low high : Int) (t : Written) : Option Int :=
  t.integer?.bind fun i => if low ≤ i && i ≤ high then some i else none

/-- The place of a choice that a document names, as a text or as the only member of an object. -/
def Written.choice? (first : String) (others : List String) : Written → Option (Fin (others.length + 1))
  | .text name => variant? first others name
  | .object [(name, .null)] => variant? first others name
  | _ => none

/-- What a document means that may be null. -/
def Written.nullable? {α : Type} (meaning : Written → Option α) : Written → Option (Option α)
  | .null => some none
  | t => (meaning t).map some

/-- What a document means to a field. -/
def Written.slot? {α : Type} (meaning : Written → Option α) (t : Written) :
    (p : Presence) → Option (p.Slot α)
  | .required => meaning t
  | .defaulted => meaning t
  | .optional => t.nullable? meaning
  | .omittable => t.nullable? meaning

lemma Written.nullable?_of_ne {α : Type} (meaning : Written → Option α) {t : Written} (other : t ≠ .null) :
    t.nullable? meaning = (meaning t).map some := by
  cases t with
  | null => exact absurd rfl other
  | bool | number | text | array | object => rfl

mutual

/-- What a document means to a shape. -/
def Shape.meaning? : (s : Shape) → Written → Option s.Val
  | .text, t => match t with
    | .text value => some value
    | _ => none
  | .bool, t => match t with
    | .bool value => some value
    | _ => none
  | .int32, t => t.within? int32Low int32High
  | .word64, t => (t.within? 0 word64High).map Int.toNat
  | .choice first others, t => t.choice? first others
  | .list item, t => match t with
    | .array items => items.mapM (item.meaning? ·)
    | _ => none
  | .record _ fields, t => match t with
    | .array items => if items.length ≤ fields.length then fields.listed? items else none
    | .object members => fields.gathered? members
    | _ => none

/-- The values of a record whose fields are items of a list, some of the last ones perhaps missing. -/
def Fields.listed? : (f : Fields) → List Written → Option f.Slots
  | .nil, _ => some ()
  | .cons _ p s rest, items =>
    match items with
    | [] => (p.unlisted? s.initial).bind fun v => (rest.listed? []).map (v, ·)
    | t :: later => (t.slot? (s.meaning? ·) p).bind fun v => (rest.listed? later).map (v, ·)

/-- The values of a record whose fields are members of an object. -/
def Fields.gathered? : (f : Fields) → List (String × Written) → Option f.Slots
  | .nil, _ => some ()
  | .cons name p s rest, members =>
    (only? (p.absent? s.initial) (fun t => t.slot? (s.meaning? ·) p) (values name members)).bind fun v =>
      (rest.gathered? members).map (v, ·)

end

/-- What a document means to a field of some shape. -/
def fieldMeaning? (p : Presence) (s : Shape) (t : Written) : Option (p.Slot s.Val) :=
  t.slot? (s.meaning? ·) p

lemma Fields.gathered?_eq_gather? : (f : Fields) → (members : List (String × Written)) →
    f.gathered? members = f.gather? fieldMeaning? members
  | .nil, _ => rfl
  | .cons name p s rest, members => by
    rw [gathered?, gather?, gathered?_eq_gather? rest]
    rfl

/-! ### How a document begins -/

section Beginning

variable {t : Written} {b : UInt8}

/-- What the first byte of a document tells about its kind. -/
structure Written.Tells (t : Written) (b : UInt8) : Prop where
  null : b = 0x6E → t = .null
  yes : b = 0x74 → t = .bool true
  no : b = 0x66 → t = .bool false
  number : b = 0x2D ∨ isDigit b = true → ∃ negative whole tail, t = .number negative whole tail
  text : b = 0x22 → ∃ value, t = .text value
  array : b = 0x5B → ∃ items, t = .array items
  object : b = 0x7B → ∃ members, t = .object members

lemma Written.BeginsWith.tells (begins : t.BeginsWith b) : t.Tells b := by
  match t with
  | .number false _ _ =>
    refine ⟨?_, ?_, ?_, fun _ => ⟨_, _, _, rfl⟩, ?_, ?_, ?_⟩ <;> (rintro rfl; cases begins)
  | .null | .bool true | .bool false | .text _ | .array _ | .object _ | .number true _ _ =>
    cases begins
    constructor
    all_goals
      intro same
      first
      | rfl
      | exact ⟨_, rfl⟩
      | exact ⟨_, _, _, rfl⟩
      | (cases same; done)
      | (rcases same with same | same <;> cases same)

end Beginning

/-! ### Single values -/

section Single

variable {t : Written} {b : UInt8} {part bytes rest : List UInt8}

lemma Behind.reads_peekValue (behind : Behind (b :: part) bytes) (visible : Cursor.isBlank b = false) :
    Reads peekValue (bytes ++ rest) b (b :: (part ++ rest)) :=
  (behind.reads_peekToken visible).bind (reads_pure b _)

/-- A document is looked at before it is read: its first byte tells its kind. -/
lemma Written.Spelled.exists_peekValue (spelled : t.Spelled bytes) :
    ∃ b part, t.Spelled (b :: part) ∧ t.Tells b ∧
      ∀ rest, Reads peekValue (bytes ++ rest) b (b :: part ++ rest) := by
  obtain ⟨b, part, behind, spelled, begins⟩ := spelled.exists_first
  exact ⟨b, part, spelled, begins.tells, fun rest => behind.reads_peekValue begins.opens.1⟩

lemma reads_text_spelled {value : String} (spelled : (Written.text value).Spelled bytes) (expected : String)
    (rest : List UInt8) : Reads (Reading.text expected) (bytes ++ rest) value rest := by
  obtain ⟨body, spells, behind⟩ := spelled
  have text := reads_textBody_spelled spells rest
  refine (behind.reads_peekValue rfl).bind ?_
  rw [if_pos rfl, List.append_assoc]
  exact (reads_skip_one _ _).bind text

/-- A document that is no text is refused as one. -/
lemma refuses_text (other : ∀ value, t ≠ .text value) (spelled : t.Spelled bytes) (expected : String)
    (rest : List UInt8) : Refuses (Reading.text expected) (bytes ++ rest) := by
  obtain ⟨b, part, -, tells, looks⟩ := spelled.exists_peekValue
  refine (looks rest).refuses ?_
  rw [if_neg fun quote => (tells.text quote).elim other]
  exact refuses_refuseKind _ _

lemma means_text (expected : String) (t : Written) :
    Means (Reading.text expected) t (Shape.text.meaning? t) := by
  intro bytes rest spelled _
  match t with
  | .text value => exact reads_text_spelled spelled expected rest
  | .null | .bool _ | .number _ _ _ | .array _ | .object _ =>
    refine refuses_text (fun value is => ?_) spelled expected rest
    cases is

lemma means_flag (t : Written) : Means flag t (Shape.bool.meaning? t) := by
  intro bytes rest spelled _
  match t with
  | .bool true =>
    exact (Behind.reads_peekValue spelled rfl).bind ((reads_skip_one _ _).bind
      ((reads_keyword [0x72, 0x75, 0x65] rest).bind (reads_pure true rest)))
  | .bool false =>
    exact (Behind.reads_peekValue spelled rfl).bind ((reads_skip_one _ _).bind
      ((reads_keyword [0x61, 0x6C, 0x73, 0x65] rest).bind (reads_pure false rest)))
  | .null | .number _ _ _ | .text _ | .array _ | .object _ =>
    obtain ⟨b, part, -, tells, looks⟩ := spelled.exists_peekValue
    refine (looks rest).refuses ?_
    split
    · cases tells.yes rfl
    · cases tells.no rfl
    · exact refuses_refuseKind _ _

lemma reads_null (spelled : Written.null.Spelled bytes) (rest : List UInt8) :
    Reads Reading.null (bytes ++ rest) () rest :=
  (Behind.reads_peekValue spelled rfl).bind ((reads_skip_one _ _).bind
    (reads_keyword [0x75, 0x6C, 0x6C] rest))

lemma refuses_null (other : t ≠ .null) (spelled : t.Spelled bytes) (rest : List UInt8) :
    Refuses Reading.null (bytes ++ rest) := by
  obtain ⟨b, part, -, tells, looks⟩ := spelled.exists_peekValue
  refine (looks rest).refuses ?_
  rw [if_neg fun null => other (tells.null null)]
  exact refuses_refuseKind _ _

lemma means_nullable {α : Type} {r : Reading α} {meaning : Written → Option α}
    (means : ∀ t, Means r t (meaning t)) (t : Written) : Means (nullable r) t (t.nullable? meaning) := by
  intro bytes rest spelled delimited
  by_cases null : t = .null
  · subst null
    exact (Behind.reads_peekToken spelled rfl).bind ((reads_skip_one _ _).bind
      ((reads_keyword [0x75, 0x6C, 0x6C] rest).bind (reads_pure none rest)))
  · obtain ⟨b, part, behind, spelled, begins⟩ := spelled.exists_first
    rw [Written.nullable?_of_ne meaning null]
    refine (behind.reads_peekToken begins.opens.1).settles ?_
    rw [if_neg fun same => null (begins.tells.null (Option.some.inj same))]
    exact (means t spelled delimited).map some

/-- A field reads what a document means to it. -/
lemma means_slot {α : Type} {r : Reading α} {meaning : Written → Option α}
    (means : ∀ t, Means r t (meaning t)) (t : Written) (p : Presence) :
    Means (slot r p) t (t.slot? meaning p) := by
  cases p with
  | required | defaulted => exact means t
  | optional | omittable => exact means_nullable means t

end Single

/-! ### Numbers -/

section Numbers

variable {ahead between rest : List UInt8} {s m : Nat} {bytes : List UInt8} {b : UInt8}

/-- Digits that do not all fit are not all taken. -/
lemma appendDigits_concat_lt (stops : (appendDigits s bytes).2 < bytes.length ∨
      appendDigits s bytes = (m, bytes.length) ∧ significandLimit ≤ m * 10 + digitValue b) :
    (appendDigits s (bytes ++ [b])).2 < bytes.length + 1 := by
  induction bytes generalizing s with
  | nil =>
    rcases stops with none | ⟨all, large⟩
    · exact absurd none (Nat.not_lt_zero _)
    · obtain ⟨rfl, -⟩ := Prod.mk.inj all
      simp only [List.nil_append, appendDigits, if_neg (Nat.not_lt.mpr large)]
      exact Nat.zero_lt_one
  | cons c bytes ih =>
    simp only [List.cons_append, appendDigits, List.length_cons] at stops ⊢
    split at stops
    case isTrue inside =>
      rw [if_pos inside]
      refine Nat.succ_lt_succ (ih ?_)
      rcases stops with fewer | ⟨all, large⟩
      · exact .inl (Nat.lt_of_succ_lt_succ fewer)
      · obtain ⟨value, count⟩ := Prod.mk.inj all
        exact .inr ⟨Prod.ext value (Nat.succ.inj count), large⟩
    case isFalse outside =>
      rw [if_neg outside]
      exact Nat.zero_lt_succ _

/-- Not all digits of a number are taken if the number does not fit 64 bits. -/
lemma appendDigits_digits_lt {n : Nat} (large : significandLimit ≤ n) :
    (appendDigits 0 (digits n)).2 < (digits n).length := by
  induction n using Nat.strongRecOn with
  | ind n ih =>
    have long : 10 ≤ n := Nat.le_trans (by decide) large
    rw [digits_of_le long, List.length_append]
    refine appendDigits_concat_lt (m := n / 10) ?_
    by_cases fits : n / 10 < significandLimit
    · refine .inr ⟨appendDigits_digits fits, ?_⟩
      rw [digitValue_ofNat _ (by omega)]
      omega
    · exact .inl (ih (n / 10) (by omega) (Nat.not_lt.mp fits))

/-- With the bytes `ahead` a reader of numbers finds no whole number. -/
def FindsNoInteger (r : Reading Number) (ahead : List UInt8) : Prop :=
  ∀ c : Cursor, c.rest = ahead → ∀ i c', r.run c ≠ .ok (.integer i, c')

lemma Continues.findsNoInteger {r r' : Reading Number} (continues : Continues r ahead r' between)
    (none : FindsNoInteger r' between) : FindsNoInteger r ahead := by
  intro c here i c' found
  obtain ⟨c'', there, same⟩ := continues c here
  exact none c'' there i c' (same.symm.trans found)

lemma findsNoInteger_pure (x : Float) (ahead : List UInt8) : FindsNoInteger (pure (.real x)) ahead :=
  fun _ _ _ _ found => nomatch found

/-- A number that is read as a double is no whole number. -/
lemma findsNoInteger_real (r : Reading Float) (ahead : List UInt8) :
    FindsNoInteger (do return .real (← r)) ahead := by
  intro c _ i c'
  rw [StateT.run_bind]
  cases r.run c with
  | error e => exact nofun
  | ok found => exact nofun

lemma FindsNoInteger.refuses {α : Type} {r : Reading Number} {f : Number → Reading α}
    (none : FindsNoInteger r ahead) (later : ∀ x ahead, Refuses (f (.real x)) ahead) :
    Refuses (r >>= f) ahead := by
  intro c here
  rw [StateT.run_bind]
  cases found : r.run c with
  | error e => exact ⟨e, rfl⟩
  | ok result =>
    obtain ⟨number, c'⟩ := result
    cases number with
    | integer i => exact absurd found (none c here i c')
    | real x => exact later x c'.rest c' rfl

/-- A number that ends with its digits is no whole number if it does not fit 64 bits, or if it is zero with a
sign. -/
lemma findsNoInteger_numberAtEnd {negative : Bool} {whole : Nat}
    (other : (Written.number negative whole []).integer? = none) (ahead : List UInt8) :
    FindsNoInteger (numberAtEnd negative (appendDigits 0 (digits whole)).1
      ((digits whole).length - (appendDigits 0 (digits whole)).2)) ahead := by
  unfold numberAtEnd
  by_cases fits : whole < significandLimit
  · rw [appendDigits_digits fits]
    dsimp only
    rw [if_neg (by omega)]
    cases negative with
    | false =>
      change (if whole < significandLimit then some (whole : Int) else none) = none at other
      rw [if_pos fits] at other
      cases other
    | true =>
      change (if whole ≠ 0 ∧ whole ≤ negativeLimit then some (-(whole : Int)) else none) = none at other
      have outside : ¬(whole ≠ 0 ∧ whole ≤ negativeLimit) := by
        intro inside
        rw [if_pos inside] at other
        cases other
      rw [if_neg (by decide), if_pos (by simp; omega)]
      exact findsNoInteger_pure _ _
  · have short := appendDigits_digits_lt (Nat.not_lt.mp fits)
    rw [if_pos (by omega)]
    exact findsNoInteger_real _ _

/-- A number with a fraction or an exponent, or one that does not fit 64 bits, is not read as a whole
number, and neither is zero with a sign. -/
lemma findsNoInteger_number {negative : Bool} {whole : Nat} {tail : List UInt8} (isTail : IsTail tail)
    (delimited : Delimited rest) (other : (Written.number negative whole tail).integer? = none) :
    FindsNoInteger (Reading.number negative) (digits whole ++ (tail ++ rest)) := by
  refine (continues_number negative (isTail.takeWhile_isDigit delimited)).findsNoInteger ?_
  obtain ⟨fraction, exponent, fractional, exponential, rfl⟩ := isTail
  rcases fractional with rfl | ⟨ds, -, rfl⟩
  · rcases exponential with rfl | ⟨letter, sign, ds, rfl | rfl, -, -, rfl⟩
    · rw [List.append_nil, List.nil_append, delimited.numberAfter_eq]
      exact findsNoInteger_numberAtEnd other rest
    · exact findsNoInteger_real _ _
    · exact findsNoInteger_real _ _
  · exact findsNoInteger_real _ _

/-- A number is read for the whole number that it is. -/
lemma reads_number_spelled {negative : Bool} {whole : Nat} {tail : List UInt8} {i : Int}
    (is : (Written.number negative whole tail).integer? = some i) (delimited : Delimited rest) :
    Reads (Reading.number negative) (digits whole ++ (tail ++ rest)) (.integer i) rest := by
  match negative, tail with
  | false, [] =>
    change (if whole < significandLimit then some (whole : Int) else none) = some i at is
    split at is
    case isTrue fits =>
      obtain rfl := Option.some.inj is
      exact reads_number false fits (fun negative => nomatch negative) delimited
    case isFalse => cases is
  | true, [] =>
    change (if whole ≠ 0 ∧ whole ≤ negativeLimit then some (-(whole : Int)) else none) = some i at is
    split at is
    case isTrue inside =>
      obtain rfl := Option.some.inj is
      have limits : negativeLimit < significandLimit := by decide
      exact reads_number true (by omega) (fun _ => inside) delimited
    case isFalse => cases is
  | false, _ :: _ => cases is
  | true, _ :: _ => cases is

/-- A number is read, and what is done with it depends on whether it is a whole number. -/
lemma settles_number {α : Type} {negative : Bool} {whole : Nat} {tail : List UInt8} (isTail : IsTail tail)
    (delimited : Delimited rest) {f : Number → Reading α} {g : Int → Option α}
    (integer : ∀ i, Settles (f (.integer i)) rest (g i) rest)
    (real : ∀ x ahead, Refuses (f (.real x)) ahead) :
    Settles (Reading.number negative >>= f) (digits whole ++ (tail ++ rest))
      ((Written.number negative whole tail).integer?.bind g) rest := by
  cases is : (Written.number negative whole tail).integer? with
  | some i => exact (reads_number_spelled is delimited).settles (integer i)
  | none => exact (findsNoInteger_number isTail delimited is).refuses real

/-- A whole number in a range is read, and everything else is refused. -/
lemma means_wholeNumber (low high : Int) (expected : String) (t : Written) :
    Means (Reading.wholeNumber low high expected) t (t.within? low high) := by
  intro bytes rest spelled delimited
  match t with
  | .null | .bool _ | .text _ | .array _ | .object _ =>
    obtain ⟨b, part, -, tells, looks⟩ := spelled.exists_peekValue
    have other : ¬(b = 0x2D ∨ isDigit b = true) := by
      intro number
      obtain ⟨_, _, _, is⟩ := tells.number number
      cases is
    refine (looks rest).refuses ?_
    rw [if_neg fun sign => other (.inl sign), if_neg fun digit => other (.inr digit)]
    exact (refuses_refuseKind _ _).bind _
  | .number negative whole tail =>
    have inside (i : Int) : Settles (if low ≤ i && i ≤ high then return i
        else refuse (.wrongValue (.number (.integer i)) expected) : Reading Int) rest
        (if low ≤ i && i ≤ high then some i else none) rest := by
      split
      · exact reads_pure i rest
      · exact refuses_refuse _ _
    obtain ⟨isTail, behind⟩ := spelled
    unfold Reading.wholeNumber
    cases negative with
    | true =>
      rw [if_pos rfl, List.singleton_append] at behind
      refine (behind.reads_peekValue rfl).settles ((reads_skip_one _ _).settles ?_)
      rw [List.append_assoc]
      exact settles_number isTail delimited inside fun x => refuses_refuse _
    | false =>
      obtain ⟨d, others, first, one, -⟩ := exists_digits whole
      obtain ⟨visible, sign, -⟩ := isDigit_first one
      rw [if_neg Bool.false_ne_true, List.nil_append, first, List.cons_append] at behind
      refine (behind.reads_peekValue visible).settles ?_
      have ahead : UInt8.ofNat (48 + d) :: (others ++ tail ++ rest) = digits whole ++ (tail ++ rest) := by
        rw [first, List.cons_append, List.append_assoc]
      rw [if_neg sign, if_pos (isDigit_ofNat d one), ahead]
      exact settles_number isTail delimited inside fun x => refuses_refuse _

end Numbers

/-! ### Choices -/

section Choices

variable {first : String} {others : List String} {bytes : List UInt8}

lemma settles_variantText (first : String) (others : List String) {name : String}
    (spelled : (Written.text name).Spelled bytes) (rest : List UInt8) :
    Settles (variantText first others) (bytes ++ rest) (variant? first others name) rest := by
  refine (reads_text_spelled spelled "variant identifier" rest).settles ?_
  cases variant? first others name with
  | some place => exact reads_pure place rest
  | none => exact refuses_refuse _ _

/-- A choice is read by its name. -/
lemma means_choice {levels : Nat} (deep : 2 ≤ levels) (t : Written) :
    Means (Reading.choice levels first others) t (t.choice? first others) := by
  intro bytes rest spelled _
  match t with
  | .text name =>
    obtain ⟨b, part, behind, spelled, begins⟩ := spelled.exists_first
    cases begins
    exact (behind.reads_peekValue rfl).settles (settles_variantText first others spelled rest)
  | .object [] =>
    obtain ⟨inner, spells, behind⟩ := spelled
    refine (behind.reads_peekValue rfl).settles ((reads_enter (by omega) _ _).settles ?_)
    exact ((Behind.reads_peekToken spells rfl).refuses (refuses_refuseNext _ _)).bind _
  | .object ((name, value) :: members) =>
    obtain ⟨inner, ⟨body, one, later, valued, named, text, spells, last, colon, quoted, rfl⟩, behind⟩ :=
      spelled
    have ahead : 0x22 :: (body ++ 0x22 :: valued ++ rest) = 0x22 :: (body ++ [0x22]) ++ (valued ++ rest) := by
      rw [List.cons_append, List.append_assoc, List.append_assoc]
      rfl
    have place := settles_variantText first others ⟨body, text, .self _⟩ (valued ++ rest)
    rw [← ahead] at place
    have value_ahead : Reads Reading.colon (valued ++ rest) () (one ++ (later ++ rest)) := by
      rw [← List.append_assoc]
      exact colon.reads_colon
    refine (behind.reads_peekValue rfl).settles ((reads_enter (by omega) _ _).settles ?_)
    refine ((quoted.reads_peekToken rfl).bind (reads_pure () _)).settles ?_
    by_cases single : value = .null ∧ members = []
    · obtain ⟨rfl, rfl⟩ := single
      have is (o : Option (Fin (others.length + 1))) : o = o.bind some := (Option.bind_fun_some o).symm
      rw [Written.choice?, is (variant? first others name)]
      refine place.bind fun place _ => value_ahead.settles ((reads_null spells _).settles ?_)
      exact (Behind.reads_peekToken last rfl).bind ((reads_skip_one _ _).bind (reads_pure place rest))
    · have is : (Written.object ((name, value) :: members)).choice? first others =
          (variant? first others name).bind fun _ => none := by
        rw [Option.bind_fun_none, Written.choice?]
        · rintro _ ⟨⟩
        · rintro _ ⟨⟩
          exact single ⟨rfl, rfl⟩
      rw [is]
      refine place.bind fun place _ => value_ahead.refuses ?_
      by_cases null : value = .null
      · subst null
        refine (reads_null spells _).refuses ?_
        obtain ⟨m, members, rfl⟩ := List.exists_cons_of_ne_nil fun empty => single ⟨rfl, empty⟩
        obtain ⟨_, _, _, _, _, _, _, _, _, _, comma⟩ := last
        exact (Behind.reads_peekToken comma rfl).refuses (refuses_refuse _ _)
      · exact (refuses_null null spells _).bind _
  | .null | .bool _ | .number _ _ _ | .array _ =>
    obtain ⟨b, part, -, tells, looks⟩ := spelled.exists_peekValue
    refine (looks rest).refuses ?_
    split
    · obtain ⟨_, is⟩ := tells.text rfl
      cases is
    · obtain ⟨_, is⟩ := tells.object rfl
      cases is
    · exact refuses_refuseNext _ _

end Choices

/-! ### Lists and records -/

section Containers

variable {t : Written} {bytes : List UInt8}

lemma means_list {item : Shape} {levels : Nat} (deep : 2 ≤ levels)
    (means : ∀ t, Means (item.read (levels - 1)) t (item.meaning? t)) (t : Written) :
    Means ((Shape.list item).read levels) t ((Shape.list item).meaning? t) := by
  intro bytes rest spelled _
  match t with
  | .array items =>
    obtain ⟨inner, spells, behind⟩ := spelled
    refine (behind.reads_peekValue rfl).settles ((reads_enter (by omega) _ _).settles ?_)
    rw [Shape.meaning?, ← Option.bind_fun_some (items.mapM _)]
    exact (settles_items means spells rest).bind fun all _ =>
      (reads_closeList rest).settles (reads_pure all rest)
  | .null | .bool _ | .number _ _ _ | .text _ | .object _ =>
    obtain ⟨b, part, -, tells, looks⟩ := spelled.exists_peekValue
    have other : ¬b = 0x5B := by
      intro bracket
      obtain ⟨_, is⟩ := tells.array bracket
      cases is
    refine (looks rest).refuses ?_
    rw [if_neg other]
    exact refuses_refuseKind _ _

/-- A member is passed over if its name is not that of a field. -/
lemma settles_readMember_nil {name : String} {value : Written} {one valued after : List UInt8} {levels : Nat}
    (spelled : value.Spelled one) (behind : Behind (0x3A :: (one ++ after)) valued)
    (delimited : Delimited after) :
    Reads (Fields.nil.readMember levels name ()) valued () after := by
  exact behind.reads_colon_at.bind ((Written.reads_skippedValue spelled delimited).bind (reads_pure () after))

/-- What is made of the first items of a list by the fields of a record; the others are left. -/
def MeansItems {α : Type} (read : Nat → Reading α) (meaning : List Written → Option α) (count : Nat) : Prop :=
  ∀ (index : Nat) {items : List Written} {bytes : List UInt8},
    SpelledItems (decide (index = 0)) items bytes → ∀ rest, ∃ first left,
      SpelledItems first (items.drop count) left ∧
        Settles (read index) (bytes ++ rest) (meaning items) (left ++ rest)

lemma means_record {name : String} {fields : Fields} {levels : Nat} (deep : 2 ≤ levels)
    (distinct : fields.names.Nodup)
    (means : MeansMember (fields.readMember (levels - 1)) (fields.put? fieldMeaning?))
    (lists : ∀ expected, MeansItems (fields.readItems (levels - 1) expected) fields.listed? fields.length)
    (t : Written) :
    Means ((Shape.record name fields).read levels) t ((Shape.record name fields).meaning? t) := by
  intro bytes rest spelled _
  match t with
  | .array items =>
    obtain ⟨inner, spells, behind⟩ := spelled
    obtain ⟨first, left, others, settles⟩ := lists (describeListed name fields.length) 0 spells rest
    refine (behind.reads_peekValue rfl).settles ((reads_enter (by omega) _ _).settles ?_)
    have is : (Shape.record name fields).meaning? (.array items) = (fields.listed? items).bind fun slots =>
        if items.length ≤ fields.length then some slots else none := by
      rw [Shape.meaning?]
      split_ifs with short
      · exact (Option.bind_fun_some _).symm
      · exact (Option.bind_fun_none _).symm
    rw [is]
    refine settles.bind fun slots _ => ?_
    split_ifs with short
    · rw [List.drop_eq_nil_of_le short] at others
      exact (others.reads_closeList rest).settles (reads_pure slots rest)
    · obtain ⟨item, items', more⟩ := List.exists_cons_of_ne_nil fun none =>
        short (List.drop_eq_nil_iff.mp none)
      rw [more] at others
      exact (others.refuses_closeList rest).bind _
  | .object members =>
    obtain ⟨inner, spells, behind⟩ := spelled
    refine (behind.reads_peekValue rfl).settles ((reads_enter (by omega) _ _).settles ?_)
    rw [Shape.meaning?, Fields.gathered?_eq_gather?, ← Fields.foldlM_put? distinct]
    refine (settles_members means spells fields.draft rest).bind fun draft _ => ?_
    cases fields.complete draft with
    | ok slots => exact (reads_closeObject rest).settles (reads_pure slots rest)
    | error field => exact refuses_refuseObject _ _
  | .null | .bool _ | .number _ _ _ | .text _ =>
    obtain ⟨b, part, -, tells, looks⟩ := spelled.exists_peekValue
    refine (looks rest).refuses ?_
    split
    · obtain ⟨_, is⟩ := tells.array rfl
      cases is
    · obtain ⟨_, is⟩ := tells.object rfl
      cases is
    · exact refuses_refuseKind _ _

end Containers

mutual

/-- A document is read by a sound shape for what it means to it. -/
lemma Shape.means (s : Shape) {levels : Nat} (sound : s.isSound = true) (deep : s.depth + 2 ≤ levels)
    (t : Written) : Means (s.read levels) t (s.meaning? t) := by
  match s with
  | .text => exact means_text "a string" t
  | .bool => exact means_flag t
  | .int32 => exact means_wholeNumber int32Low int32High "i32" t
  | .word64 =>
    exact fun bytes rest spelled delimited =>
      (means_wholeNumber 0 word64High "u64" t spelled delimited).map Int.toNat
  | .choice first others => exact means_choice (by omega) t
  | .list item =>
    unfold Shape.depth at deep
    exact means_list (by omega) (item.means sound (by omega)) t
  | .record name fields =>
    unfold Shape.depth at deep
    exact means_record (by omega) (fields.names_nodup sound) (fields.means sound (by omega))
      (fields.meansItems sound (by omega)) t

/-- A member is taken up by the fields of a sound record. -/
lemma Fields.means (f : Fields) {levels : Nat} (sound : f.isSound = true) (deep : f.depth + 2 ≤ levels) :
    MeansMember (f.readMember levels) (f.put? fieldMeaning?) := by
  intro name value draft one valued after spelled behind delimited
  match f, draft with
  | .nil, () => exact settles_readMember_nil spelled behind delimited
  | .cons field p s rest, (taken, others) =>
    obtain ⟨-, sound, sound'⟩ := Fields.isSound_cons.mp sound
    unfold Fields.depth at deep
    rw [Fields.readMember, Fields.put?]
    split
    · split
      · exact refuses_refuseObject _ _
      · have reads (t : Written) : Means (s.read levels) t (s.meaning? t) := s.means sound (by omega) t
        exact behind.reads_colon_at.settles ((means_slot reads value p spelled delimited).map _)
    · exact (rest.means sound' (by omega) spelled behind delimited).map (taken, ·)

/-- The fields of a sound record take their values from the items of a list. -/
lemma Fields.meansItems (f : Fields) {levels : Nat} (sound : f.isSound = true) (deep : f.depth + 2 ≤ levels)
    (expected : String) : MeansItems (f.readItems levels expected) f.listed? f.length := by
  intro index items bytes spelled rest
  match f with
  | .nil => exact ⟨_, bytes, spelled, reads_pure () _⟩
  | .cons field p s later =>
    obtain ⟨-, sound, sound'⟩ := Fields.isSound_cons.mp sound
    unfold Fields.depth at deep
    have deep' : later.depth + 2 ≤ levels := by omega
    match items with
    | [] =>
      have last : SpelledItems (decide (index + 1 = 0)) [] [0x5D] := Behind.self _
      obtain ⟨first, left, spelled', settles⟩ := later.meansItems sound' deep' expected (index + 1) last rest
      rw [List.drop_nil] at spelled' ⊢
      refine ⟨first, left, spelled', (spelled.reads_hasItem_nil rest).settles ?_⟩
      rw [Fields.listed?]
      cases p.unlisted? s.initial with
      | none => exact refuses_refuseList _ _
      | some v => exact settles.map (v, ·)
    | item :: items =>
      obtain ⟨one, others, spells, further, goes⟩ := spelled.reads_hasItem_cons
      obtain ⟨first, left, spelled', settles⟩ :=
        later.meansItems sound' deep' expected (index + 1) further rest
      refine ⟨first, left, spelled', (goes rest).settles ?_⟩
      exact (means_slot (s.means sound (by omega)) item p spells (further.delimited rest)).bind fun v _ =>
        settles.map (v, ·)

end

/-- A text is read by a sound shape for what its document means to the shape, and refused if this is
nothing. -/
theorem Shape.toOption_parse {s : Shape} (sound : s.isSound = true) (deep : s.depth + 2 ≤ maxLevels)
    {t : Written} {bytes : List UInt8} (writes : t.Writes bytes) :
    (s.parse bytes).toOption = s.meaning? t :=
  (s.means sound deep t).toOption_whole writes

end WorkspaceSchema.Json
