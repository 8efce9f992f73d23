import WorkspaceSchema.Proofs.Json.Outcome
import WorkspaceSchema.Proofs.Json.Parser
import WorkspaceSchema.Proofs.Json.Record

/-!
# Documents that are read from texts

`Written.document?` is the document that some text is read as, if it is read at all, in terms of what is
written: nothing depends on blanks, or on how characters are spelled (`toOption_parse`).  Only numbers are
left to their reader, for which it is shown that it decides by the bytes of the number alone
(`isSettled_number`).

Of an object the last member of each name is kept (`member?_of_document?`), so neither the order of members
of different names nor members of other names matter to what is looked up.  In whatever way an object was
read, its members are in order and have different names (`pairwise_of_parse`).
-/

namespace WorkspaceSchema.Json

open Reading

/-! ### Numbers -/

section Numbers

variable {α β : Type} {r : Reading α} {ahead between : List UInt8}

/-- Whether a reader finds something is settled by some bytes, if they end where a number may end. -/
def IsSettled (r : Reading α) (ahead : List UInt8) : Prop :=
  ∃ o, ∀ ⦃rest⦄, Delimited rest → Settles r (ahead ++ rest) o rest

lemma isSettled_pure (a : α) : IsSettled (pure a) [] :=
  ⟨some a, fun rest _ => reads_pure a rest⟩

lemma isSettled_of_refuses (refuses : ∀ ahead, Refuses r ahead) (ahead : List UInt8) : IsSettled r ahead :=
  ⟨none, fun _ _ => refuses _⟩

lemma IsSettled.map (settled : IsSettled r ahead) (f : α → β) : IsSettled (do return f (← r)) ahead := by
  obtain ⟨o, settles⟩ := settled
  exact ⟨o.map f, fun _ delimited => (settles delimited).map f⟩

lemma isSettled_skip_append (passed : List UInt8) {f : Unit → Reading β} (later : IsSettled (f ()) between) :
    IsSettled (skip passed.length >>= f) (passed ++ between) := by
  refine later.imp fun _ settles rest delimited => ?_
  rw [List.append_assoc]
  exact (reads_skip passed _).settles (settles delimited)

lemma isSettled_skip_one (b : UInt8) {f : Unit → Reading β} (later : IsSettled (f ()) between) :
    IsSettled (skip 1 >>= f) (b :: between) :=
  isSettled_skip_append [b] later

lemma isSettled_peek (b : UInt8) {f : Option UInt8 → Reading β}
    (later : IsSettled (f (some b)) (b :: between)) : IsSettled (peek >>= f) (b :: between) :=
  later.imp fun _ settles _ delimited => (reads_peek _).settles (settles delimited)

/-- All the digits ahead are found, if something else follows. -/
lemma isSettled_digitsAhead {ds : List UInt8} (digits : ∀ d ∈ ds, isDigit d = true)
    (stops : ∀ ⦃rest⦄, Delimited rest → (between ++ rest).takeWhile isDigit = []) {f : List UInt8 → Reading β}
    (later : IsSettled (f ds) (ds ++ between)) : IsSettled (digitsAhead >>= f) (ds ++ between) := by
  refine later.imp fun _ settles rest delimited => ?_
  have settles := settles delimited
  rw [List.append_assoc] at settles ⊢
  exact (reads_digitsAhead digits (stops delimited)).settles settles

lemma isSettled_real (negative : Bool) (significand : Nat) (exponent : Int) :
    IsSettled (real negative significand exponent) [] := by
  unfold real
  split
  · exact isSettled_pure _
  · exact isSettled_of_refuses (refuses_refuse _) _

lemma refuses_refuseAfter (n : Nat) (reason : Reason) (ahead : List UInt8) :
    Refuses (refuseAfter n reason : Reading α) ahead :=
  refuses_bind _ (fun _ => refuses_refuse _) ahead

lemma isSettled_exponentPart (negative : Bool) (significand : Nat) (exponent : Int) {bytes : List UInt8}
    (is : IsExponent bytes) : IsSettled (exponentPart negative significand exponent) bytes := by
  obtain ⟨letter, sign, ds, -, isSign, ⟨filled, digits⟩, rfl⟩ := is
  obtain ⟨d, ds, rfl⟩ := List.exists_cons_of_ne_nil filled
  have digit := digits d List.mem_cons_self
  have stops ⦃rest : List UInt8⦄ (delimited : Delimited rest) : ([] ++ rest).takeWhile isDigit = [] :=
    delimited.takeWhile_isDigit
  refine isSettled_skip_one letter ?_
  rcases isSign with rfl | rfl | rfl
  case' inl =>
    refine isSettled_peek d ?_
    dsimp only
    split
    case h_1 plus =>
      obtain rfl := Option.some.inj plus
      cases digit
    case h_2 minus =>
      obtain rfl := Option.some.inj minus
      cases digit
  case' inr.inl => refine isSettled_peek 0x2B (isSettled_skip_one _ ?_)
  case' inr.inr => refine isSettled_peek 0x2D (isSettled_skip_one _ ?_)
  all_goals
    rw [pure_bind]
    refine isSettled_peek d ?_
    dsimp only
    rw [if_pos digit, ← List.append_nil (d :: ds)]
    refine isSettled_digitsAhead digits stops ?_
    obtain ⟨e, beyond⟩ := exponentFrom 0 0 (d :: ds)
    cases beyond with
    | none => exact isSettled_skip_append _ (isSettled_real _ _ _)
    | some taken =>
      dsimp only
      split
      · exact isSettled_of_refuses (refuses_refuseAfter _ _) _
      · exact isSettled_skip_append _ (isSettled_pure _)

lemma isSettled_exponentPart? (negative : Bool) (significand : Nat) (exponent : Int) {bytes : List UInt8}
    (is : bytes = [] ∨ IsExponent bytes) : IsSettled (exponentPart? negative significand exponent) bytes := by
  rcases is with rfl | is
  · refine (isSettled_real negative significand exponent).imp fun o settles rest delimited =>
      (reads_peek _).settles ?_
    have settles := settles delimited
    rcases delimited with rfl | ⟨b, tail, rfl, rfl | rfl | rfl | rfl | rfl | rfl | rfl⟩ <;> exact settles
  · have settled := isSettled_exponentPart negative significand exponent is
    obtain ⟨letter, sign, ds, rfl | rfl, -, -, rfl⟩ := is
    · exact isSettled_peek 0x65 settled
    · exact isSettled_peek 0x45 settled

lemma isSettled_fractionPart (negative : Bool) (significand : Nat) (exponent : Int) {ds bytes : List UInt8}
    (filled : IsDigits ds) (is : bytes = [] ∨ IsExponent bytes) :
    IsSettled (fractionPart negative significand exponent) (0x2E :: (ds ++ bytes)) := by
  have stops ⦃rest : List UInt8⦄ (delimited : Delimited rest) : (bytes ++ rest).takeWhile isDigit = [] :=
    IsTail.takeWhile_isDigit ⟨[], bytes, .inl rfl, is, rfl⟩ delimited
  refine isSettled_skip_one 0x2E (isSettled_digitsAhead filled.2 stops (isSettled_skip_append ds ?_))
  rw [if_neg filled.isEmpty_eq_false]
  exact isSettled_exponentPart? _ _ _ is

lemma isSettled_numberAtEnd (negative : Bool) (significand : Nat) (exponent : Int) :
    IsSettled (numberAtEnd negative significand exponent) [] := by
  unfold numberAtEnd
  split_ifs
  · exact (isSettled_real _ _ _).map Number.real
  all_goals exact isSettled_pure _

/-- What follows the digits of a number settles what is made of it. -/
lemma exists_settles_numberAfter (negative : Bool) (significand : Nat) (exponent : Int) {tail : List UInt8}
    (isTail : IsTail tail) : ∃ o, ∀ ⦃rest⦄, Delimited rest →
      Settles (numberAfter negative significand exponent (tail ++ rest).head?) (tail ++ rest) o rest := by
  obtain ⟨fraction, power, fractional, exponential, rfl⟩ := isTail
  rcases fractional with rfl | ⟨ds, filled, rfl⟩
  · rcases exponential with rfl | exponential
    · refine (isSettled_numberAtEnd negative significand exponent).imp fun o settles rest delimited => ?_
      rw [List.append_nil, List.nil_append, delimited.numberAfter_eq]
      exact settles delimited
    · have settled := (isSettled_exponentPart negative significand exponent exponential).map Number.real
      obtain ⟨letter, sign, ds, rfl | rfl, -, -, rfl⟩ := exponential
      · exact settled
      · exact settled
  · exact (isSettled_fractionPart negative significand exponent filled exponential).map Number.real

/-- What is made of a number is settled by its bytes. -/
lemma isSettled_number (negative : Bool) (whole : Nat) {tail : List UInt8} (isTail : IsTail tail) :
    IsSettled (Reading.number negative) (digits whole ++ tail) := by
  obtain ⟨o, settles⟩ := exists_settles_numberAfter negative (appendDigits 0 (digits whole)).1
    ((digits whole).length - (appendDigits 0 (digits whole)).2) isTail
  refine ⟨o, fun rest delimited => ?_⟩
  rw [List.append_assoc]
  exact (continues_number negative (isTail.takeWhile_isDigit delimited)).settles (settles delimited)

/-- The number that some digits and what follows them are read as. -/
def number? (negative : Bool) (whole : Nat) (tail : List UInt8) : Option Number :=
  ((Reading.number negative).run (Cursor.start (digits whole ++ tail))).toOption.map Prod.fst

/-- A number is read as it would be on its own. -/
lemma settles_number? (negative : Bool) (whole : Nat) {tail rest : List UInt8} (isTail : IsTail tail)
    (delimited : Delimited rest) :
    Settles (Reading.number negative) (digits whole ++ (tail ++ rest)) (number? negative whole tail)
      rest := by
  obtain ⟨o, settles⟩ := isSettled_number negative whole isTail
  have alone := settles (.inl rfl)
  rw [List.append_nil] at alone
  have is : number? negative whole tail = o := by
    unfold number?
    cases o with
    | some n =>
      obtain ⟨c, found, -⟩ := alone (Cursor.start _) rfl
      rw [found]
      rfl
    | none =>
      obtain ⟨e, failed⟩ := alone (Cursor.start _) rfl
      rw [failed]
      rfl
  rw [is, ← List.append_assoc]
  exact settles delimited

end Numbers

/-! ### Documents -/

/-- Puts a member among those that are there, if its value is read. -/
def put? (read : Written → Option Json) (m : String × Written) (members : List (String × Json)) :
    Option (List (String × Json)) :=
  (read m.2).map (insertMember m.1 · members)

/-- The document that is read, with containers nested less than `levels` deep. -/
def Written.document? : Nat → Written → Option Json
  | 0, _ => none
  | _ + 1, .null => some .null
  | _ + 1, .bool value => some (.bool value)
  | _ + 1, .number negative whole tail => (number? negative whole tail).map .number
  | _ + 1, .text value => some (.text value)
  | levels + 1, .array items =>
    if levels = 0 then none else (items.mapM (document? levels)).map .array
  | levels + 1, .object members =>
    if levels = 0 then none
    else (members.foldlM (fun read m => put? (document? levels) m read) []).map .object

lemma refuses_enter (b : UInt8) (rest : List UInt8) : Refuses (enter 0) (b :: rest) :=
  refuses_refuseNext _ _

/-- A document is read, however it is written. -/
lemma means_value (levels : Nat) (t : Written) : Means (value levels) t (t.document? levels) := by
  induction levels generalizing t with
  | zero => exact fun bytes rest _ _ => refuses_refuseNext _ _
  | succ levels ih =>
    intro bytes rest spelled delimited
    match t with
    | .null =>
      exact (Behind.reads_peekToken spelled rfl).bind ((reads_skip_one _ _).bind
        ((reads_keyword [0x75, 0x6C, 0x6C] rest).bind (reads_pure _ _)))
    | .bool true =>
      exact (Behind.reads_peekToken spelled rfl).bind ((reads_skip_one _ _).bind
        ((reads_keyword [0x72, 0x75, 0x65] rest).bind (reads_pure _ _)))
    | .bool false =>
      exact (Behind.reads_peekToken spelled rfl).bind ((reads_skip_one _ _).bind
        ((reads_keyword [0x61, 0x6C, 0x73, 0x65] rest).bind (reads_pure _ _)))
    | .number true whole tail =>
      obtain ⟨isTail, behind⟩ := spelled
      have number := (settles_number? true whole isTail delimited).map Json.number
      rw [← List.append_assoc] at number
      exact (behind.reads_peekToken rfl).settles ((reads_skip_one _ _).settles number)
    | .number false whole tail =>
      obtain ⟨isTail, behind⟩ := spelled
      have number := (settles_number? false whole isTail delimited).map Json.number
      obtain ⟨d, others, first, one, -⟩ := exists_digits whole
      obtain ⟨visible, -⟩ := isDigit_first one
      rw [← List.append_assoc] at number
      rw [first] at behind number
      refine (behind.reads_peekToken visible).settles ?_
      -- None of the digits is taken for the beginning of something else.
      interval_cases d <;> exact number
    | .text value =>
      obtain ⟨body, spells, behind⟩ := spelled
      have text := reads_textBody_spelled spells rest
      refine (behind.reads_peekToken rfl).bind ((reads_skip_one _ _).bind ?_)
      rw [List.append_assoc]
      exact text.bind (reads_pure _ _)
    | .array items =>
      obtain ⟨inner, spells, behind⟩ := spelled
      refine (behind.reads_peekToken rfl).settles ?_
      rw [Written.document?]
      split_ifs with none
      · subst none
        exact (refuses_enter _ _).bind _
      · rw [Option.map_eq_bind]
        exact (reads_enter none _ _).settles ((settles_items ih spells rest).bind fun all _ =>
          (reads_closeList rest).bind (reads_pure _ _))
    | .object members =>
      obtain ⟨inner, spells, behind⟩ := spelled
      refine (behind.reads_peekToken rfl).settles ?_
      rw [Written.document?]
      split_ifs with none
      · subst none
        exact (refuses_enter _ _).bind _
      · have member : MeansMember (fun name read => do
            colon
            let v ← value levels
            return insertMember name v read)
            fun name t read => put? (Written.document? levels) (name, t) read :=
          fun name t read one valued after spelled behind delimited =>
            (behind.reads_colon_at).settles ((ih t spelled delimited).map _)
        rw [Option.map_eq_bind]
        exact (reads_enter none _ _).settles ((settles_members member spells [] rest).bind fun all _ =>
          (reads_closeObject rest).bind (reads_pure _ _))

/-- A text is read as the document that is written in it. -/
theorem toOption_parse {t : Written} {bytes : List UInt8} (writes : t.Writes bytes) :
    (parse bytes).toOption = t.document? maxLevels :=
  (means_value maxLevels t).toOption_whole writes

/-! ### Objects that are printed -/

/-- Members that hold texts, as they are written. -/
def writtenTexts (ms : List (String × String)) : List (String × Written) :=
  ms.map fun m => (m.1, .text m.2)

/-- The same members in a document. -/
def texts (ms : List (String × String)) : List (String × Json) :=
  ms.map fun m => (m.1, .text m.2)

/-- What is printed for a member that holds a text. -/
lemma encode_member (name value : String) (later : List Char) :
    Utf8.encode (renderText name ++ ':' :: render (.text value) ++ later) =
      0x22 :: (Utf8.encode (name.toList.flatMap escapeChar) ++
        (0x22 :: (0x3A :: (bytes (.text value) ++ Utf8.encode later)))) := by
  rw [Utf8.encode_append, Utf8.encode_append, Utf8.encode_cons, encode_renderText]
  simp only [List.cons_append, List.append_assoc]
  rfl

lemma spelledMembers_writtenTexts : (ms : List (String × String)) →
    SpelledMembers false (writtenTexts ms) (Utf8.encode (renderMembers (texts ms)))
  | [] => .self _
  | (name, value) :: ms => by
    refine ⟨_, _, _, _, _, .escaped name.toList, ⟨_, .escaped value.toList, .self _⟩,
      spelledMembers_writtenTexts ms, .self _, .self _, ?_⟩
    have comma : Utf8.encode (renderMembers (texts ((name, value) :: ms))) =
        0x2C :: Utf8.encode (renderText name ++ ':' :: render (.text value) ++
          renderMembers (texts ms)) := rfl
    rw [comma, encode_member, bytes_text]
    exact .self _

/-- What is printed for an object of texts writes the object. -/
lemma writes_print_texts (ms : List (String × String)) :
    (Written.object (writtenTexts ms)).Writes (Utf8.ofString (object (texts ms)).print) := by
  refine ⟨_, [], ?_, List.forall_mem_nil _, (List.append_nil _).symm⟩
  rw [ofString_print]
  cases ms with
  | nil => exact ⟨[0x7D], .self _, .self _⟩
  | cons m ms =>
    obtain ⟨name, value⟩ := m
    refine ⟨_, ⟨_, _, _, _, _, .escaped name.toList, ⟨_, .escaped value.toList, .self _⟩,
      spelledMembers_writtenTexts ms, .self _, .self _, rfl⟩, ?_⟩
    have brace : bytes (object (texts ((name, value) :: ms))) =
        0x7B :: Utf8.encode (renderText name ++ ':' :: render (.text value) ++
          renderMembers (texts ms)) := rfl
    rw [brace, encode_member, bytes_text]
    exact .self _

lemma isReadable_texts (ms : List (String × String)) : isReadable maxLevels (.object (texts ms)) = true := by
  unfold texts
  rw [maxLevels, isReadable, List.all_map]
  exact List.all_eq_true.mpr fun _ _ => rfl

/-! ### What is looked up -/

/-- Of several members of one name the last is found, among those that are added and those that are
there. -/
lemma lookup_of_foldlM_put? {read : Written → Option Json} {ms : List (String × Written)}
    {passed all : List (String × Json)}
    (found : ms.foldlM (fun passed m => put? read m passed) passed = some all) (name : String) :
    all.lookup name = ((values name ms).getLast?.map read).getD (passed.lookup name) := by
  induction ms generalizing passed with
  | nil =>
    obtain rfl := Option.some.inj found
    rfl
  | cons m ms ih =>
    rw [List.foldlM_cons] at found
    obtain ⟨passed', taken, found⟩ := Option.bind_eq_some_iff.mp found
    obtain ⟨j, is, rfl⟩ := Option.map_eq_some_iff.mp taken
    rw [ih found, values_cons, lookup_insertMember]
    split_ifs with here there there
    · rw [List.getLast?_cons]
      cases (values name ms).getLast? with
      | none => exact is.symm
      | some t => rfl
    · exact absurd here.symm there
    · exact absurd there.symm here
    · rfl

/-- The last member of a name is the one that is kept. -/
lemma member?_of_document? {levels : Nat} {ms : List (String × Written)} {j : Json}
    (is : (Written.object ms).document? levels = some j) (name : String) :
    j.member? name = (values name ms).getLast?.bind (Written.document? (levels - 1)) := by
  cases levels with
  | zero => cases is
  | succ levels =>
    rw [Written.document?] at is
    split_ifs at is
    obtain ⟨all, found, rfl⟩ := Option.map_eq_some_iff.mp is
    refine (lookup_of_foldlM_put? found name).trans ?_
    cases (values name ms).getLast? <;> rfl

/-! ### Whatever is read -/

section Finds

variable {α β σ : Type} {P : α → Prop} {Q : β → Prop} {r : Reading α}

/-- Whatever a reader finds is of some kind. -/
def Finds (r : Reading α) (P : α → Prop) : Prop :=
  ∀ ⦃c c' : Cursor⦄ ⦃a : α⦄, r.run c = .ok (a, c') → P a

lemma finds_pure {a : α} (is : P a) : Finds (pure a) P := by
  intro c c' a' found
  cases found
  exact is

lemma finds_refuseNext (reason : Reason) : Finds (refuseNext reason) P :=
  fun _ _ _ found => nomatch found

lemma Finds.bind (first : Finds r P) {f : α → Reading β} (second : ∀ a, P a → Finds (f a) Q) :
    Finds (r >>= f) Q := by
  intro c c' b found
  rw [StateT.run_bind] at found
  cases one : r.run c with
  | error e => rw [one] at found; cases found
  | ok result =>
    rw [one] at found
    exact second result.1 (first one) found

lemma finds_bind {f : α → Reading β} (second : ∀ a, Finds (f a) Q) : Finds (r >>= f) Q :=
  Finds.bind (fun _ _ _ _ => trivial) fun a _ => second a

lemma Finds.of_whole (finds : Finds r P) {bytes : List UInt8} {a : α} (read : whole r bytes = .ok a) :
    P a := by
  have all : Finds (do let a ← r; finish; return a) P :=
    finds.bind fun a is => finds_bind fun _ => finds_pure is
  unfold whole at read
  cases found : StateT.run (do let a ← r; finish; return a) (Cursor.start bytes) with
  | error e => rw [found] at read; cases read
  | ok result =>
    rw [found] at read
    obtain rfl := Except.ok.inj read
    exact all found

/-- What every member keeps is true in the end. -/
lemma finds_membersFrom {P : σ → Prop} {member : String → σ → Reading σ}
    (keeps : ∀ name s, P s → Finds (member name s) P) (rounds : Nat) (first : Bool) {s : σ} (before : P s) :
    Finds (membersFrom member rounds first s) P := by
  induction rounds generalizing first s with
  | zero => exact finds_pure before
  | succ rounds ih =>
    refine finds_bind fun ahead => ?_
    split
    · exact finds_bind fun name => (keeps name s before).bind fun s' after => ih false after
    · exact finds_pure before

end Finds

/-- That the members of a document are in order, if it has any. -/
def IsOrdered (j : Json) : Prop :=
  ∀ members, j = .object members → members.Pairwise (·.1 < ·.1)

lemma isOrdered_of_ne {j : Json} (other : ∀ members, j ≠ .object members) : IsOrdered j :=
  fun members is => absurd is (other members)

/-- The members of an object that is read are in order. -/
lemma finds_value (levels : Nat) : Finds (value levels) IsOrdered := by
  cases levels with
  | zero => exact finds_refuseNext _
  | succ levels =>
    refine finds_bind fun b => ?_
    split
    case h_8 =>
      have ordered : Finds (Reading.members (fun name read => do
          colon
          let v ← value levels
          return insertMember name v read) []) (·.Pairwise (·.1 < ·.1)) := by
        refine finds_bind fun c => finds_membersFrom (fun name read before => ?_) _ true .nil
        exact finds_bind fun _ => finds_bind fun v => finds_pure (insertMember_pairwise before name v)
      refine finds_bind fun _ => ordered.bind fun all ordered => finds_bind fun _ => finds_pure ?_
      intro members is
      rwa [← object.inj is]
    case h_1 => exact finds_refuseNext _
    case h_2 | h_3 | h_4 | h_5 | h_6 =>
      exact finds_bind fun _ => finds_bind fun _ => finds_pure (isOrdered_of_ne (by simp))
    case h_7 =>
      exact finds_bind fun _ => finds_bind fun _ => finds_bind fun _ => finds_pure (isOrdered_of_ne (by simp))
    case h_9 =>
      split
      · exact finds_bind fun _ => finds_pure (isOrdered_of_ne (by simp))
      · exact finds_refuseNext _

/-- The members of an object are in order, whatever text it was read from. -/
lemma pairwise_of_parse {bytes : List UInt8} {members : List (String × Json)}
    (read : parse bytes = .ok (.object members)) : members.Pairwise (·.1 < ·.1) :=
  (finds_value maxLevels).of_whole read members rfl

end WorkspaceSchema.Json
