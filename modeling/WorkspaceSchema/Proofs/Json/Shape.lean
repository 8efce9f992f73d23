import WorkspaceSchema.Json.Shape.Document
import WorkspaceSchema.Json.Shape.Reader
import WorkspaceSchema.Proofs.Json.Container

/-!
# Reading what was printed: shapes

A value of a shape is printed as a document and read straight from the text.  Both go by the shape, and
so does the proof that they fit together (`Shape.parse_print`), one case to a kind of shape.

Three things may stand in the way.  A number may be out of range (`Shape.Fits`).  Two fields of a record
may share a name, or two names of a choice be the same (`Shape.isSound`).  And a shape may be nested too
deeply for a reader (`Shape.depth`).

For a record, what was read is a draft.  A field without a value is not printed, and stays open in the
draft; filling in the drafts of all fields gives the values again (`Fields.complete_filled`).
-/

namespace WorkspaceSchema.Json

open Reading

/-! ### Shapes that can be read back -/

/-- The names of the fields of a record. -/
def Fields.names : Fields → List String
  | .nil => []
  | .cons name _ _ rest => name :: rest.names

mutual

/-- Whether nothing in a shape has one name twice. -/
def Shape.isSound : Shape → Bool
  | .text | .bool | .int32 | .word64 => true
  | .choice first others => decide (variants first others).Nodup
  | .list item => item.isSound
  | .record _ fields => fields.isSound

/-- Whether the fields of a record differ by name, and nothing in them has one name twice. -/
def Fields.isSound : Fields → Bool
  | .nil => true
  | .cons name _ s rest => !rest.names.contains name && s.isSound && rest.isSound

end

mutual

/-- How deep the lists and records of a shape are nested. -/
def Shape.depth : Shape → Nat
  | .text | .bool | .int32 | .word64 | .choice _ _ => 0
  | .list item => item.depth + 1
  | .record _ fields => fields.depth + 1

/-- How deep the lists and records in the fields of a record are nested. -/
def Fields.depth : Fields → Nat
  | .nil => 0
  | .cons _ _ s rest => max s.depth rest.depth

end

/-- Whether what is known of a field has a property, if anything is known. -/
def Presence.Holds {α : Type} (P : α → Prop) : (p : Presence) → p.Slot α → Prop
  | .required, v | .defaulted, v => P v
  | .optional, v | .omittable, v => ∀ a ∈ (v : Option α), P a

mutual

/-- Whether the numbers in a value are in the range of their shape. -/
def Shape.Fits : (s : Shape) → s.Val → Prop
  | .text, _ | .bool, _ | .choice _ _, _ => True
  | .int32, i => int32Low ≤ (i : Int) ∧ (i : Int) ≤ int32High
  | .word64, n => ((n : Nat) : Int) ≤ word64High
  | .list item, vs => ∀ v ∈ (vs : List item.Val), item.Fits v
  | .record _ fields, slots => fields.Fit slots

/-- Whether the numbers in the values of the fields are in the range of their shape. -/
def Fields.Fit : (f : Fields) → f.Slots → Prop
  | .nil, _ => True
  | .cons _ p s rest, (v, others) => p.Holds (s.Fits ·) v ∧ rest.Fit others

end

/-! ### Single values -/

section

variable {b : UInt8} {rest : List UInt8}

lemma reads_peekValue (visible : Cursor.isBlank b = false) (rest : List UInt8) :
    Reads peekValue (b :: rest) b (b :: rest) :=
  (reads_peekToken visible rest).bind (reads_pure b _)

lemma reads_text (expected s : String) (rest : List UInt8) :
    Reads (Reading.text expected) (bytes (.text s) ++ rest) s rest := by
  rw [bytes_text, List.cons_append, List.append_assoc]
  exact (reads_peekValue rfl _).bind ((reads_skip_one _ _).bind (reads_textBody s rest))

lemma reads_flag (value : Bool) (rest : List UInt8) :
    Reads flag (bytes (.bool value) ++ rest) value rest := by
  cases value with
  | false =>
    exact (reads_peekValue rfl _).bind ((reads_skip_one 0x66 _).bind
      ((reads_keyword [0x61, 0x6C, 0x73, 0x65] rest).bind (reads_pure false rest)))
  | true =>
    exact (reads_peekValue rfl _).bind ((reads_skip_one 0x74 _).bind
      ((reads_keyword [0x72, 0x75, 0x65] rest).bind (reads_pure true rest)))

lemma reads_wholeNumber {low high i : Int} (expected : String) (inside : low ≤ i ∧ i ≤ high)
    (fits : -(negativeLimit : Int) ≤ i ∧ i < significandLimit) (delimited : Delimited rest) :
    Reads (Reading.wholeNumber low high expected) (bytes (.number (.integer i)) ++ rest) i rest := by
  have accepted : (low ≤ i && i ≤ high : Bool) = true := by
    rw [Bool.and_eq_true, decide_eq_true_eq, decide_eq_true_eq]
    exact inside
  have final : Reads (if low ≤ i && i ≤ high then return i
      else refuse (.wrongValue (.number (.integer i)) expected) : Reading Int) rest i rest := by
    rw [if_pos accepted]
    exact reads_pure i rest
  have limits : negativeLimit < significandLimit := by decide
  rw [bytes_integer]
  unfold Reading.wholeNumber
  split
  case isTrue negative =>
    have number := reads_number true (n := i.natAbs) (by omega)
      (fun _ => ⟨by omega, by omega⟩) delimited
    rw [if_pos rfl, show -(i.natAbs : Int) = i by omega] at number
    exact (reads_peekValue rfl _).bind ((reads_skip_one _ _).bind (number.bind final))
  case isFalse positive =>
    have number := reads_number false (n := i.natAbs) (by omega)
      (fun h => nomatch h) delimited
    rw [if_neg (by decide), show (i.natAbs : Int) = i by omega] at number
    obtain ⟨d, others, first, one, -⟩ := exists_digits i.natAbs
    obtain ⟨visible, sign, -⟩ := isDigit_first one
    rw [first, List.cons_append] at number ⊢
    refine (reads_peekValue visible _).bind ?_
    rw [if_neg sign, if_pos (isDigit_ofNat d one)]
    exact number.bind final

lemma readable_int32 {i : Int} (inside : int32Low ≤ i ∧ i ≤ int32High) :
    -(negativeLimit : Int) ≤ i ∧ i < significandLimit := by
  unfold int32Low int32High at inside
  unfold negativeLimit significandLimit
  omega

lemma readable_word64 {i : Int} (natural : 0 ≤ i) (inside : i ≤ word64High) :
    -(negativeLimit : Int) ≤ i ∧ i < significandLimit := by
  unfold word64High at inside
  unfold negativeLimit significandLimit
  omega

/-- The name at a place of a choice is found at that place. -/
lemma variant?_variantName {first : String} {others : List String}
    (distinct : (variants first others).Nodup) (place : Fin (others.length + 1)) :
    variant? first others (variantName first others place) = some place := by
  exact (List.finIdxOf?_eq_some_iff (l := variants first others)).mpr ⟨rfl, fun earlier before =>
    List.pairwise_iff_getElem.mp distinct earlier.val place.val earlier.isLt place.isLt before⟩

lemma reads_choice {first : String} {others : List String} (distinct : (variants first others).Nodup)
    (levels : Nat) (place : Fin (others.length + 1)) (rest : List UInt8) :
    Reads (Reading.choice levels first others) (bytes (.text (variantName first others place)) ++ rest)
      place rest := by
  have name := reads_text "variant identifier" (variantName first others place) rest
  rw [bytes_text, List.cons_append] at name ⊢
  refine (reads_peekValue rfl _).bind (name.bind ?_)
  rw [variant?_variantName distinct]
  exact reads_pure place rest

end

/-! ### What a value begins with -/

/-- What is printed for a value begins with a byte that is no blank, ends no list, and does not begin
the word for a missing value. -/
lemma exists_bytes_toJson (s : Shape) (v : s.Val) :
    ∃ b tail, bytes (s.toJson v) = b :: tail ∧ Cursor.isBlank b = false ∧ b ≠ 0x5D ∧ b ≠ 0x6E := by
  have number (i : Int) : ∃ b tail, bytes (.number (.integer i)) = b :: tail ∧
      Cursor.isBlank b = false ∧ b ≠ 0x5D ∧ b ≠ 0x6E := by
    rw [bytes_integer]
    split
    · exact ⟨_, _, rfl, by decide⟩
    · obtain ⟨d, others, first, one, -⟩ := exists_digits i.natAbs
      obtain ⟨visible, -, other⟩ := isDigit_first one
      exact ⟨_, _, first, visible, other⟩
  have text (t : String) : ∃ b tail, bytes (.text t) = b :: tail ∧
      Cursor.isBlank b = false ∧ b ≠ 0x5D ∧ b ≠ 0x6E := by
    rw [bytes_text]
    exact ⟨_, _, rfl, by decide⟩
  cases s with
  | text => exact text v
  | bool => cases v <;> exact ⟨_, _, rfl, by decide⟩
  | int32 => exact number v
  | word64 => exact number _
  | choice first others => exact text _
  | list item => cases v <;> exact ⟨_, _, rfl, by decide⟩
  | record name fields =>
    rw [Shape.toJson]
    cases fields.toMembers v <;> exact ⟨_, _, rfl, by decide⟩

lemma opens_toJson (s : Shape) (v : s.Val) : Opens (bytes (s.toJson v)) := by
  obtain ⟨b, tail, first, visible, other, -⟩ := exists_bytes_toJson s v
  exact ⟨b, tail, first, visible, other⟩

/-! ### Lists and records -/

lemma reads_list {item : Shape} {levels : Nat} (deep : 2 ≤ levels) {vs : List item.Val}
    (each : ∀ v ∈ vs, ReadsBack (item.read (levels - 1)) (item.toJson v) v) (rest : List UInt8) :
    Reads ((Shape.list item).read levels) (bytes ((Shape.list item).toJson vs) ++ rest) vs rest := by
  have one_by_one : List.Forall₂ (ReadsBack (item.read (levels - 1))) (vs.map (item.toJson ·)) vs := by
    rw [List.forall₂_map_left_iff, List.forall₂_same]
    exact each
  obtain ⟨inner, ahead, reads⟩ := reads_items one_by_one
  rw [Shape.toJson, ahead, Shape.read]
  exact (reads_peekValue rfl _).bind ((reads_enter (by omega) _ _).bind
    ((reads rest).bind ((reads_closeList rest).bind (reads_pure vs rest))))

/-- What is known of a field once its value has been read, or left out. -/
def Presence.written {α : Type} : (p : Presence) → p.Slot α → Option (p.Slot α)
  | .required, v | .defaulted, v => some v
  | .optional, v | .omittable, v => (v : Option α).map some

namespace Fields

/-- The draft of a record that was read back. -/
def filled : (f : Fields) → f.Slots → f.Draft
  | .nil, _ => ()
  | .cons _ p _ rest, (v, others) => (p.written v, rest.filled others)

/-- The fields that are left out are the ones that may be, and are taken to be as they were. -/
lemma complete_filled (f : Fields) (slots : f.Slots) : f.complete (f.filled slots) = .ok slots := by
  match f, slots with
  | .nil, () => rfl
  | .cons name p s rest, (v, others) =>
    have later : (rest.complete (rest.filled others)).map (v, ·) = .ok (v, others) := by
      rw [complete_filled rest others]
      rfl
    cases p with
    | required | defaulted => exact later
    | optional | omittable => cases v <;> exact later

/-- Nothing is printed under a name that is not that of a field. -/
lemma mem_names_of_mem_toMembers {f : Fields} {slots : f.Slots} {m : String × Json}
    (member : m ∈ f.toMembers slots) : m.1 ∈ f.names := by
  match f, slots with
  | .nil, () => cases member
  | .cons name p s rest, (v, others) =>
    rw [toMembers, List.mem_append] at member
    rw [names, List.mem_cons]
    refine member.imp (fun here => ?_) mem_names_of_mem_toMembers
    cases p with
    | required | defaulted => exact congrArg Prod.fst (List.mem_singleton.mp here)
    | optional | omittable =>
      cases v with
      | none => cases here
      | some v => exact congrArg Prod.fst (List.mem_singleton.mp here)

/-- Members that belong to later fields leave the first one open, or as it is. -/
lemma takes_later {name : String} {p : Presence} {s : Shape} {rest : Fields} {levels : Nat}
    {value : Option (p.Slot s.Val)} {ms : List (String × Json)} {d d' : rest.Draft}
    (takes : Takes (rest.readMember levels) ms d d') (other : ∀ m ∈ ms, m.1 ≠ name) :
    Takes ((Fields.cons name p s rest).readMember levels) ms (value, d) (value, d') := by
  induction takes with
  | nil d => exact .nil _
  | @cons name' j ms d d' d'' one later ih =>
    refine .cons (fun delimited => ?_) (ih fun m member => other m (List.mem_cons_of_mem _ member))
    rw [readMember, if_neg (other _ (List.mem_cons_self ..))]
    exact (one delimited).bind (reads_pure _ _)

/-- The value of a field is read back, if there is one. -/
lemma takes_slot {name : String} {p : Presence} {s : Shape} {rest : Fields} {levels : Nat} {v : p.Slot s.Val}
    (reads : p.Holds (fun a => ReadsBack (s.read levels) (s.toJson a) a) v) (d : rest.Draft) :
    Takes ((Fields.cons name p s rest).readMember levels) (slotMember name (s.toJson ·) p v) (none, d)
      (p.written v, d) := by
  -- A member of this name is read as the slot is, with nothing held under the name before.
  have one {r : Reading (p.Slot s.Val)} {j : Json} {v : p.Slot s.Val} (is : slot (s.read levels) p = r)
      (back : ∀ {rest'}, Delimited rest' → Reads r (bytes j ++ rest') v rest') :
      Takes ((Fields.cons name p s rest).readMember levels) [(name, j)] (none, d) (some v, d) := by
    refine .cons (fun delimited => ?_) (.nil _)
    rw [readMember, if_pos rfl]
    refine (reads_colon _).bind ?_
    rw [is]
    exact (back delimited).bind (reads_pure _ _)
  have present (v : s.Val) (back : ReadsBack (s.read levels) (s.toJson v) v) {rest' : List UInt8}
      (delimited : Delimited rest') :
      Reads (nullable (s.read levels)) (bytes (s.toJson v) ++ rest') (some v) rest' := by
    obtain ⟨b, tail, first, visible, -, other⟩ := exists_bytes_toJson s v
    have reads := back.reads delimited
    rw [first, List.cons_append] at reads ⊢
    refine (reads_peekToken visible _).bind ?_
    rw [if_neg (by simpa using other)]
    exact reads.bind (reads_pure _ _)
  cases p with
  | required | defaulted => exact one rfl fun delimited => reads.reads delimited
  | optional | omittable =>
    cases v with
    | none => exact .nil _
    | some v => exact one rfl fun delimited => present v (reads v rfl) delimited

end Fields

lemma reads_record {name : String} {fields : Fields} {levels : Nat} (deep : 2 ≤ levels)
    {slots : fields.Slots} (takes : Takes (fields.readMember (levels - 1)) (fields.toMembers slots)
      fields.draft (fields.filled slots)) (rest : List UInt8) :
    Reads ((Shape.record name fields).read levels)
      (bytes ((Shape.record name fields).toJson slots) ++ rest) slots rest := by
  obtain ⟨inner, ahead, reads⟩ := reads_members takes
  rw [Shape.toJson, ahead, Shape.read]
  refine (reads_peekValue rfl _).bind ((reads_enter (by omega) _ _).bind ((reads rest).bind ?_))
  rw [fields.complete_filled]
  exact (reads_closeObject rest).bind (reads_pure slots rest)

/-! ### All shapes -/

lemma Presence.Holds.imp {α : Type} {P Q : α → Prop} (implies : ∀ a, P a → Q a) {p : Presence}
    {v : p.Slot α} (holds : p.Holds P v) : p.Holds Q v := by
  cases p with
  | required | defaulted => exact implies v holds
  | optional | omittable => exact fun a member => implies a (holds a member)

mutual

/-- A value of a sound shape is read back from its text. -/
lemma Shape.readsBack (s : Shape) {levels : Nat} (sound : s.isSound = true) (deep : s.depth < levels)
    {v : s.Val} (fits : s.Fits v) : ReadsBack (s.read levels) (s.toJson v) v := by
  refine ⟨opens_toJson s v, @fun rest delimited => ?_⟩
  match s with
  | .text => exact reads_text "a string" v rest
  | .bool => exact reads_flag v rest
  | .int32 => exact reads_wholeNumber "i32" fits (readable_int32 fits) delimited
  | .word64 =>
    have natural : 0 ≤ Int.ofNat v := Int.natCast_nonneg v
    exact (reads_wholeNumber "u64" ⟨natural, fits⟩ (readable_word64 natural fits) delimited).bind
      (reads_pure v rest)
  | .choice first others =>
    exact reads_choice (of_decide_eq_true sound) levels v rest
  | .list item =>
    unfold Shape.depth at deep
    exact reads_list (by omega) (fun v member => item.readsBack sound (by omega) (fits v member)) rest
  | .record name fields =>
    unfold Shape.depth at deep
    exact reads_record (by omega) (fields.takes sound (by omega) fits) rest

/-- The fields of a record are read back from its members. -/
lemma Fields.takes (f : Fields) {levels : Nat} (sound : f.isSound = true) (deep : f.depth < levels)
    {slots : f.Slots} (fit : f.Fit slots) :
    Takes (f.readMember levels) (f.toMembers slots) f.draft (f.filled slots) := by
  match f, slots with
  | .nil, () => exact .nil ()
  | .cons name p s rest, (v, others) =>
    unfold Fields.isSound at sound
    rw [Bool.and_eq_true, Bool.and_eq_true, Bool.not_eq_true', List.contains_eq_mem,
      decide_eq_false_iff_not] at sound
    obtain ⟨⟨fresh, sound⟩, sound'⟩ := sound
    unfold Fields.depth at deep
    have deep' : s.depth < levels := by omega
    have deep'' : rest.depth < levels := by omega
    have first : p.Holds (fun a => ReadsBack (s.read levels) (s.toJson a) a) v :=
      Presence.Holds.imp (fun a fits => s.readsBack sound deep' fits) fit.1
    have later := rest.takes sound' deep'' fit.2
    refine (Fields.takes_slot first rest.draft).append
      (Fields.takes_later later fun m member same => ?_)
    exact fresh (same ▸ Fields.mem_names_of_mem_toMembers member)

end

/-- A value is read back from what is printed for it. -/
theorem Shape.parse_print {s : Shape} (sound : s.isSound = true) (deep : s.depth < maxLevels)
    {v : s.Val} (fits : s.Fits v) : s.parse (Utf8.ofString (s.toJson v).print) = .ok v := by
  have reads := (s.readsBack sound deep fits).reads (.inl rfl)
  rw [List.append_nil] at reads
  rw [ofString_print]
  exact whole_eq_ok reads

end WorkspaceSchema.Json
