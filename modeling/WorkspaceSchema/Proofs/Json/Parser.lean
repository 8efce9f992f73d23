import Mathlib.Tactic.IntervalCases
import WorkspaceSchema.Json.Parser
import WorkspaceSchema.Proofs.Json.Container

/-!
# Reading what was printed: documents

A document is read back from its text (`parse_ofString_print`), up to the order of the members in its
objects: reading sorts them, and of several members with one name it keeps the last.  Doubles are left
out, and so are whole numbers that take more than 64 bits.  Members of different names come in the one order
that they have (`ofMembers_eq_of_perm`), so an object of texts whose names are in order is the very document
that is read back (`sorted_textMembers`).

The reader goes by the levels that are left to it, and so does the proof.
-/

namespace WorkspaceSchema.Json

open Reading

/-- Whether a document has no double and no whole number beyond 64 bits in it, and lists and objects
nested less than `levels` deep. -/
def isReadable : Nat → Json → Bool
  | 0, _ => false
  | _ + 1, .null | _ + 1, .bool _ | _ + 1, .text _ => true
  | _ + 1, .number (.integer i) => decide (-(negativeLimit : Int) ≤ i ∧ i < significandLimit)
  | _ + 1, .number (.real _) => false
  | levels + 1, .array items => levels ≠ 0 && items.all (isReadable levels)
  | levels + 1, .object members => levels ≠ 0 && members.all fun m => isReadable levels m.2

mutual

/-- A document with the members of every object in their order, and of several with one name the last. -/
def sorted : Json → Json
  | .array items => .array (sortedItems items)
  | .object members => .ofMembers (sortedMembers members)
  | .null => .null
  | .bool value => .bool value
  | .number value => .number value
  | .text value => .text value

/-- The same for the items of a list. -/
def sortedItems : List Json → List Json
  | [] => []
  | j :: js => j.sorted :: sortedItems js

/-- The same for what the members of an object hold. -/
def sortedMembers : List (String × Json) → List (String × Json)
  | [] => []
  | (name, j) :: ms => (name, j.sorted) :: sortedMembers ms

end

lemma reads_items_sorted {levels : Nat} {js : List Json}
    (each : ∀ j ∈ js, ReadsBack (value levels) j j.sorted) :
    List.Forall₂ (ReadsBack (value levels)) js (sortedItems js) := by
  induction js with
  | nil => exact .nil
  | cons j js ih =>
    exact .cons (each j (List.mem_cons_self ..)) (ih fun j' member => each j' (List.mem_cons_of_mem j member))

lemma takes_members {levels : Nat} {ms : List (String × Json)}
    (each : ∀ m ∈ ms, ReadsBack (value levels) m.2 m.2.sorted) (read : List (String × Json)) :
    Takes (fun name read => do
        colon
        let v ← value levels
        return insertMember name v read) ms read
      ((sortedMembers ms).foldl (fun sorted m => insertMember m.1 m.2 sorted) read) := by
  induction ms generalizing read with
  | nil => exact .nil read
  | cons m ms ih =>
    have one := each m (List.mem_cons_self ..)
    exact .cons (fun delimited => (reads_colon _).bind ((one.reads delimited).bind (reads_pure _ _)))
      (ih (fun m' member => each m' (List.mem_cons_of_mem m member)) _)

/-- A whole number is read back from its text. -/
lemma readsBack_integer {levels : Nat} {i : Int}
    (fits : -(negativeLimit : Int) ≤ i ∧ i < significandLimit) :
    ReadsBack (value (levels + 1)) (.number (.integer i)) (.number (.integer i)) := by
  have limits : negativeLimit < significandLimit := by decide
  by_cases negative : i < 0
  · have ahead : bytes (.number (.integer i)) = 0x2D :: digits i.natAbs := by
      rw [bytes_integer, if_pos negative]
    refine ⟨⟨_, _, ahead, by decide⟩, @fun rest delimited => ?_⟩
    have number := reads_number true (n := i.natAbs) (by omega) (fun _ => ⟨by omega, by omega⟩) delimited
    rw [if_pos rfl, show -(i.natAbs : Int) = i by omega] at number
    rw [ahead]
    exact (reads_peekToken rfl _).bind ((reads_skip_one _ _).bind (number.bind (reads_pure _ _)))
  · have ahead : bytes (.number (.integer i)) = digits i.natAbs := by
      rw [bytes_integer, if_neg negative]
    obtain ⟨d, others, first, one, -⟩ := exists_digits i.natAbs
    obtain ⟨visible, -, other, -⟩ := isDigit_first one
    refine ⟨⟨_, _, ahead.trans first, visible, other⟩, @fun rest delimited => ?_⟩
    have number := reads_number false (n := i.natAbs) (by omega) (fun h => nomatch h) delimited
    rw [if_neg (by decide), show (i.natAbs : Int) = i by omega] at number
    rw [ahead]
    rw [first, List.cons_append] at number ⊢
    refine (reads_peekToken visible _).bind ?_
    -- None of the digits is taken for the beginning of something else.
    interval_cases d <;> exact number.bind (reads_pure _ _)

/-- A document is read back from its text. -/
lemma readsBack_value {levels : Nat} {j : Json} (readable : isReadable levels j = true) :
    ReadsBack (value levels) j j.sorted := by
  induction levels generalizing j with
  | zero => cases readable
  | succ levels ih =>
    cases j with
    | null =>
      exact ⟨⟨_, _, rfl, by decide⟩, @fun rest _ => (reads_peekToken rfl _).bind
        ((reads_skip_one 0x6E _).bind ((reads_keyword [0x75, 0x6C, 0x6C] rest).bind (reads_pure _ _)))⟩
    | bool value =>
      cases value with
      | false =>
        exact ⟨⟨_, _, rfl, by decide⟩, @fun rest _ => (reads_peekToken rfl _).bind
          ((reads_skip_one 0x66 _).bind
            ((reads_keyword [0x61, 0x6C, 0x73, 0x65] rest).bind (reads_pure _ _)))⟩
      | true =>
        exact ⟨⟨_, _, rfl, by decide⟩, @fun rest _ => (reads_peekToken rfl _).bind
          ((reads_skip_one 0x74 _).bind ((reads_keyword [0x72, 0x75, 0x65] rest).bind (reads_pure _ _)))⟩
    | number n =>
      cases n with
      | integer i => exact readsBack_integer (of_decide_eq_true readable)
      | real x => cases readable
    | text s =>
      refine ⟨⟨_, _, bytes_text s, by decide⟩, @fun rest _ => ?_⟩
      rw [bytes_text, List.cons_append, List.append_assoc]
      exact (reads_peekToken rfl _).bind ((reads_skip_one _ _).bind
        ((reads_textBody s rest).bind (reads_pure _ _)))
    | array items =>
      unfold isReadable at readable
      rw [Bool.and_eq_true, List.all_eq_true, decide_eq_true_eq] at readable
      obtain ⟨inner, ahead, reads⟩ :=
        reads_items (reads_items_sorted fun j member => ih (readable.2 j member))
      refine ⟨⟨_, _, ahead, by decide⟩, @fun rest _ => ?_⟩
      rw [ahead]
      exact (reads_peekToken rfl _).bind ((reads_enter readable.1 _ _).bind
        ((reads rest).bind ((reads_closeList rest).bind (reads_pure _ _))))
    | object members =>
      unfold isReadable at readable
      rw [Bool.and_eq_true, List.all_eq_true, decide_eq_true_eq] at readable
      obtain ⟨inner, ahead, reads⟩ :=
        reads_members (takes_members (fun m member => ih (readable.2 m member)) [])
      refine ⟨⟨_, _, ahead, by decide⟩, @fun rest _ => ?_⟩
      rw [ahead]
      exact (reads_peekToken rfl _).bind ((reads_enter readable.1 _ _).bind
        ((reads rest).bind ((reads_closeObject rest).bind (reads_pure _ _))))

/-- A document is read back from its text, with the members of its objects in their order. -/
theorem parse_ofString_print {j : Json} (readable : isReadable maxLevels j = true) :
    parse (Utf8.ofString j.print) = .ok j.sorted := by
  have reads := (readsBack_value readable).reads (.inl rfl)
  rw [List.append_nil] at reads
  rw [ofString_print]
  exact whole_eq_ok reads

/-! ### Objects that are in order -/

/-- Members that hold texts; those without one are left out. -/
def textMembers (members : List (String × Option String)) : List (String × Json) :=
  members.filterMap fun m => m.2.map fun value => (m.1, .text value)

/-- A member of a new name is put among the others. -/
lemma insertMember_perm {name : String} {members : List (String × Json)}
    (new : ∀ m ∈ members, name ≠ m.1) (value : Json) :
    (insertMember name value members).Perm ((name, value) :: members) := by
  induction members with
  | nil => exact .refl _
  | cons m members ih =>
    rw [insertMember]
    split_ifs with before same
    · exact .refl _
    · exact absurd same (new m List.mem_cons_self)
    · exact ((ih fun m' member => new m' (List.mem_cons_of_mem m member)).cons m).trans (.swap ..)

lemma mem_insertMember {name : String} {value : Json} {members : List (String × Json)} {m : String × Json}
    (member : m ∈ insertMember name value members) : m = (name, value) ∨ m ∈ members := by
  induction members with
  | nil => exact .inl (List.mem_singleton.mp member)
  | cons m' members ih =>
    rw [insertMember] at member
    split_ifs at member
    · exact List.mem_cons.mp member
    · exact (List.mem_cons.mp member).imp_right (List.mem_cons_of_mem m')
    · rcases List.mem_cons.mp member with rfl | later
      · exact .inr List.mem_cons_self
      · exact (ih later).imp_right (List.mem_cons_of_mem m')

/-- A member is put in its place, or in place of the one of its name. -/
lemma insertMember_pairwise {members : List (String × Json)} (ordered : members.Pairwise (·.1 < ·.1))
    (name : String) (value : Json) : (insertMember name value members).Pairwise (·.1 < ·.1) := by
  induction members with
  | nil => exact List.pairwise_singleton _ _
  | cons m members ih =>
    obtain ⟨least, later⟩ := List.pairwise_cons.mp ordered
    rw [insertMember]
    split_ifs with before same
    · refine List.pairwise_cons.mpr ⟨fun m' member => ?_, ordered⟩
      rcases List.mem_cons.mp member with rfl | member
      · exact before
      · exact String.lt_trans before (least m' member)
    · subst same
      exact List.pairwise_cons.mpr ⟨least, later⟩
    · refine List.pairwise_cons.mpr ⟨fun m' member => ?_, ih later⟩
      rcases mem_insertMember member with rfl | member
      · by_contra behind
        exact same (String.le_antisymm (String.not_lt.mp behind) (String.not_lt.mp before))
      · exact least m' member

/-- Members of different names are put in order. -/
lemma foldl_insertMember {passed members : List (String × Json)}
    (different : (passed ++ members).Pairwise (·.1 ≠ ·.1)) (ordered : passed.Pairwise (·.1 < ·.1)) :
    (members.foldl (fun sorted m => insertMember m.1 m.2 sorted) passed).Pairwise (·.1 < ·.1) ∧
      (members.foldl (fun sorted m => insertMember m.1 m.2 sorted) passed).Perm (passed ++ members) := by
  induction members generalizing passed with
  | nil => exact ⟨ordered, by rw [List.append_nil]; exact .refl _⟩
  | cons m members ih =>
    have new : ∀ m' ∈ passed, m.1 ≠ m'.1 := fun m' member =>
      ((List.pairwise_append.mp different).2.2 m' member m List.mem_cons_self).symm
    have perm := insertMember_perm new m.2
    have moved : (insertMember m.1 m.2 passed ++ members).Perm (passed ++ m :: members) :=
      (perm.append_right members).trans List.perm_middle.symm
    have different' : (insertMember m.1 m.2 passed ++ members).Pairwise (·.1 ≠ ·.1) :=
      (moved.pairwise_iff Ne.symm).mpr different
    obtain ⟨sorted, perm'⟩ := ih different' (insertMember_pairwise ordered m.1 m.2)
    exact ⟨sorted, perm'.trans moved⟩

/-- The object with some members, given in any order, has them in order. -/
lemma ofMembers_eq_of_perm {members sorted : List (String × Json)} (perm : members.Perm sorted)
    (ordered : sorted.Pairwise (·.1 < ·.1)) : ofMembers members = .object sorted := by
  have different : members.Pairwise (·.1 ≠ ·.1) := by
    refine (perm.pairwise_iff Ne.symm).mpr (ordered.imp fun {m m'} before same => ?_)
    exact String.lt_irrefl m'.1 (same ▸ before)
  obtain ⟨ordered', perm'⟩ := @foldl_insertMember [] members different .nil
  refine congrArg object ((perm'.trans perm).eq_of_pairwise (fun m m' _ _ before behind => ?_) ordered' ordered)
  exact absurd behind (String.lt_asymm before)

/-- Members in their order stay as they are. -/
lemma ofMembers_eq {members : List (String × Json)} (ordered : members.Pairwise (·.1 < ·.1)) :
    ofMembers members = .object members :=
  ofMembers_eq_of_perm (.refl members) ordered

lemma sortedMembers_textMembers (members : List (String × Option String)) :
    sortedMembers (textMembers members) = textMembers members := by
  induction members with
  | nil => rw [textMembers, List.filterMap_nil, sortedMembers]
  | cons m members ih =>
    obtain ⟨name, value⟩ := m
    cases value with
    | none => exact ih
    | some value =>
      change sortedMembers ((name, .text value) :: textMembers members) = _
      rw [sortedMembers, sorted, ih]
      rfl

/-- An object of texts in their order is the document that is read back from its text. -/
lemma sorted_textMembers {members : List (String × Option String)}
    (ordered : members.Pairwise (·.1 < ·.1)) :
    (object (textMembers members)).sorted = .object (textMembers members) := by
  rw [sorted, sortedMembers_textMembers, ofMembers_eq]
  refine List.Pairwise.filterMap _ (fun m m' before t there t' there' => ?_) ordered
  obtain ⟨value, -, rfl⟩ := Option.map_eq_some_iff.mp there
  obtain ⟨value', -, rfl⟩ := Option.map_eq_some_iff.mp there'
  exact before

end WorkspaceSchema.Json
