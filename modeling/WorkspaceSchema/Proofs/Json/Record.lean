import Mathlib.Tactic.Lemma
import WorkspaceSchema.Proofs.Json.Shape

/-!
# Records, field by field

A reader of a record takes the members of an object as they come, and puts each of them into the draft of
its field.  What comes of it can be said for every field on its own: a field looks for the members of its
name, and is content with one of them, or with none if it can be left out (`Fields.gather?`).

The two ways agree, if the fields of the record differ by name (`Fields.foldlM_put?`).  So neither the order
of the members nor the members of other names matter.  How a document is read for a single field is left
open here: it makes no difference whether the document has been read before.
-/

namespace WorkspaceSchema.Json

section Values

variable {β γ : Type}

/-- What the members of one name hold, in their order. -/
def values (name : String) (members : List (String × β)) : List β :=
  (members.filter (·.1 = name)).map (·.2)

lemma values_cons (name : String) (m : String × β) (members : List (String × β)) :
    values name (m :: members) = if m.1 = name then m.2 :: values name members else values name members := by
  unfold values
  rw [List.filter_cons]
  split_ifs with here there there
  · rfl
  · exact absurd (of_decide_eq_true here) there
  · exact absurd (decide_eq_true there) here
  · rfl

lemma mem_values {name : String} {members : List (String × β)} {t : β} :
    t ∈ values name members ↔ (name, t) ∈ members := by
  simp [values]

/-- Of no member, or of one, something comes; several are one too many. -/
def only? (absent : Option γ) (one : β → Option γ) : List β → Option γ
  | [] => absent
  | [t] => one t
  | _ => none

/-- What comes of the members of one name does not depend on their order. -/
lemma only?_of_perm {ts ts' : List β} (perm : ts.Perm ts') (absent : Option γ) (one : β → Option γ) :
    only? absent one ts = only? absent one ts' := by
  match ts, ts', perm.length_eq with
  | [], [], _ => rfl
  | [t], [t'], _ => rw [List.perm_singleton.mp perm]
  | _ :: _ :: _, _ :: _ :: _, _ => rfl

lemma isSome_only? {absent : Option γ} {one : β → Option γ} {ts : List β} :
    (only? absent one ts).isSome ↔
      ts.length ≤ 1 ∧ (ts = [] → absent.isSome) ∧ ∀ t ∈ ts, (one t).isSome := by
  match ts with
  | [] => simp [only?]
  | [t] => simp [only?]
  | _ :: _ :: _ => simp [only?]

end Values

namespace Fields

lemma isSound_cons {name : String} {p : Presence} {s : Shape} {rest : Fields} :
    (cons name p s rest).isSound = true ↔
      name ∉ rest.names ∧ s.isSound = true ∧ rest.isSound = true := by
  rw [isSound, Bool.and_eq_true, Bool.and_eq_true, Bool.not_eq_true', List.contains_eq_mem,
    decide_eq_false_iff_not, and_assoc]

lemma names_nodup : (f : Fields) → f.isSound = true → f.names.Nodup
  | .nil, _ => List.nodup_nil
  | .cons _ _ _ rest, sound =>
    have ⟨new, _, sound⟩ := isSound_cons.mp sound
    List.nodup_cons.mpr ⟨new, rest.names_nodup sound⟩

variable {β : Type} (slot : (p : Presence) → (s : Shape) → β → Option (p.Slot s.Val))

/-- Takes up a member, unless its field is taken. -/
def put? : (f : Fields) → String → β → f.Draft → Option f.Draft
  | .nil, _, _, draft => some draft
  | .cons field p s rest, name, t, (value, others) =>
    if name = field then
      if value.isSome then none else (slot p s t).map fun v => (some v, others)
    else (rest.put? name t others).map (value, ·)

/-- The values of a record: every field looks for its members. -/
def gather? : (f : Fields) → List (String × β) → Option f.Slots
  | .nil, _ => some ()
  | .cons name p s rest, members =>
    (only? (p.absent? s.initial) (slot p s) (values name members)).bind fun v =>
      (rest.gather? members).map (v, ·)

/-- A field that is taken or not takes up the members of its name. -/
def fillOne? {γ : Type} (one : β → Option γ) : Option γ → List β → Option (Option γ)
  | value, [] => some value
  | none, [t] => (one t).map some
  | _, _ => none

/-- A draft takes up members, field by field. -/
def fill? : (f : Fields) → List (String × β) → f.Draft → Option f.Draft
  | .nil, _, draft => some draft
  | .cons name p s rest, members, (value, others) =>
    (fillOne? (slot p s) value (values name members)).bind fun v =>
      (rest.fill? members others).map (v, ·)

variable {slot}

lemma fill?_nil : (f : Fields) → (draft : f.Draft) → f.fill? slot [] draft = some draft
  | .nil, _ => rfl
  | .cons _ _ _ rest, (value, others) => by
    change (some value).bind (fun v => (rest.fill? slot [] others).map (v, ·)) = _
    rw [fill?_nil rest others]
    rfl

/-- A member of another name is passed over. -/
lemma fill?_cons_of_notMem {name : String} : {f : Fields} → (other : name ∉ f.names) → (t : β) →
    (members : List (String × β)) → (draft : f.Draft) →
    f.fill? slot ((name, t) :: members) draft = f.fill? slot members draft
  | .nil, _, _, _, _ => rfl
  | .cons field p s rest, other, t, members, (value, others) => by
    obtain ⟨here, later⟩ := List.ne_and_not_mem_of_not_mem_cons other
    unfold fill?
    rw [values_cons, if_neg here, fill?_cons_of_notMem later]

/-- A member is taken up first, and then the others. -/
lemma fill?_cons : {f : Fields} → (distinct : f.names.Nodup) → (m : String × β) →
    (members : List (String × β)) → (draft : f.Draft) →
    f.fill? slot (m :: members) draft = (f.put? slot m.1 m.2 draft).bind (f.fill? slot members ·)
  | .nil, _, _, _, _ => rfl
  | .cons field p s rest, distinct, (name, t), members, (value, others) => by
    obtain ⟨new, distinct⟩ := List.nodup_cons.mp distinct
    unfold fill? put?
    rw [values_cons]
    by_cases here : name = field
    · subst here
      rw [if_pos rfl, if_pos rfl, fill?_cons_of_notMem new]
      cases value with
      | some v => cases values name members <;> rfl
      | none => cases values name members <;> cases h : slot p s t <;> simp [fillOne?, h]
    · rw [if_neg here, if_neg here, fill?_cons distinct]
      cases rest.put? slot name t others <;> simp

/-- Members that are taken up one after the other are taken up field by field. -/
lemma foldlM_put?_eq_fill? {f : Fields} (distinct : f.names.Nodup) (members : List (String × β))
    (draft : f.Draft) :
    members.foldlM (fun draft m => f.put? slot m.1 m.2 draft) draft = f.fill? slot members draft := by
  induction members generalizing draft with
  | nil => exact (fill?_nil f draft).symm
  | cons m members ih =>
    rw [List.foldlM_cons, fill?_cons distinct]
    exact Option.bind_congr fun draft _ => ih draft

/-- A field is completed on its own. -/
lemma toOption_complete_cons {name : String} {p : Presence} {s : Shape} {rest : Fields}
    (value : Option (p.Slot s.Val)) (others : rest.Draft) :
    ((cons name p s rest).complete (value, others)).toOption =
      (value.or (p.absent? s.initial)).bind fun v => (rest.complete others).toOption.map (v, ·) := by
  rw [complete.eq_def]
  dsimp only
  cases value with
  | some v => cases rest.complete others <;> rfl
  | none => cases p.absent? s.initial <;> cases rest.complete others <;> rfl

/-- What a field finds is what it takes up, or else what it has without a member. -/
lemma only?_eq_fillOne? {γ : Type} (absent : Option γ) (one : β → Option γ) (ts : List β) :
    only? absent one ts = (fillOne? one none ts).bind (·.or absent) := by
  match ts with
  | [] => rfl
  | [t] =>
    change one t = ((one t).map some).bind _
    cases one t <;> rfl
  | _ :: _ :: _ => rfl

/-- An empty draft that has taken up its members is completed to the values of the record. -/
lemma fill?_bind_complete : (f : Fields) → (members : List (String × β)) →
    (f.fill? slot members f.draft).bind (fun draft => (f.complete draft).toOption) =
      f.gather? slot members
  | .nil, _ => rfl
  | .cons name p s rest, members => by
    have later := fill?_bind_complete rest members
    unfold fill? gather? draft
    rw [← later, only?_eq_fillOne?]
    cases fillOne? (slot p s) none (values name members) with
    | none => rfl
    | some v =>
      cases rest.fill? slot members rest.draft with
      | none =>
        change none = (v.or (p.absent? s.initial)).bind fun v => none
        cases v.or (p.absent? s.initial) <;> rfl
      | some others => exact toOption_complete_cons v others

/-- The members of an object give the values of a record, field by field. -/
lemma foldlM_put? {f : Fields} (distinct : f.names.Nodup) (members : List (String × β)) :
    (members.foldlM (fun draft m => f.put? slot m.1 m.2 draft) f.draft).bind
      (fun draft => (f.complete draft).toOption) = f.gather? slot members := by
  rw [foldlM_put?_eq_fill? distinct, fill?_bind_complete]

end Fields

end WorkspaceSchema.Json
