import WorkspaceSchema.Proofs.Json.Meaning
import WorkspaceSchema.Schema

/-!
# Lists of schemas that are accepted

A directory answers with a document, and the document is a list of schemas or it is not.  `IsListing` says
which documents are, in terms of their members: which of them have to be there, which may be null, and what
they have to hold.  A text is accepted exactly if it writes such a document.

What is read from it depends on less than the document.  `Rearranged` relates documents that differ in what
does not matter to a shape, at any depth: in the order of members, and in members that belong to no field.
-/

namespace WorkspaceSchema

namespace Json

/-! ### What does not matter to a shape -/

/-- The shape of the first field of some name. -/
def Fields.shape? : Fields → String → Option Shape
  | .nil, _ => none
  | .cons field _ s rest, name => if name = field then some s else rest.shape? name

/-- Documents that differ in the order of members, and in members that belong to no field, wherever a shape
takes its values from members. -/
inductive Rearranged : Shape → Written → Written → Prop where
  | refl (s : Shape) (t : Written) : Rearranged s t t
  | symm {s : Shape} {t t' : Written} : Rearranged s t t' → Rearranged s t' t
  | trans {s : Shape} {t t' t'' : Written} : Rearranged s t t' → Rearranged s t' t'' → Rearranged s t t''
  | order {name : String} {fields : Fields} {ms ms' : List (String × Written)} (perm : ms.Perm ms') :
    Rearranged (.record name fields) (.object ms) (.object ms')
  | unknown {name : String} {fields : Fields} (m : String × Written) (ms : List (String × Written))
    (other : m.1 ∉ fields.names) : Rearranged (.record name fields) (.object (m :: ms)) (.object ms)
  | member {name field : String} {fields : Fields} {s : Shape} {t t' : Written}
    (ms : List (String × Written)) (known : fields.shape? field = some s) (inner : Rearranged s t t') :
    Rearranged (.record name fields) (.object ((field, t) :: ms)) (.object ((field, t') :: ms))
  | item {s : Shape} {t t' : Written} (before after : List Written) (inner : Rearranged s t t') :
    Rearranged (.list s) (.array (before ++ t :: after)) (.array (before ++ t' :: after))

/-- The order of members does not matter to the fields of a record. -/
lemma Fields.gathered?_of_perm : (f : Fields) → {ms ms' : List (String × Written)} → ms.Perm ms' →
    f.gathered? ms = f.gathered? ms'
  | .nil, _, _, _ => rfl
  | .cons name p s rest, ms, ms', perm => by
    have same : (values name ms).Perm (values name ms') := (perm.filter _).map _
    rw [gathered?, gathered?, rest.gathered?_of_perm perm, only?_of_perm same]

/-- Members that belong to no field do not matter. -/
lemma Fields.gathered?_cons_of_notMem : (f : Fields) → {m : String × Written} → m.1 ∉ f.names →
    (ms : List (String × Written)) → f.gathered? (m :: ms) = f.gathered? ms
  | .nil, _, _, _ => rfl
  | .cons name p s rest, m, other, ms => by
    obtain ⟨here, later⟩ := List.ne_and_not_mem_of_not_mem_cons other
    rw [gathered?, gathered?, rest.gathered?_cons_of_notMem later, values_cons, if_neg here]

lemma slot?_congr {α : Type} {meaning : Written → Option α} {t t' : Written} (same : meaning t = meaning t')
    (null : t = .null ↔ t' = .null) (p : Presence) : t.slot? meaning p = t'.slot? meaning p := by
  have nullable : t.nullable? meaning = t'.nullable? meaning := by
    by_cases is : t = .null
    · rw [is, null.mp is]
    · rw [Written.nullable?_of_ne meaning is, Written.nullable?_of_ne meaning (mt null.mpr is), same]
  cases p with
  | required | defaulted => exact same
  | optional | omittable => exact nullable

/-- Of what a member holds, nothing matters but what it means to its field, and whether it is null. -/
lemma Fields.gathered?_cons_congr {field : String} {s : Shape} {t t' : Written}
    (same : s.meaning? t = s.meaning? t') (null : t = .null ↔ t' = .null) :
    (f : Fields) → (sound : f.isSound = true) → f.shape? field = some s → (ms : List (String × Written)) →
    f.gathered? ((field, t) :: ms) = f.gathered? ((field, t') :: ms)
  | .nil, _, _, _ => rfl
  | .cons name p s' rest, sound, known, ms => by
    obtain ⟨new, -, sound⟩ := isSound_cons.mp sound
    unfold shape? at known
    rw [gathered?, gathered?, values_cons, values_cons]
    split at known
    case isTrue here =>
      subst here
      obtain rfl := Option.some.inj known
      have slots := slot?_congr same null p
      rw [if_pos rfl, if_pos rfl, rest.gathered?_cons_of_notMem new, rest.gathered?_cons_of_notMem new]
      cases values field ms with
      | nil => exact congrArg (Option.bind · _) slots
      | cons => rfl
    case isFalse other =>
      rw [if_neg other, if_neg other, rest.gathered?_cons_congr same null sound known]

lemma Fields.isSound_of_shape? : (f : Fields) → f.isSound = true → {field : String} → {s : Shape} →
    f.shape? field = some s → s.isSound = true
  | .cons name p s' rest, sound, field, s, known => by
    obtain ⟨-, here, later⟩ := isSound_cons.mp sound
    unfold shape? at known
    split at known
    · obtain rfl := Option.some.inj known
      exact here
    · exact rest.isSound_of_shape? later known

/-- Documents that differ in what does not matter to a shape mean the same to it, and both are null or
neither is. -/
lemma Rearranged.meaning?_eq {s : Shape} {t t' : Written} (rearranged : Rearranged s t t')
    (sound : s.isSound = true) : s.meaning? t = s.meaning? t' ∧ (t = .null ↔ t' = .null) := by
  induction rearranged with
  | refl => exact ⟨rfl, .rfl⟩
  | symm _ ih => exact ⟨(ih sound).1.symm, (ih sound).2.symm⟩
  | trans _ _ ih ih' => exact ⟨(ih sound).1.trans (ih' sound).1, (ih sound).2.trans (ih' sound).2⟩
  | order perm => exact ⟨Fields.gathered?_of_perm _ perm, by simp only [reduceCtorEq]⟩
  | unknown m ms other => exact ⟨Fields.gathered?_cons_of_notMem _ other ms, by simp only [reduceCtorEq]⟩
  | member ms known inner ih =>
    obtain ⟨same, null⟩ := ih (Fields.isSound_of_shape? _ sound known)
    exact ⟨Fields.gathered?_cons_congr same null _ sound known ms, by simp only [reduceCtorEq]⟩
  | @item s t t' before after inner ih =>
    refine ⟨?_, by simp only [reduceCtorEq]⟩
    have head : s.meaning? t = s.meaning? t' := (ih sound).1
    rw [Shape.meaning?, Shape.meaning?, List.mapM_append, List.mapM_append, mapM_cons_eq_bind,
      mapM_cons_eq_bind, head]

/-- Texts of documents that differ in what does not matter to a sound shape are read alike. -/
lemma Rearranged.toOption_parse_eq {s : Shape} {t t' : Written} (rearranged : Rearranged s t t')
    (sound : s.isSound = true) (deep : s.depth + 2 ≤ maxLevels) {bytes bytes' : List UInt8}
    (writes : t.Writes bytes) (writes' : t'.Writes bytes') :
    (s.parse bytes).toOption = (s.parse bytes').toOption := by
  rw [Shape.toOption_parse sound deep writes, Shape.toOption_parse sound deep writes',
    (rearranged.meaning?_eq sound).1]

/-! ### What has to be there -/

/-- That a document means something to a shape. -/
def Shape.Accepts (s : Shape) (t : Written) : Prop :=
  (s.meaning? t).isSome

/-- How the members of one name have to be, for a field that takes what is good. -/
def Presence.IsMet (p : Presence) (good : Written → Prop) (name : String) (ms : List (String × Written)) :
    Prop :=
  match p with
  | .required => ∃ t, (name, t) ∈ ms ∧ good t
  | .defaulted => ∀ t, (name, t) ∈ ms → good t
  | .optional | .omittable => ∀ t, (name, t) ∈ ms → t = .null ∨ good t

lemma isSome_mapM {α β : Type} {f : α → Option β} {as : List α} :
    (as.mapM f).isSome ↔ ∀ a ∈ as, (f a).isSome := by
  induction as with
  | nil => simp
  | cons a as ih =>
    rw [mapM_cons_eq_bind, List.forall_mem_cons, ← ih]
    cases f a <;> simp

/-- The values of a record are there if every field finds what it needs, and no more than one member. -/
lemma Fields.isSome_gathered?_cons {name : String} {p : Presence} {s : Shape} {rest : Fields}
    {ms : List (String × Written)} :
    ((cons name p s rest).gathered? ms).isSome ↔
      ((values name ms).length ≤ 1 ∧ p.IsMet s.Accepts name ms) ∧
        (rest.gathered? ms).isSome := by
  have both {α β : Type} (o : Option α) (o' : Option β) :
      (o.bind fun v => o'.map (v, ·)).isSome ↔ o.isSome ∧ o'.isSome := by
    cases o <;> simp
  have nullable {t : Written} : (t.nullable? (s.meaning? ·)).isSome ↔ t = .null ∨ (s.meaning? t).isSome := by
    by_cases null : t = .null
    · simp [null, Written.nullable?]
    · simp [Written.nullable?_of_ne _ null, null]
  rw [gathered?, both, isSome_only?]
  refine and_congr_left fun _ => and_congr_right fun few => ?_
  have members (t : Written) : (name, t) ∈ ms ↔ t ∈ values name ms := mem_values.symm
  simp only [Presence.IsMet, members]
  cases p with
  | required =>
    change (_ → (none : Option s.Val).isSome) ∧ (∀ t ∈ values name ms, (s.meaning? t).isSome) ↔ _
    generalize values name ms = ts at few ⊢
    rcases ts with - | ⟨t, - | ⟨t', ts⟩⟩
    · simp
    · simp [Shape.Accepts]
    · exact absurd few (by simp)
  | defaulted => exact and_iff_right fun _ => rfl
  | optional | omittable => exact (and_iff_right fun _ => rfl).trans (forall₂_congr fun _ _ => nullable)

/-- That every field of a record finds what it needs. -/
def Fields.Find : Fields → List (String × Written) → Prop
  | .nil, _ => True
  | .cons name p s rest, ms => p.IsMet s.Accepts name ms ∧ rest.Find ms

/-- The values of a record are there if no field has more than one member, and every field finds what it
needs. -/
lemma Fields.isSome_gathered? : (f : Fields) → (ms : List (String × Written)) →
    ((f.gathered? ms).isSome ↔ (∀ name ∈ f.names, (values name ms).length ≤ 1) ∧ f.Find ms)
  | .nil, _ => iff_of_true rfl ⟨List.forall_mem_nil _, trivial⟩
  | .cons name p s rest, ms => by
    rw [isSome_gathered?_cons, rest.isSome_gathered? ms, names, List.forall_mem_cons, Find]
    exact and_and_and_comm

end Json

open Json

/-! ### The lists of schemas -/

/-- A document that names a field type: its name as a text, or as the only member of an object. -/
def NamesFieldType (t : Written) : Prop :=
  ∃ name ∈ ["STRING", "INT64", "BOOL", "DOUBLE", "EMAIL", "PHONE", "DATE"],
    t = .text name ∨ t = .object [(name, .null)]

/-- The members of a field. -/
structure IsField (ms : List (String × Written)) : Prop where
  once : ∀ name ∈ ["fieldId", "fieldName", "fieldType", "displayName", "multiValued", "readAccessType",
    "indexed", "kind", "etag"], (values name ms).length ≤ 1
  fieldName : ∃ t, ("fieldName", t) ∈ ms ∧ ∃ value, t = .text value
  fieldType : ∃ t, ("fieldType", t) ∈ ms ∧ NamesFieldType t
  multiValued : ∀ t, ("multiValued", t) ∈ ms → ∃ value, t = .bool value
  indexed : ∀ t, ("indexed", t) ∈ ms → t = .null ∨ ∃ value, t = .bool value
  optional : ∀ name ∈ ["fieldId", "displayName", "readAccessType", "kind", "etag"],
    ∀ t, (name, t) ∈ ms → t = .null ∨ ∃ value, t = .text value

/-- The members of a schema. -/
structure IsSchema (ms : List (String × Written)) : Prop where
  once : ∀ name ∈ ["schemaId", "schemaName", "displayName", "fields", "kind", "etag"],
    (values name ms).length ≤ 1
  schemaName : ∃ t, ("schemaName", t) ∈ ms ∧ ∃ value, t = .text value
  fields : ∀ t, ("fields", t) ∈ ms → ∃ items, t = .array items ∧
    ∀ item ∈ items, ∃ ms', item = .object ms' ∧ IsField ms'
  optional : ∀ name ∈ ["schemaId", "displayName", "kind", "etag"],
    ∀ t, (name, t) ∈ ms → t = .null ∨ ∃ value, t = .text value

/-- The members of a list of schemas. -/
structure IsListing (ms : List (String × Written)) : Prop where
  once : ∀ name ∈ ["schemas", "kind", "etag"], (values name ms).length ≤ 1
  schemas : ∀ t, ("schemas", t) ∈ ms → ∃ items, t = .array items ∧
    ∀ item ∈ items, ∃ ms', item = .object ms' ∧ IsSchema ms'
  optional : ∀ name ∈ ["kind", "etag"], ∀ t, (name, t) ∈ ms → t = .null ∨ ∃ value, t = .text value

/-- That no item of a member is itself a list. -/
def NoneListed (name : String) (ms : List (String × Written)) : Prop :=
  ∀ items, (name, .array items) ∈ ms → ∀ item ∈ items, ∀ listed, item ≠ .array listed

/-- That no schema, and no field of a schema, is given as a list of its values. -/
def ByName (ms : List (String × Written)) : Prop :=
  NoneListed "schemas" ms ∧ ∀ items, ("schemas", .array items) ∈ ms →
    ∀ ms', .object ms' ∈ items → NoneListed "fields" ms'

lemma accepts_text {t : Written} : Shape.text.Accepts t ↔ ∃ value, t = .text value := by
  unfold Shape.Accepts
  cases t <;> simp [Shape.meaning?]

lemma accepts_bool {t : Written} : Shape.bool.Accepts t ↔ ∃ value, t = .bool value := by
  unfold Shape.Accepts
  cases t <;> simp [Shape.meaning?]

lemma accepts_fieldType {t : Written} : FieldType.shape.Accepts t ↔ NamesFieldType t := by
  have known (name : String) :
      (variant? "STRING" ["INT64", "BOOL", "DOUBLE", "EMAIL", "PHONE", "DATE"] name).isSome ↔
        name ∈ ["STRING", "INT64", "BOOL", "DOUBLE", "EMAIL", "PHONE", "DATE"] := by
    unfold variant? variants
    rw [List.isSome_finIdxOf?, List.contains_iff_mem]
  unfold Shape.Accepts NamesFieldType
  match t with
  | .text name =>
    refine (known name).trans ⟨fun member => ⟨name, member, .inl rfl⟩, ?_⟩
    rintro ⟨_, member, is | is⟩ <;> cases is
    exact member
  | .object [(name, .null)] =>
    refine (known name).trans ⟨fun member => ⟨name, member, .inr rfl⟩, ?_⟩
    rintro ⟨_, member, is | is⟩ <;> cases is
    exact member
  | .object ((_, value) :: _ :: _) =>
    refine iff_of_false (by cases value <;> exact Bool.false_ne_true) ?_
    rintro ⟨_, -, is | is⟩ <;> cases is
  | .null | .bool _ | .number _ _ _ | .array _ | .object []
  | .object [(_, .bool _)] | .object [(_, .number _ _ _)] | .object [(_, .text _)]
  | .object [(_, .array _)] | .object [(_, .object _)] =>
    refine iff_of_false Bool.false_ne_true ?_
    rintro ⟨_, -, is | is⟩ <;> cases is

/-- A list is accepted if its items are. -/
lemma accepts_list {s : Shape} {t : Written} :
    (Shape.list s).Accepts t ↔ ∃ items, t = .array items ∧ ∀ item ∈ items, s.Accepts item := by
  unfold Shape.Accepts
  cases t with
  | array items =>
    rw [Shape.meaning?, isSome_mapM]
    simp
  | null | bool | number | text | object => simp [Shape.meaning?]

/-- An object is accepted by the fields of a record. -/
lemma accepts_object {name : String} {fields : Fields} {ms : List (String × Written)} :
    (Shape.record name fields).Accepts (.object ms) ↔
      (∀ field ∈ fields.names, (values field ms).length ≤ 1) ∧ fields.Find ms :=
  fields.isSome_gathered? ms

/-- A record is accepted as an object only, if it is not given as a list. -/
lemma accepts_record {name : String} {fields : Fields} {t : Written} (named : ∀ items, t ≠ .array items) :
    (Shape.record name fields).Accepts t ↔
      ∃ ms, t = .object ms ∧ (Shape.record name fields).Accepts (.object ms) := by
  unfold Shape.Accepts
  cases t with
  | array items => exact absurd rfl (named items)
  | object ms => simp
  | null | bool | number | text => simp [Shape.meaning?]

/-- A list of records is accepted if its items are objects with the right members. -/
lemma accepts_records {name : String} {fields : Fields} {good : List (String × Written) → Prop}
    {t : Written} (named : ∀ items, t = .array items → ∀ item ∈ items, ∀ listed, item ≠ .array listed)
    (right : ∀ items ms, t = .array items → .object ms ∈ items →
      ((Shape.record name fields).Accepts (.object ms) ↔ good ms)) :
    (Shape.list (.record name fields)).Accepts t ↔
      ∃ items, t = .array items ∧ ∀ item ∈ items, ∃ ms, item = .object ms ∧ good ms := by
  rw [accepts_list]
  refine exists_congr fun items => and_congr_right fun is => forall₂_congr fun item member => ?_
  rw [accepts_record (named items is item member)]
  refine exists_congr fun ms => and_congr_right fun object => ?_
  exact right items ms is (object ▸ member)

/-- The members of a field are those that are accepted. -/
lemma isField_iff {ms : List (String × Written)} : SchemaField.shape.Accepts (.object ms) ↔ IsField ms := by
  refine accepts_object.trans ?_
  simp only [Fields.Find, Presence.IsMet, accepts_text, accepts_bool, accepts_fieldType]
  constructor
  · rintro ⟨once, id, name, type, display, multi, access, indexed, kind, etag, -⟩
    refine ⟨once, name, type, multi, indexed, ?_⟩
    simp only [List.forall_mem_cons]
    exact ⟨id, display, access, kind, etag, List.forall_mem_nil _⟩
  · rintro ⟨once, name, type, multi, indexed, optional⟩
    simp only [List.forall_mem_cons] at optional
    obtain ⟨id, display, access, kind, etag, -⟩ := optional
    exact ⟨once, id, name, type, display, multi, access, indexed, kind, etag, trivial⟩

/-- The members of a schema whose fields are all objects are those that are accepted. -/
lemma isSchema_iff {ms : List (String × Written)} (named : NoneListed "fields" ms) :
    Schema.shape.Accepts (.object ms) ↔ IsSchema ms := by
  have fields (t : Written) (member : ("fields", t) ∈ ms) :
      (Shape.list SchemaField.shape).Accepts t ↔ ∃ items, t = .array items ∧
        ∀ item ∈ items, ∃ ms', item = .object ms' ∧ IsField ms' :=
    accepts_records (fun items is => named items (is ▸ member)) fun _ _ _ _ => isField_iff
  refine accepts_object.trans ?_
  simp only [Fields.Find, Presence.IsMet, accepts_text]
  constructor
  · rintro ⟨once, id, name, display, listed, kind, etag, -⟩
    refine ⟨once, name, fun t member => (fields t member).mp (listed t member), ?_⟩
    simp only [List.forall_mem_cons]
    exact ⟨id, display, kind, etag, List.forall_mem_nil _⟩
  · rintro ⟨once, name, listed, optional⟩
    simp only [List.forall_mem_cons] at optional
    obtain ⟨id, display, kind, etag, -⟩ := optional
    exact ⟨once, id, name, display, fun t member => (fields t member).mpr (listed t member), kind, etag,
      trivial⟩

/-- The members of a list of schemas, all of them objects, are those that are accepted. -/
lemma isListing_iff {ms : List (String × Written)} (named : ByName ms) :
    SchemaList.shape.Accepts (.object ms) ↔ IsListing ms := by
  have schemas (t : Written) (member : ("schemas", t) ∈ ms) :
      (Shape.list Schema.shape).Accepts t ↔ ∃ items, t = .array items ∧
        ∀ item ∈ items, ∃ ms', item = .object ms' ∧ IsSchema ms' :=
    accepts_records (fun items is => named.1 items (is ▸ member)) fun items ms' is member' =>
      isSchema_iff (named.2 items (is ▸ member) ms' member')
  refine accepts_object.trans ?_
  simp only [Fields.Find, Presence.IsMet, accepts_text]
  constructor
  · rintro ⟨once, listed, kind, etag, -⟩
    refine ⟨once, fun t member => (schemas t member).mp (listed t member), ?_⟩
    simp only [List.forall_mem_cons]
    exact ⟨kind, etag, List.forall_mem_nil _⟩
  · rintro ⟨once, listed, optional⟩
    simp only [List.forall_mem_cons] at optional
    obtain ⟨kind, etag, -⟩ := optional
    exact ⟨once, fun t member => (schemas t member).mpr (listed t member), kind, etag, trivial⟩

/-! ### Texts -/

/-- A text is accepted as a list of schemas exactly if it writes one, given that it gives schemas and fields by
the names of their values.  What is read does not depend on the order of members or on members that belong to
nothing, nor on how a document is written. -/
theorem SchemaList.parse_of_writes :
    (∀ ms bytes, (Written.object ms).Writes bytes → ByName ms →
      ((∃ l, SchemaList.parse bytes = .ok l) ↔ IsListing ms)) ∧
    (∀ t t' bytes bytes', t.Writes bytes → t'.Writes bytes' → Rearranged SchemaList.shape t t' →
      (SchemaList.parse bytes).toOption = (SchemaList.parse bytes').toOption) := by
  have parse_eq (bytes : List UInt8) :
      (SchemaList.parse bytes).toOption = (SchemaList.shape.parse bytes).toOption.map .ofVal := by
    unfold SchemaList.parse
    cases SchemaList.shape.parse bytes <;> rfl
  have sound : SchemaList.shape.isSound = true := rfl
  have deep : SchemaList.shape.depth + 2 ≤ maxLevels := by decide
  constructor
  · intro ms bytes writes named
    rw [← isListing_iff named, Shape.Accepts, ← Shape.toOption_parse sound deep writes]
    unfold SchemaList.parse
    cases SchemaList.shape.parse bytes with
    | error e => simp [Except.map, Except.toOption]
    | ok v => simp [Except.map, Except.toOption]
  · intro t t' bytes bytes' writes writes' rearranged
    rw [parse_eq, parse_eq, rearranged.toOption_parse_eq sound deep writes writes']

/-- A list with one schema, as it is, and with another member in front and a blank and an escape in it. -/
theorem SchemaList.parse_of_writes_sample :
    let ms := [("schemas", Written.array [.object [("schemaName", .text "A")]])]
    let text := Utf8.ofString "\x7b\"schemas\":[\x7b\"schemaName\":\"A\"\x7d]\x7d"
    let text' := Utf8.ofString "\x7b\"x\": null,\"schemas\":[\x7b\"schemaName\":\"\\u0041\"\x7d]\x7d"
    (Written.object ms).Writes text ∧ (Written.object (("x", .null) :: ms)).Writes text' ∧ ByName ms ∧
      Rearranged SchemaList.shape (.object ms) (.object (("x", .null) :: ms)) ∧
      (∃ l, SchemaList.parse text = .ok l) ∧
      (SchemaList.parse text).toOption = (SchemaList.parse text').toOption := by
  intro ms text text'
  have schemas : SpellsText "schemas".toList _ := .plain rfl
  have schemaName : SpellsText "schemaName".toList _ := .plain rfl
  have x : SpellsText "x".toList _ := .plain rfl
  have plain : SpellsText "A".toList _ := .plain rfl
  have escaped : SpellsText "A".toList [0x5C, 0x75, 0x30, 0x30, 0x34, 0x31] :=
    .cons (.unit ⟨_, _, _, _, 0, 0, 4, 1, rfl, rfl, rfl, rfl, rfl, rfl⟩) .nil
  have schema {body : List UInt8} (spells : SpellsText "A".toList body) :
      (Written.object [("schemaName", .text "A")]).Spelled _ :=
    ⟨_, ⟨_, _, _, _, _, schemaName, ⟨body, spells, .self _⟩, .self _, .self _, .self _, rfl⟩, .self _⟩
  have list {body : List UInt8} (spells : SpellsText "A".toList body) :
      (Written.array [.object [("schemaName", .text "A")]]).Spelled _ :=
    ⟨_, ⟨_, _, schema spells, .self _, rfl⟩, .self _⟩
  have blank : ∀ b ∈ ([0x20] : List UInt8), Cursor.isBlank b = true := List.forall_mem_singleton.mpr rfl
  have writes : (Written.object ms).Writes text :=
    ⟨_, [], ⟨_, ⟨_, _, _, _, _, schemas, list plain, .self _, .self _, .self _, rfl⟩, .self _⟩,
      List.forall_mem_nil _, rfl⟩
  have writes' : (Written.object (("x", .null) :: ms)).Writes text' :=
    ⟨_, [], ⟨_, ⟨_, _, _, _, _, x, ⟨[0x20], blank, rfl⟩,
      ⟨_, _, _, _, _, schemas, list escaped, .self _, .self _, .self _, .self _⟩, .self _, .self _, rfl⟩, .self _⟩,
      List.forall_mem_nil _, rfl⟩
  have named : ByName ms := by
    refine ⟨?_, ?_⟩
    · intro items member item inside listed same
      cases List.mem_singleton.mp member
      cases List.mem_singleton.mp inside
      cases same
    · intro items member ms' inside items' member'
      cases List.mem_singleton.mp member
      cases List.mem_singleton.mp inside
      exact absurd (Prod.mk.inj (List.mem_singleton.mp member')).1 (by decide)
  have rearranged : Rearranged SchemaList.shape (.object ms) (.object (("x", .null) :: ms)) :=
    .symm (.unknown _ ms (by decide))
  refine ⟨writes, writes', named, rearranged, (SchemaList.parse_of_writes.1 ms text writes named).mpr ?_,
    SchemaList.parse_of_writes.2 _ _ text text' writes writes' rearranged⟩
  have other {name name' : String} {t t' : Written} (member : (name, t) ∈ [(name', t')]) : name = name' :=
    (Prod.mk.inj (List.mem_singleton.mp member)).1
  have isSchema : IsSchema [("schemaName", .text "A")] :=
    ⟨by decide, ⟨_, List.mem_singleton_self _, _, rfl⟩, fun t member => absurd (other member) (by decide),
      fun name known t member => absurd (other member ▸ known) (by decide)⟩
  refine ⟨by decide, fun t member => ?_, fun name known t member => absurd (other member ▸ known) (by decide)⟩
  exact ⟨_, (Prod.mk.inj (List.mem_singleton.mp member)).2, fun item inside =>
    ⟨_, List.mem_singleton.mp inside, isSchema⟩⟩

end WorkspaceSchema
