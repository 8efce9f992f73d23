import WorkspaceSchema.Proofs.Json.Attributes
import WorkspaceSchema.Proofs.Schema
import WorkspaceSchema.Schema.Saml

/-!
# Schemas as documents

The text of a schema, read as a document and not as a schema, is an object that has the attributes that are set for
members and no others, and so are the fields in it (`Schema.IsWrittenAs`).  As every attribute is written as a text,
a flag or a list of such objects, there is no null anywhere.

For the schema of the single sign-on application the document is written out (`Saml.parse_print_schema`): the name
stands in two places of it, whatever it holds, and everything else is fixed.
-/

namespace WorkspaceSchema

open Json

/-! ### What is written -/

/-- The name of a field type. -/
def FieldType.label : FieldType → String
  | .string => "STRING"
  | .int64 => "INT64"
  | .bool => "BOOL"
  | .double => "DOUBLE"
  | .email => "EMAIL"
  | .phone => "PHONE"
  | .date => "DATE"

/-- A document that is an object with the attributes of a field that are set. -/
def SchemaField.IsWrittenAs (f : SchemaField) (j : Json) : Prop :=
  j.HasExactly [
    ("fieldId", f.fieldId.map .text),
    ("fieldName", some (.text f.fieldName)),
    ("fieldType", some (.text f.fieldType.label)),
    ("displayName", f.displayName.map .text),
    ("multiValued", some (.bool f.multiValued)),
    ("readAccessType", f.readAccessType.map .text),
    ("indexed", f.indexed.map .bool),
    ("kind", f.kind.map .text),
    ("etag", f.etag.map .text)]

/-- A document that is an object with the attributes of a schema that are set, and its fields in their order. -/
def Schema.IsWrittenAs (s : Schema) (j : Json) : Prop :=
  ∃ items, List.Forall₂ SchemaField.IsWrittenAs s.fields items ∧ j.HasExactly [
    ("schemaId", s.schemaId.map .text),
    ("schemaName", some (.text s.schemaName)),
    ("displayName", s.displayName.map .text),
    ("fields", some (.array items)),
    ("kind", s.kind.map .text),
    ("etag", s.etag.map .text)]

/-! ### Documents without null -/

/-- What is written for something optional is no null if it is none where it is set. -/
lemma nullFree_of_mem_map {α : Type} {write : α → Json} (each : ∀ a, NullFree (write a)) (o : Option α) :
    ∀ j ∈ o.map write, NullFree j := by
  intro j member
  obtain ⟨a, -, rfl⟩ := Option.map_eq_some_iff.mp member
  exact each a

/-- What is written in any case is no null if it is none. -/
lemma nullFree_of_mem_some {j : Json} (free : NullFree j) : ∀ j' ∈ some j, NullFree j' := by
  intro j' member
  rwa [← Option.some.inj member]

lemma SchemaField.IsWrittenAs.nullFree {f : SchemaField} {j : Json} (written : f.IsWrittenAs j) : NullFree j := by
  apply HasExactly.nullFree written
  simp only [List.forall_mem_cons]
  exact ⟨nullFree_of_mem_map .text _, nullFree_of_mem_some (.text _), nullFree_of_mem_some (.text _),
    nullFree_of_mem_map .text _, nullFree_of_mem_some (.bool _), nullFree_of_mem_map .text _,
    nullFree_of_mem_map .bool _, nullFree_of_mem_map .text _, nullFree_of_mem_map .text _, List.forall_mem_nil _⟩

lemma nullFree_of_forall₂ {fs : List SchemaField} {items : List Json}
    (written : List.Forall₂ SchemaField.IsWrittenAs fs items) : ∀ item ∈ items, NullFree item := by
  induction written with
  | nil => exact List.forall_mem_nil _
  | cons first _ ih => exact List.forall_mem_cons.mpr ⟨first.nullFree, ih⟩

lemma Schema.IsWrittenAs.nullFree {s : Schema} {j : Json} (written : s.IsWrittenAs j) : NullFree j := by
  obtain ⟨items, fields, has⟩ := written
  apply HasExactly.nullFree has
  simp only [List.forall_mem_cons]
  exact ⟨nullFree_of_mem_map .text _, nullFree_of_mem_some (.text _), nullFree_of_mem_map .text _,
    nullFree_of_mem_some (.array (nullFree_of_forall₂ fields)), nullFree_of_mem_map .text _, nullFree_of_mem_map .text _,
    List.forall_mem_nil _⟩

/-! ### What is read -/

/-- Texts are read as they are. -/
lemma sorted_toJson_text (value : String) : (Shape.text.toJson value).sorted = .text value := by
  rw [Shape.toJson, sorted]

/-- So are flags. -/
lemma sorted_toJson_bool (value : Bool) : (Shape.bool.toJson value).sorted = .bool value := by
  rw [Shape.toJson, sorted]

/-- The name of a field type is written. -/
lemma FieldType.sorted_toJson (t : FieldType) : (FieldType.shape.toJson t.toVal).sorted = .text t.label := by
  have written : FieldType.shape.toJson t.toVal = .text t.label := by
    cases t <;> rfl
  rw [written, sorted]

/-- A field is written with its attributes. -/
lemma SchemaField.isWrittenAs_sorted (f : SchemaField) : f.IsWrittenAs (shape.toJson f.toVal).sorted := by
  have has : (shape.toJson f.toVal).sorted.HasExactly _ := Shape.hasExactly_record (by decide) f.toVal
  simp only [Fields.attributes, toVal, Presence.given?, List.map_cons, List.map_nil, Option.map_some,
    Option.map_map, Function.comp_def, sorted_toJson_text, sorted_toJson_bool, FieldType.sorted_toJson] at has
  exact has

/-- A schema is written with its attributes, and its fields with theirs. -/
lemma Schema.isWrittenAs_sorted (s : Schema) : s.IsWrittenAs s.toJson.sorted := by
  have has : (shape.toJson s.toVal).sorted.HasExactly _ := Shape.hasExactly_record (by decide) s.toVal
  have fields : ((Shape.list SchemaField.shape).toJson (s.fields.map SchemaField.toVal)).sorted =
      .array (s.fields.map fun f => (SchemaField.shape.toJson f.toVal).sorted) := by
    rw [Shape.toJson, sorted, sortedItems_eq, List.map_map, List.map_map]
    rfl
  simp only [Fields.attributes, toVal, Presence.given?, List.map_cons, List.map_nil, Option.map_some,
    Option.map_map, Function.comp_def, sorted_toJson_text, fields] at has
  refine ⟨_, ?_, has⟩
  rw [List.forall₂_map_right_iff, List.forall₂_same]
  exact fun f _ => f.isWrittenAs_sorted

/-- The text of a schema is that of one document. -/
lemma Schema.parse_print_sorted (s : Schema) : Json.parse (Utf8.ofString s.print) = .ok s.toJson.sorted := by
  have readable : isReadable maxLevels s.toJson = true :=
    Schema.shape.isReadable_toJson (by decide) (Schema.fits s.toVal)
  exact parse_ofString_print readable

/-! ### The schema of the single sign-on application -/

/-- A field with a name to display, and nothing that a directory adds, in order. -/
lemma SchemaField.sorted_plain (fieldName displayName : String) (fieldType : FieldType) (multiValued : Bool) :
    (shape.toJson (toVal { fieldName, fieldType, displayName := some displayName, multiValued })).sorted = .object
      [("displayName", .text displayName), ("fieldName", .text fieldName), ("fieldType", .text fieldType.label),
       ("multiValued", .bool multiValued)] := by
  have names : ["displayName", "fieldName", "fieldType", "multiValued"].Pairwise (· < ·) := by decide
  have written : shape.toJson (toVal { fieldName, fieldType, displayName := some displayName, multiValued }) = .object
      ([("fieldName", .text fieldName), ("fieldType", .text fieldType.label)] ++
        ("displayName", .text displayName) :: [("multiValued", .bool multiValued)]) := by
    cases fieldType <;> rfl
  rw [written]
  simp only [sorted, List.cons_append, List.nil_append, sortedMembers]
  exact ofMembers_eq_of_perm (@List.perm_middle _ _ [_, _] _) (List.pairwise_map.mp names)

/-- The schema of the single sign-on application is had back from its text, in order. -/
lemma Saml.parse_print_schema (name : String) :
    Json.parse (Utf8.ofString (schema name).print) = .ok (.object
      [("displayName", .text name),
       ("fields", .array
         [.object [("displayName", .text "Role"), ("fieldName", .text "IAM_Role"),
            ("fieldType", .text "STRING"), ("multiValued", .bool true)],
          .object [("displayName", .text "SessionDuration"), ("fieldName", .text "SessionDuration"),
            ("fieldType", .text "INT64"), ("multiValued", .bool false)]]),
       ("schemaName", .text name)]) := by
  have names : ["displayName", "fields", "schemaName"].Pairwise (· < ·) := by decide
  have written : (schema name).toJson = .object
      [("schemaName", .text name), ("displayName", .text name), ("fields", .array
        [SchemaField.shape.toJson (SchemaField.toVal
          { fieldName := "IAM_Role", fieldType := .string, displayName := some "Role", multiValued := true }),
         SchemaField.shape.toJson (SchemaField.toVal
          { fieldName := "SessionDuration", fieldType := .int64, displayName := some "SessionDuration",
            multiValued := false })])] := rfl
  rw [Schema.parse_print_sorted, written]
  simp only [sorted, sortedMembers, sortedItems, SchemaField.sorted_plain]
  exact congrArg Except.ok
    (ofMembers_eq_of_perm (@List.perm_append_comm _ [_] [_, _]) (List.pairwise_map.mp names))

end WorkspaceSchema
