import WorkspaceSchema.Proofs.Json.Shape
import WorkspaceSchema.Schema

/-!
# Schemas as texts

Lists of schemas, schemas, fields and field types travel in shapes.  None of the shapes holds a number,
names a field twice or is nested deep, so whatever values there are can be read back from their texts
(`parse_print`), with every text as it was and every attribute that was left out still missing.
-/

namespace WorkspaceSchema

/-- That `parse` undoes `print`: the text of a value is read back as this value.  And a text that is
accepted, whoever wrote it, holds a value whose own text is accepted too, gives the same value, and is
printed for it once more. -/
structure Undoes {α : Type} (parse : List UInt8 → Except Json.Error α) (print : α → String) : Prop where
  written : ∀ a, parse (Utf8.ofString (print a)) = .ok a
  accepted : ∀ text a, parse text = .ok a →
    ∃ a', parse (Utf8.ofString (print a)) = .ok a' ∧ a' = a ∧ print a' = print a

/-- It is enough that the texts of values are read back. -/
lemma Undoes.of_written {α : Type} {parse : List UInt8 → Except Json.Error α} {print : α → String}
    (written : ∀ a, parse (Utf8.ofString (print a)) = .ok a) : Undoes parse print :=
  ⟨written, fun _ a _ => ⟨a, written a, rfl, rfl⟩⟩

/-! ### Values without numbers -/

lemma FieldType.fits (v : FieldType.shape.Val) : FieldType.shape.Fits v :=
  trivial

lemma SchemaField.fits (v : SchemaField.shape.Val) : SchemaField.shape.Fits v := by
  simp only [Json.Shape.Fits, Json.Fields.Fit, Json.Presence.Holds, implies_true, and_true]

lemma Schema.fits (v : Schema.shape.Val) : Schema.shape.Fits v := by
  simp only [Json.Shape.Fits, Json.Fields.Fit, Json.Presence.Holds, implies_true, and_true]

lemma SchemaList.fits (v : SchemaList.shape.Val) : SchemaList.shape.Fits v := by
  simp only [Json.Shape.Fits, Json.Fields.Fit, Json.Presence.Holds, implies_true, and_true]

/-! ### The four types -/

lemma FieldType.parse_print (t : FieldType) : FieldType.parse (Utf8.ofString t.print) = .ok t := by
  unfold FieldType.parse FieldType.print
  rw [Json.Shape.parse_print rfl (by decide) (FieldType.fits t.toVal)]
  exact congrArg Except.ok t.ofVal_toVal

lemma SchemaField.parse_print (f : SchemaField) :
    SchemaField.parse (Utf8.ofString f.print) = .ok f := by
  unfold SchemaField.parse SchemaField.print
  rw [Json.Shape.parse_print rfl (by decide) (SchemaField.fits f.toVal)]
  exact congrArg Except.ok f.ofVal_toVal

lemma Schema.parse_print (s : Schema) : Schema.parse (Utf8.ofString s.print) = .ok s := by
  unfold Schema.parse Schema.print Schema.toJson
  rw [Json.Shape.parse_print rfl (by decide) (Schema.fits s.toVal)]
  exact congrArg Except.ok s.ofVal_toVal

lemma SchemaList.parse_print (l : SchemaList) :
    SchemaList.parse (Utf8.ofString l.print) = .ok l := by
  unfold SchemaList.parse SchemaList.print
  rw [Json.Shape.parse_print rfl (by decide) (SchemaList.fits l.toVal)]
  exact congrArg Except.ok l.ofVal_toVal

/-- Reading undoes writing, for lists of schemas, schemas, fields and field types: whatever values they
hold, and whatever texts they were read from. -/
theorem parse_undoes_print :
    Undoes SchemaList.parse SchemaList.print ∧ Undoes Schema.parse Schema.print ∧
      Undoes SchemaField.parse SchemaField.print ∧ Undoes FieldType.parse FieldType.print :=
  ⟨.of_written SchemaList.parse_print, .of_written Schema.parse_print,
    .of_written SchemaField.parse_print, .of_written FieldType.parse_print⟩

end WorkspaceSchema
