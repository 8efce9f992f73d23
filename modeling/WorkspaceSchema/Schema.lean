import WorkspaceSchema.Json.Shape.Document
import WorkspaceSchema.Json.Shape.Reader

/-!
# Custom user schemas

A schema adds fields to the users of a customer.  This file holds schemas, their fields, the list a
directory answers with, and the shapes in which all of them travel.
-/

namespace WorkspaceSchema

/-- The type of a field. -/
inductive FieldType where
  | string
  | int64
  | bool
  | double
  | email
  | phone
  | date
deriving DecidableEq, Inhabited

/-- A field of a schema. -/
structure SchemaField where
  fieldId : Option String := none
  fieldName : String := ""
  fieldType : FieldType := .string
  displayName : Option String := none
  multiValued : Bool := false
  readAccessType : Option String := none
  indexed : Option Bool := none
  kind : Option String := none
  etag : Option String := none
deriving DecidableEq, Inhabited

/-- A schema. -/
structure Schema where
  schemaId : Option String := none
  schemaName : String := ""
  displayName : Option String := none
  fields : List SchemaField := []
  kind : Option String := none
  etag : Option String := none
deriving DecidableEq, Inhabited

/-- The schemas of a customer, as a directory lists them. -/
structure SchemaList where
  schemas : List Schema := []
  kind : Option String := none
  etag : Option String := none
deriving DecidableEq, Inhabited

/-! ### Field types -/

namespace FieldType

/-- All field types, in their order. -/
def all : List FieldType :=
  [.string, .int64, .bool, .double, .email, .phone, .date]

/-- The shape of a field type: its name. -/
@[reducible] def shape : Json.Shape :=
  .choice "STRING" ["INT64", "BOOL", "DOUBLE", "EMAIL", "PHONE", "DATE"]

/-- The field type at a place. -/
def ofVal (v : shape.Val) : FieldType :=
  all.get v

/-- The place of a field type. -/
def toVal : FieldType → shape.Val
  | .string => (0 : Fin 7)
  | .int64 => (1 : Fin 7)
  | .bool => (2 : Fin 7)
  | .double => (3 : Fin 7)
  | .email => (4 : Fin 7)
  | .phone => (5 : Fin 7)
  | .date => (6 : Fin 7)

theorem ofVal_toVal (t : FieldType) : ofVal t.toVal = t := by
  cases t <;> rfl

end FieldType

/-! ### Fields -/

namespace SchemaField

/-- A field of this name and type. -/
def new (fieldName : String) (fieldType : FieldType) : SchemaField :=
  { fieldName, fieldType }

/-- The shape of a field. -/
@[reducible] def shape : Json.Shape :=
  .record "SchemaField"
    (.cons "fieldId" .optional .text
    (.cons "fieldName" .required .text
    (.cons "fieldType" .required FieldType.shape
    (.cons "displayName" .optional .text
    (.cons "multiValued" .defaulted .bool
    (.cons "readAccessType" .optional .text
    (.cons "indexed" .optional .bool
    (.cons "kind" .optional .text
    (.cons "etag" .optional .text .nil)))))))))

/-- The field that a value of the shape describes. -/
def ofVal : shape.Val → SchemaField
  | (fieldId, fieldName, fieldType, displayName, multiValued, readAccessType, indexed, kind, etag, ()) =>
    { fieldId, fieldName, fieldType := .ofVal fieldType, displayName, multiValued, readAccessType,
      indexed, kind, etag }

/-- A field as a value of the shape. -/
def toVal (f : SchemaField) : shape.Val :=
  (f.fieldId, f.fieldName, f.fieldType.toVal, f.displayName, f.multiValued, f.readAccessType,
    f.indexed, f.kind, f.etag, ())

theorem ofVal_toVal (f : SchemaField) : ofVal f.toVal = f := by
  simp only [ofVal, toVal, FieldType.ofVal_toVal]

end SchemaField

/-! ### Schemas -/

namespace Schema

/-- A schema of this name without fields. -/
def new (schemaName : String) : Schema :=
  { schemaName }

/-- The shape of a schema. -/
@[reducible] def shape : Json.Shape :=
  .record "Schema"
    (.cons "schemaId" .optional .text
    (.cons "schemaName" .required .text
    (.cons "displayName" .optional .text
    (.cons "fields" .defaulted (.list SchemaField.shape)
    (.cons "kind" .optional .text
    (.cons "etag" .optional .text .nil))))))

/-- The schema that a value of the shape describes. -/
def ofVal : shape.Val → Schema
  | (schemaId, schemaName, displayName, fields, kind, etag, ()) =>
    { schemaId, schemaName, displayName, fields := fields.map SchemaField.ofVal, kind, etag }

/-- A schema as a value of the shape. -/
def toVal (s : Schema) : shape.Val :=
  (s.schemaId, s.schemaName, s.displayName, s.fields.map SchemaField.toVal, s.kind, s.etag, ())

theorem ofVal_toVal (s : Schema) : ofVal s.toVal = s := by
  have h : SchemaField.ofVal ∘ SchemaField.toVal = id := funext SchemaField.ofVal_toVal
  simp only [ofVal, toVal, List.map_map, h, List.map_id]

/-- The document of a schema. -/
def toJson (s : Schema) : Json :=
  shape.toJson s.toVal

end Schema

/-! ### Lists of schemas -/

namespace SchemaList

/-- The shape of a list of schemas. -/
@[reducible] def shape : Json.Shape :=
  .record "ListSchemasResponse"
    (.cons "schemas" .defaulted (.list Schema.shape)
    (.cons "kind" .optional .text
    (.cons "etag" .optional .text .nil)))

/-- The list that a value of the shape describes. -/
def ofVal : shape.Val → SchemaList
  | (schemas, kind, etag, ()) => { schemas := schemas.map Schema.ofVal, kind, etag }

/-- A list as a value of the shape. -/
def toVal (l : SchemaList) : shape.Val :=
  (l.schemas.map Schema.toVal, l.kind, l.etag, ())

theorem ofVal_toVal (l : SchemaList) : ofVal l.toVal = l := by
  have h : Schema.ofVal ∘ Schema.toVal = id := funext Schema.ofVal_toVal
  simp only [ofVal, toVal, List.map_map, h, List.map_id]

end SchemaList

/-! ### Reading and writing

Each of the four types is read from the bytes of a text and written as the text of a document. -/

/-- Reads a field type. -/
def FieldType.parse (bytes : List UInt8) : Except Json.Error FieldType :=
  (FieldType.shape.parse bytes).map .ofVal

/-- The text of a field type. -/
def FieldType.print (t : FieldType) : String :=
  (FieldType.shape.toJson t.toVal).print

/-- Reads a field. -/
def SchemaField.parse (bytes : List UInt8) : Except Json.Error SchemaField :=
  (SchemaField.shape.parse bytes).map .ofVal

/-- The text of a field. -/
def SchemaField.print (f : SchemaField) : String :=
  (SchemaField.shape.toJson f.toVal).print

/-- Reads a schema. -/
def Schema.parse (bytes : List UInt8) : Except Json.Error Schema :=
  (Schema.shape.parse bytes).map .ofVal

/-- Takes a schema from a document. -/
def Schema.ofJson (j : Json) : Except Json.Reason Schema :=
  (Schema.shape.ofJson j).map .ofVal

/-- The text of a schema. -/
def Schema.print (s : Schema) : String :=
  s.toJson.print

/-- Reads a list of schemas. -/
def SchemaList.parse (bytes : List UInt8) : Except Json.Error SchemaList :=
  (SchemaList.shape.parse bytes).map .ofVal

/-- The text of a list of schemas. -/
def SchemaList.print (l : SchemaList) : String :=
  (SchemaList.shape.toJson l.toVal).print

end WorkspaceSchema
