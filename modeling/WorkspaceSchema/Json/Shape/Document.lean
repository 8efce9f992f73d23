import WorkspaceSchema.Json.Shape
import WorkspaceSchema.Json.Printer

/-!
# Shapes and documents

`Shape.ofJson` takes a value of a shape from a document that has been read, and `Shape.toJson` turns
a value back into a document.  A refusal has no place.  In writing, an optional field without a
value is left out, and every other field is written, in the order of the record.
-/

namespace WorkspaceSchema.Json

/-- What a document is, for a refusal. -/
def found : Json → Found
  | .null => .null
  | .bool value => .bool value
  | .number value => .number value
  | .text value => .text value
  | .array _ => .sequence
  | .object _ => .map

/-- Refuses a document for its kind. -/
def refuseKind {α : Type} (j : Json) (expected : String) : Except Reason α :=
  .error (.wrongType j.found expected)

/-- A whole number from `low` to `high`. -/
def wholeNumber (low high : Int) (expected : String) (j : Json) : Except Reason Int :=
  match j with
  | .number (.integer i) =>
    if low ≤ i && i ≤ high then .ok i else .error (.wrongValue j.found expected)
  | _ => refuseKind j expected

/-- The place of a name among the names of a choice. -/
def variantOf (first : String) (others : List String) (name : String) :
    Except Reason (Fin (others.length + 1)) :=
  match variant? first others name with
  | some place => .ok place
  | none => .error (.unknownVariant name (variants first others))

/-- A choice: its name, or an object with the name as its only member and null as value. -/
def choiceOf (first : String) (others : List String) : Json → Except Reason (Fin (others.length + 1))
  | .text name => variantOf first others name
  | .object [(name, value)] => do
    let place ← variantOf first others name
    match value with
    | .null => return place
    | _ => refuseKind value "unit"
  | .object _ => .error (.wrongValue .map "map with a single key")
  | j => refuseKind j "string or map"

/-- The value of a field. -/
def slotOf {α : Type} (inner : Json → Except Reason α) (j : Json) :
    (p : Presence) → Except Reason (p.Slot α)
  | .required => inner j
  | .defaulted => inner j
  | .optional => match j with
    | .null => .ok none
    | _ => (inner j).map some
  | .omittable => match j with
    | .null => .ok none
    | _ => (inner j).map some

mutual

/-- The value of a shape that a document gives. -/
def Shape.ofJson : (s : Shape) → Json → Except Reason s.Val
  | .text, j => match j with
    | .text value => .ok value
    | _ => refuseKind j "a string"
  | .bool, j => match j with
    | .bool value => .ok value
    | _ => refuseKind j "a boolean"
  | .int32, j => wholeNumber int32Low int32High "i32" j
  | .word64, j => (wholeNumber 0 word64High "u64" j).map Int.toNat
  | .choice first others, j => choiceOf first others j
  | .list item, j => match j with
    | .array items => items.mapM (item.ofJson ·)
    | _ => refuseKind j "a sequence"
  | .record name fields, j => match j with
    | .array items =>
      fields.ofItems (describeListed name fields.length) items.length 0 items
    | .object given => do
      let draft ← given.foldlM (fun draft m => fields.ofMember m.1 m.2 draft) fields.draft
      match fields.complete draft with
      | .ok slots => return slots
      | .error field => .error (.missingField field)
    | _ => refuseKind j ("struct " ++ name)

/-- Takes up a member. -/
def Fields.ofMember : (f : Fields) → String → Json → f.Draft → Except Reason f.Draft
  | .nil, _, _, draft => .ok draft
  | .cons field p s rest, name, j, (value, others) =>
    if name = field then
      if value.isSome then .error (.duplicateField field)
      else do
        let v ← slotOf (s.ofJson ·) j p
        return (some v, others)
    else do
      let others ← rest.ofMember name j others
      return (value, others)

/-- The fields of a record from the items of a list, `index` of `total` having been taken. -/
def Fields.ofItems :
    (f : Fields) → String → Nat → Nat → List Json → Except Reason f.Slots
  | .nil, _, total, _, rest =>
    if rest.isEmpty then .ok () else .error (.wrongLength total "fewer elements in array")
  | .cons _ p s rest, expected, total, index, items =>
    match items with
    | j :: later => do
      let v ← slotOf (s.ofJson ·) j p
      return (v, ← rest.ofItems expected total (index + 1) later)
    | [] =>
      match p.unlisted? s.initial with
      | some v => do return (v, ← rest.ofItems expected total (index + 1) [])
      | none => .error (.wrongLength index expected)

end

/-- What is written for a field; nothing for an optional one without a value. -/
def slotMember {α : Type} (name : String) (write : α → Json) :
    (p : Presence) → p.Slot α → List (String × Json)
  | .required, v => [(name, write v)]
  | .defaulted, v => [(name, write v)]
  | .optional, v => match v with
    | none => []
    | some v => [(name, write v)]
  | .omittable, v => match v with
    | none => []
    | some v => [(name, write v)]

mutual

/-- The document of a value. -/
def Shape.toJson : (s : Shape) → s.Val → Json
  | .text, v => .text v
  | .bool, v => .bool v
  | .int32, v => .number (.integer v)
  | .word64, v => .number (.integer (Int.ofNat v))
  | .choice first others, v => .text (variantName first others v)
  | .list item, v => .array (v.map (item.toJson ·))
  | .record _ fields, v => .object (fields.toMembers v)

/-- The members of a record. -/
def Fields.toMembers : (f : Fields) → f.Slots → List (String × Json)
  | .nil, _ => []
  | .cons name p s rest, (v, others) =>
    slotMember name (s.toJson ·) p v ++ rest.toMembers others

end

end WorkspaceSchema.Json
