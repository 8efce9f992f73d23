import WorkspaceSchema.Json.Shape

/-!
# Reading a text by its shape

`Shape.read` reads a value of a given shape straight from the text, so that a refusal can say where
in the text the value went wrong.  A value of another kind is read as far as it takes to name it.

A fault of a record as a whole (a field that is missing or repeated, a list of the wrong length) is
located where the record ends if its end is in sight, and where the fault was noticed otherwise.
-/

namespace WorkspaceSchema.Json

/-- The place after an attempt to take the closing brace. -/
def Cursor.pastObject (c : Cursor) : Cursor :=
  let c := c.skipBlanks
  if c.rest.head? = some 0x7D then c.next else c

/-- The place after an attempt to take the closing bracket, a comma before it included. -/
def Cursor.pastList (c : Cursor) : Cursor :=
  let c := c.skipBlanks
  match c.rest.head? with
  | some 0x5D => c.next
  | some 0x2C => c.next.skipBlanks
  | _ => c

namespace Reading

/-- Refuses an object as a whole. -/
def refuseObject {α : Type} (r : Reason) : Reading α := do
  throw ⟨r, some (← get).pastObject.position⟩

/-- Refuses a list as a whole. -/
def refuseList {α : Type} (r : Reason) : Reading α := do
  throw ⟨r, some (← get).pastList.position⟩

/-- Refuses the value ahead for its kind. -/
def refuseKind {α : Type} (expected : String) : Reading α := do
  match ← peek with
  | some 0x6E => skip 1; keyword [0x75, 0x6C, 0x6C]; refuse (.wrongType .null expected)
  | some 0x74 => skip 1; keyword [0x72, 0x75, 0x65]; refuse (.wrongType (.bool true) expected)
  | some 0x66 => skip 1; keyword [0x61, 0x6C, 0x73, 0x65]; refuse (.wrongType (.bool false) expected)
  | some 0x22 => skip 1; refuse (.wrongType (.text (← textBody)) expected)
  | some 0x2D => skip 1; refuse (.wrongType (.number (← number true)) expected)
  | some 0x5B => refuse (.wrongType .sequence expected)
  | some 0x7B => refuse (.wrongType .map expected)
  | some b =>
    if isDigit b then refuse (.wrongType (.number (← number false)) expected)
    else refuseNext .expectedValue
  | none => refuseNext .expectedValue

/-- Looks at the byte a value begins with. -/
def peekValue : Reading UInt8 := do
  match ← peekToken with
  | some b => return b
  | none => refuseNext .endInValue

/-- Reads a text. -/
def text (expected : String) : Reading String := do
  if (← peekValue) = 0x22 then
    skip 1
    textBody
  else refuseKind expected

/-- Reads a flag. -/
def flag : Reading Bool := do
  match ← peekValue with
  | 0x74 => skip 1; keyword [0x72, 0x75, 0x65]; return true
  | 0x66 => skip 1; keyword [0x61, 0x6C, 0x73, 0x65]; return false
  | _ => refuseKind "a boolean"

/-- Reads a whole number from `low` to `high`. -/
def wholeNumber (low high : Int) (expected : String) : Reading Int := do
  let b ← peekValue
  let value ←
    if b = 0x2D then do
      skip 1
      number true
    else if isDigit b then number false
    else refuseKind expected
  match value with
  | .integer i =>
    if low ≤ i && i ≤ high then return i else refuse (.wrongValue (.number value) expected)
  | .real _ => refuse (.wrongType (.number value) expected)

/-- Reads null. -/
def null : Reading Unit := do
  if (← peekValue) = 0x6E then
    skip 1
    keyword [0x75, 0x6C, 0x6C]
  else refuseKind "unit"

/-- Reads null, or what `inner` reads. -/
def nullable {α : Type} (inner : Reading α) : Reading (Option α) := do
  if (← peekToken) = some 0x6E then
    skip 1
    keyword [0x75, 0x6C, 0x6C]
    return none
  else return some (← inner)

/-- Reads the name of a choice. -/
def variantText (first : String) (others : List String) : Reading (Fin (others.length + 1)) := do
  let name ← text "variant identifier"
  match variant? first others name with
  | some place => return place
  | none => refuse (.unknownVariant name (variants first others))

/-- Looks for the quote before the name of a choice in an object. -/
def variantAhead : Reading Unit := do
  match ← peekToken with
  | some 0x22 => pure ()
  | some 0x7D => refuseNext .expectedValue
  | some _ => refuseNext .nameNotText
  | none => refuseNext .endInObject

/-- Reads a choice: its name, or an object with the name as its only member and null as value. -/
def choice (levels : Nat) (first : String) (others : List String) :
    Reading (Fin (others.length + 1)) := do
  match ← peekValue with
  | 0x22 => variantText first others
  | 0x7B =>
    enter (levels - 1)
    variantAhead
    let place ← variantText first others
    colon
    null
    match ← peekToken with
    | some 0x7D => skip 1; return place
    | some _ => refuse .expectedValue
    | none => refuse .endInObject
  | _ => refuseNext .expectedValue

/-- Reads the value of a field. -/
def slot {α : Type} (inner : Reading α) : (p : Presence) → Reading (p.Slot α)
  | .required => inner
  | .defaulted => inner
  | .optional => nullable inner
  | .omittable => nullable inner

end Reading

open Reading

mutual

/-- Reads a value of a shape, with containers nested less than `levels` deep. -/
def Shape.read : (s : Shape) → Nat → Reading s.Val
  | .text, _ => Reading.text "a string"
  | .bool, _ => flag
  | .int32, _ => Reading.wholeNumber int32Low int32High "i32"
  | .word64, _ => do
    let i ← Reading.wholeNumber 0 word64High "u64"
    return i.toNat
  | .choice first others, levels => Reading.choice levels first others
  | .list item, levels => do
    if (← peekValue) = 0x5B then
      enter (levels - 1)
      let all ← items (item.read (levels - 1))
      closeList
      return all
    else Reading.refuseKind "a sequence"
  | .record name fields, levels => do
    match ← peekValue with
    | 0x5B =>
      enter (levels - 1)
      let slots ← fields.readItems (levels - 1) (describeListed name fields.length) 0
      closeList
      return slots
    | 0x7B =>
      enter (levels - 1)
      let draft ← members (fields.readMember (levels - 1)) fields.draft
      match fields.complete draft with
      | .ok slots =>
        closeObject
        return slots
      | .error field => refuseObject (.missingField field)
    | _ => Reading.refuseKind ("struct " ++ name)

/-- Reads the value of a member, its name having been read. -/
def Fields.readMember : (f : Fields) → Nat → String → f.Draft → Reading f.Draft
  | .nil, _, _, draft => do
    colon
    skippedValue
    return draft
  | .cons field p s rest, levels, name, (value, others) => do
    if name = field then
      if value.isSome then refuseObject (.duplicateField field)
      else
        colon
        let v ← slot (s.read levels) p
        return (some v, others)
    else
      let others ← rest.readMember levels name others
      return (value, others)

/-- Reads the fields of a record from a list, `index` fields having been read. -/
def Fields.readItems : (f : Fields) → Nat → String → Nat → Reading f.Slots
  | .nil, _, _, _ => return ()
  | .cons _ p s rest, levels, expected, index => do
    if ← hasItem (index = 0) then
      let v ← slot (s.read levels) p
      return (v, ← rest.readItems levels expected (index + 1))
    else
      match p.unlisted? s.initial with
      | some v => return (v, ← rest.readItems levels expected (index + 1))
      | none => refuseList (.wrongLength index expected)

end

/-- Reads a whole text as a value of a shape. -/
def Shape.parse (s : Shape) (bytes : List UInt8) : Except Error s.Val :=
  Reading.whole (s.read maxLevels) bytes

end WorkspaceSchema.Json
