import WorkspaceSchema.Json.Cursor

/-!
# Reading containers

The walk over a list or an object, common to every reader of documents, and the walk that passes
over a value without keeping it.

`items` and `members` are given what to do at each element; they stop in front of the closing
bracket, which `closeList` and `closeObject` take.  Passing over a value has its own walk: it follows
containers nested to any depth, and it names some faults differently.
-/

namespace WorkspaceSchema.Json

/-- The levels a reader of a whole text starts with: containers may be nested 127 deep. -/
def maxLevels : Nat := 128

namespace Reading

/-- Whether a further item is ahead in a list. -/
def hasItem (first : Bool) : Reading Bool := do
  match ← peekToken with
  | none => refuseNext .endInList
  | some 0x5D => return false
  | some 0x2C =>
    if first then return true
    else
      skip 1
      match ← peekToken with
      | none => refuseNext .endInValue
      | some 0x5D => refuseNext .trailingComma
      | some _ => return true
  | some _ => if first then return true else refuseNext .expectedListEnd

/-- Whether a further member is ahead in an object. -/
def hasMember (first : Bool) : Reading Bool := do
  match ← peekToken with
  | none => refuseNext .endInObject
  | some 0x7D => return false
  | some b =>
    if first then
      if b = 0x22 then return true else refuseNext .nameNotText
    else if b = 0x2C then
      skip 1
      match ← peekToken with
      | none => refuseNext .endInValue
      | some 0x22 => return true
      | some 0x7D => refuseNext .trailingComma
      | some _ => refuseNext .nameNotText
    else refuseNext .expectedObjectEnd

/-- Passes over the colon after a name. -/
def colon : Reading Unit := do
  match ← peekToken with
  | none => refuseNext .endInObject
  | some 0x3A => skip 1
  | some _ => refuseNext .expectedColon

/-- Reads a name, its quote ahead. -/
def memberName : Reading String := do
  skip 1
  textBody

/-- Takes the bracket that closes a list. -/
def closeList : Reading Unit := do
  match ← peekToken with
  | none => refuseNext .endInList
  | some 0x5D => skip 1
  | some 0x2C =>
    skip 1
    match ← peekToken with
    | some 0x5D => refuseNext .trailingComma
    | _ => refuseNext .trailingCharacters
  | some _ => refuseNext .trailingCharacters

/-- Takes the brace that closes an object. -/
def closeObject : Reading Unit := do
  match ← peekToken with
  | none => refuseNext .endInObject
  | some 0x7D => skip 1
  | some 0x2C => refuseNext .trailingComma
  | some _ => refuseNext .trailingCharacters

/-- Reads the items of a list with `item`.  Every item but the last is followed by a comma, so the
bytes left bound the number of rounds. -/
def itemsFrom {α : Type} (item : Reading α) : Nat → Bool → Reading (List α)
  | 0, _ => return []
  | rounds + 1, first => do
    if ← hasItem first then
      let a ← item
      return a :: (← itemsFrom item rounds false)
    else return []

/-- Reads the items of a list whose bracket has been passed. -/
def items {α : Type} (item : Reading α) : Reading (List α) := do
  itemsFrom item ((← get).rest.length + 1) true

/-- Reads the members of an object, each by `member` at its name, which carries a state along. -/
def membersFrom {σ : Type} (member : String → σ → Reading σ) : Nat → Bool → σ → Reading σ
  | 0, _, s => return s
  | rounds + 1, first, s => do
    if ← hasMember first then
      let name ← memberName
      membersFrom member rounds false (← member name s)
    else return s

/-- Reads the members of an object whose brace has been passed. -/
def members {σ : Type} (member : String → σ → Reading σ) (s : σ) : Reading σ := do
  membersFrom member ((← get).rest.length + 1) true s

/-- Enters a container: refuses the bracket ahead when no level is left, and passes over it
otherwise. -/
def enter (levels : Nat) : Reading Unit := do
  if levels = 0 then refuseNext .nestedTooDeeply else skip 1

/-! ### Passing over a value -/

/-- Passes over a number whose sign has been passed. -/
def skippedNumber : Reading Unit := do
  match ← peek with
  | none => refuseAfter 1 .invalidNumber
  | some b =>
    if !isDigit b then refuseAfter 1 .invalidNumber
    else
      let digits ← digitsAhead
      if b = 0x30 && 1 < digits.length then
        skip 1
        refuseNext .invalidNumber
      else
        skip digits.length
        if (← peek) = some 0x2E then
          skip 1
          let fraction ← digitsAhead
          if fraction.isEmpty then refuseNext .invalidNumber else skip fraction.length
        match ← peek with
        | some 0x65 | some 0x45 =>
          skip 1
          match ← peek with
          | some 0x2B | some 0x2D => skip 1
          | _ => pure ()
          let exponent ← digitsAhead
          if exponent.isEmpty then refuseAfter 1 .invalidNumber else skip exponent.length
        | _ => pure ()

mutual

/-- Passes over a value. -/
def skippedValueFrom : Nat → Reading Unit
  | 0 => pure ()
  | rounds + 1 => do
    match ← peekToken with
    | none => refuseNext .endInValue
    | some 0x6E => skip 1; keyword [0x75, 0x6C, 0x6C]
    | some 0x74 => skip 1; keyword [0x72, 0x75, 0x65]
    | some 0x66 => skip 1; keyword [0x61, 0x6C, 0x73, 0x65]
    | some 0x22 => skip 1; skippedTextBody
    | some 0x2D => skip 1; skippedNumber
    | some 0x5B =>
      skip 1
      match ← peekToken with
      | none => refuseNext .endInList
      | some 0x5D => skip 1
      | some _ =>
        skippedValueFrom rounds
        skippedItemsFrom rounds
    | some 0x7B =>
      skip 1
      match ← peekToken with
      | none => refuseNext .endInObject
      | some 0x7D => skip 1
      | some _ => skippedMembersFrom rounds
    | some b => if isDigit b then skippedNumber else refuseNext .expectedValue

/-- Passes over the items of a list after an item. -/
def skippedItemsFrom : Nat → Reading Unit
  | 0 => pure ()
  | rounds + 1 => do
    match ← peekToken with
    | none => refuseNext .endInList
    | some 0x5D => skip 1
    | some 0x2C =>
      skip 1
      skippedValueFrom rounds
      skippedItemsFrom rounds
    | some _ => refuseNext .expectedListEnd

/-- Passes over the members of an object, a name being ahead. -/
def skippedMembersFrom : Nat → Reading Unit
  | 0 => pure ()
  | rounds + 1 => do
    match ← peekToken with
    | none => refuseNext .endInObject
    | some 0x22 => skip 1
    | some _ => refuseNext .nameNotText
    skippedTextBody
    colon
    skippedValueFrom rounds
    match ← peekToken with
    | none => refuseNext .endInObject
    | some 0x7D => skip 1
    | some 0x2C =>
      skip 1
      skippedMembersFrom rounds
    | some _ => refuseNext .expectedObjectEnd

end

/-- Passes over a value.  A bracket or a comma is passed at least once in two rounds. -/
def skippedValue : Reading Unit := do
  skippedValueFrom (2 * (← get).rest.length + 2)

/-- Refuses anything but blanks up to the end. -/
def finish : Reading Unit := do
  match ← peekToken with
  | none => pure ()
  | some _ => refuseNext .trailingCharacters

/-- Reads a whole text. -/
def whole {α : Type} (r : Reading α) (bytes : List UInt8) : Except Error α :=
  Except.map Prod.fst (StateT.run (do let a ← r; finish; return a) (Cursor.start bytes))

end Reading

end WorkspaceSchema.Json
