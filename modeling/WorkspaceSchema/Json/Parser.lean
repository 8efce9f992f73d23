import WorkspaceSchema.Json.Container

/-!
# Reading documents

`Json.parse` reads a text as one document.  Containers may be nested 127 deep; of members with one
name the last wins.
-/

namespace WorkspaceSchema.Json

/-- Reads a value, with containers nested less than `levels` deep. -/
def Reading.value : Nat → Reading Json
  | 0 => refuseNext .nestedTooDeeply
  | levels + 1 => do
    match ← peekToken with
    | none => refuseNext .endInValue
    | some 0x6E => skip 1; keyword [0x75, 0x6C, 0x6C]; return .null
    | some 0x74 => skip 1; keyword [0x72, 0x75, 0x65]; return .bool true
    | some 0x66 => skip 1; keyword [0x61, 0x6C, 0x73, 0x65]; return .bool false
    | some 0x22 => skip 1; return .text (← textBody)
    | some 0x2D => skip 1; return .number (← number true)
    | some 0x5B =>
      enter levels
      let all ← items (value levels)
      closeList
      return .array all
    | some 0x7B =>
      enter levels
      let all ← members (fun name read => do
        colon
        let v ← value levels
        return insertMember name v read) []
      closeObject
      return .object all
    | some b => if isDigit b then return .number (← number false) else refuseNext .expectedValue

/-- Reads a text as one document. -/
def parse (bytes : List UInt8) : Except Error Json :=
  (Reading.value maxLevels).whole bytes

end WorkspaceSchema.Json
