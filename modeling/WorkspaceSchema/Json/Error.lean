import WorkspaceSchema.Json.Printer
import WorkspaceSchema.Text.Quoted

/-!
# Why a document is refused

A document is refused for one reason, found at one place when it was read from text, and at no place
when it was taken from a document already read.
-/

namespace WorkspaceSchema.Json

/-- What was found where something else was expected. -/
inductive Found where
  | null
  | bool (value : Bool)
  | number (value : Number)
  | text (value : String)
  | sequence
  | map

/-- The reasons to refuse a document. -/
inductive Reason where
  | endInList
  | endInObject
  | endInText
  | endInValue
  | expectedColon
  | expectedListEnd
  | expectedObjectEnd
  | expectedKeyword
  | expectedValue
  | invalidEscape
  | invalidNumber
  | numberOutOfRange
  | invalidCharacter
  | controlCharacter
  | nameNotText
  | loneSurrogate
  | halfSurrogate
  | trailingComma
  | trailingCharacters
  | nestedTooDeeply
  | wrongType (found : Found) (expected : String)
  | wrongValue (found : Found) (expected : String)
  | wrongLength (length : Nat) (expected : String)
  | unknownVariant (name : String) (variants : List String)
  | missingField (name : String)
  | duplicateField (name : String)

/-- A place in a text: the line, counted from one, and the bytes passed in it. -/
structure Position where
  line : Nat
  column : Nat
deriving Repr, DecidableEq

/-- A refusal. -/
structure Error where
  reason : Reason
  position : Option Position

/-- What was found, in words. -/
def Found.describe : Found → String
  | .null => "null"
  | .bool value => "boolean `" ++ (if value then "true" else "false") ++ "`"
  | .number (.integer value) => "integer `" ++ String.ofList (renderInt value) ++ "`"
  | .number (.real value) => "floating point `" ++ String.ofList (renderReal value) ++ "`"
  | .text value => "string " ++ Text.quoted value
  | .sequence => "sequence"
  | .map => "map"

/-- A reason in words. -/
def Reason.message : Reason → String
  | .endInList => "EOF while parsing a list"
  | .endInObject => "EOF while parsing an object"
  | .endInText => "EOF while parsing a string"
  | .endInValue => "EOF while parsing a value"
  | .expectedColon => "expected `:`"
  | .expectedListEnd => "expected `,` or `]`"
  | .expectedObjectEnd => "expected `,` or `\x7d`"
  | .expectedKeyword => "expected ident"
  | .expectedValue => "expected value"
  | .invalidEscape => "invalid escape"
  | .invalidNumber => "invalid number"
  | .numberOutOfRange => "number out of range"
  | .invalidCharacter => "invalid unicode code point"
  | .controlCharacter => "control character (\\u0000-\\u001F) found while parsing a string"
  | .nameNotText => "key must be a string"
  | .loneSurrogate => "lone leading surrogate in hex escape"
  | .halfSurrogate => "unexpected end of hex escape"
  | .trailingComma => "trailing comma"
  | .trailingCharacters => "trailing characters"
  | .nestedTooDeeply => "recursion limit exceeded"
  | .wrongType found expected => "invalid type: " ++ found.describe ++ ", expected " ++ expected
  | .wrongValue found expected => "invalid value: " ++ found.describe ++ ", expected " ++ expected
  | .wrongLength length expected =>
    "invalid length " ++ String.ofList (Nat.toDigits 10 length) ++ ", expected " ++ expected
  | .unknownVariant name variants =>
    "unknown variant `" ++ name ++ "`, expected one of "
      ++ String.intercalate ", " (variants.map fun v => "`" ++ v ++ "`")
  | .missingField name => "missing field `" ++ name ++ "`"
  | .duplicateField name => "duplicate field `" ++ name ++ "`"

/-- A refusal in words, with its place if it has one. -/
def Error.message (e : Error) : String :=
  match e.position with
  | none => e.reason.message
  | some p =>
    e.reason.message ++ " at line " ++ String.ofList (Nat.toDigits 10 p.line) ++ " column "
      ++ String.ofList (Nat.toDigits 10 p.column)

end WorkspaceSchema.Json
