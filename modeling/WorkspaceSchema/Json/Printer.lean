import WorkspaceSchema.Json.Value

/-!
# Printing documents

The compact text of a document: no blanks, members in their order, control characters escaped and
everything else written as it is.  A double is written with the fewest digits that read back.
-/

namespace WorkspaceSchema.Json

/-- A digit in lower-case hexadecimal. -/
def hexDigit (n : Nat) : Char :=
  if n < 10 then Char.ofNat (48 + n) else Char.ofNat (87 + n)

/-- One character inside quotes. -/
def escapeChar (c : Char) : List Char :=
  match c with
  | '"' => ['\\', '"']
  | '\\' => ['\\', '\\']
  | '\n' => ['\\', 'n']
  | '\r' => ['\\', 'r']
  | '\t' => ['\\', 't']
  | '\x08' => ['\\', 'b']
  | '\x0c' => ['\\', 'f']
  | _ =>
    if c.toNat < 0x20 then ['\\', 'u', '0', '0', hexDigit (c.toNat / 16), hexDigit (c.toNat % 16)]
    else [c]

/-- A text between quotes. -/
def renderText (s : String) : List Char :=
  '"' :: s.toList.flatMap escapeChar ++ ['"']

/-- Doubles are written in place from `0.00001` up to sixteen digits before the point. -/
def realLayout : Decimal.Layout := ⟨-5, 15⟩

/-- The text of a double.  Zero keeps its sign; a document holds no infinite number. -/
def renderReal (x : Float) : List Char :=
  let magnitude := match Decimal.ofBits? x.toBits with
    | some digits => realLayout.render digits
    | none => ['0', '.', '0']
  if x.toBits < 0x8000000000000000 then magnitude else '-' :: magnitude

/-- The text of a whole number. -/
def renderInt (i : Int) : List Char :=
  if i < 0 then '-' :: Nat.toDigits 10 i.natAbs else Nat.toDigits 10 i.natAbs

/-- The text of a number. -/
def renderNumber : Number → List Char
  | .integer i => renderInt i
  | .real x => renderReal x

mutual

/-- The text of a document. -/
def render : Json → List Char
  | .null => ['n', 'u', 'l', 'l']
  | .bool true => ['t', 'r', 'u', 'e']
  | .bool false => ['f', 'a', 'l', 's', 'e']
  | .number n => renderNumber n
  | .text s => renderText s
  | .array [] => ['[', ']']
  | .array (item :: items) => '[' :: render item ++ renderItems items
  | .object [] => ['\x7b', '\x7d']
  | .object ((name, value) :: members) =>
    '\x7b' :: renderText name ++ ':' :: render value ++ renderMembers members

/-- The text of the items after the first, with the closing bracket. -/
def renderItems : List Json → List Char
  | [] => [']']
  | item :: items => ',' :: render item ++ renderItems items

/-- The text of the members after the first, with the closing brace. -/
def renderMembers : List (String × Json) → List Char
  | [] => ['\x7d']
  | (name, value) :: members =>
    ',' :: renderText name ++ ':' :: render value ++ renderMembers members

end

/-- The compact text of a document. -/
def print (j : Json) : String :=
  String.ofList (render j)

end WorkspaceSchema.Json
