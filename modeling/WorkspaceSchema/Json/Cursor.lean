import WorkspaceSchema.Json.Error
import WorkspaceSchema.Text.Utf8

/-!
# Reading from bytes

A `Cursor` is what is left of a text with the place reached in it.  Readers are functions on the
cursor that may refuse (`Reading`); a refusal is located at the place reached, or one byte further
when the byte just ahead is to blame.

The lexical readers follow: blanks, keywords, texts and numbers.  A text body is read by structural
recursion over the bytes, and reports how many bytes it took; the place is then moved by that many.
-/

namespace WorkspaceSchema.Json

/-- The bytes not yet read, and the place reached. -/
structure Cursor where
  rest : List UInt8
  line : Nat
  column : Nat

namespace Cursor

/-- The beginning of a text. -/
def start (bytes : List UInt8) : Cursor :=
  ⟨bytes, 1, 0⟩

/-- The place reached. -/
def position (c : Cursor) : Position :=
  ⟨c.line, c.column⟩

/-- Passes over one byte, if there is one; a line feed begins a new line. -/
def next (c : Cursor) : Cursor :=
  match c.rest with
  | [] => c
  | b :: rest => if b = 0x0A then ⟨rest, c.line + 1, 0⟩ else ⟨rest, c.line, c.column + 1⟩

/-- Passes over `n` bytes. -/
def advance (c : Cursor) : Nat → Cursor
  | 0 => c
  | n + 1 => c.next.advance n

/-- The four blanks of a document. -/
def isBlank (b : UInt8) : Bool :=
  b = 0x20 || b = 0x0A || b = 0x09 || b = 0x0D

/-- Passes over the blanks ahead. -/
def skipBlanks (c : Cursor) : Cursor :=
  c.advance (c.rest.takeWhile isBlank).length

end Cursor

/-- A reader: it takes a value off the cursor, or refuses. -/
abbrev Reading := StateT Cursor (Except Error)

namespace Reading

/-- The byte ahead. -/
def peek : Reading (Option UInt8) := do
  return (← get).rest.head?

/-- Passes over `n` bytes. -/
def skip (n : Nat) : Reading Unit :=
  modify fun c => c.advance n

/-- Passes over blanks and looks at the byte ahead. -/
def peekToken : Reading (Option UInt8) := do
  modify Cursor.skipBlanks
  peek

/-- Refuses at the place reached. -/
def refuse {α : Type} (r : Reason) : Reading α := do
  throw ⟨r, some (← get).position⟩

/-- Refuses at the byte ahead. -/
def refuseNext {α : Type} (r : Reason) : Reading α := do
  throw ⟨r, some (← get).next.position⟩

/-- Passes over the letters of a keyword. -/
def keyword : List UInt8 → Reading Unit
  | [] => pure ()
  | letter :: letters => do
    match ← peek with
    | none => refuse .endInValue
    | some b =>
      skip 1
      if b = letter then keyword letters else refuse .expectedKeyword

end Reading

/-! ### Texts -/

/-- The value of a hexadecimal digit. -/
def hexValue? (b : UInt8) : Option Nat :=
  if 0x30 ≤ b && b ≤ 0x39 then some (b.toNat - 0x30)
  else if 0x41 ≤ b && b ≤ 0x46 then some (b.toNat - 0x41 + 10)
  else if 0x61 ≤ b && b ≤ 0x66 then some (b.toNat - 0x61 + 10)
  else none

/-- The value of four hexadecimal digits, or the reason there are none together with the number of
bytes passed: all of them when fewer than four are left. -/
def hexUnit (bytes : List UInt8) : Except (Reason × Nat) Nat :=
  match bytes with
  | a :: b :: c :: d :: _ =>
    match hexValue? a, hexValue? b, hexValue? c, hexValue? d with
    | some w, some x, some y, some z => .ok (((w * 16 + x) * 16 + y) * 16 + z)
    | _, _, _, _ => .error (.invalidEscape, 4)
  | short => .error (.endInText, short.length)

/-- The byte that a one-letter escape stands for. -/
def shortEscape? (b : UInt8) : Option UInt8 :=
  if b = 0x22 || b = 0x5C || b = 0x2F then some b
  else if b = 0x62 then some 0x08
  else if b = 0x66 then some 0x0C
  else if b = 0x6E then some 0x0A
  else if b = 0x72 then some 0x0D
  else if b = 0x74 then some 0x09
  else none

/-- The second half of a surrogate pair, with the bytes taken.  `bytes` follows the first half. -/
def secondSurrogate (bytes : List UInt8) : Except (Reason × Nat) Nat :=
  match bytes with
  | [] => .error (.endInText, 0)
  | 0x5C :: [] => .error (.endInText, 1)
  | 0x5C :: 0x75 :: digits =>
    match hexUnit digits with
    | .error (r, n) => .error (r, n + 2)
    | .ok unit => if 0xDC00 ≤ unit && unit ≤ 0xDFFF then .ok unit else .error (.loneSurrogate, 6)
  | 0x5C :: _ => .error (.halfSurrogate, 2)
  | _ => .error (.halfSurrogate, 1)

/-- Shifts the number of bytes passed before a refusal. -/
def shiftRefusal {α : Type} (n : Nat) : Except (Reason × Nat) α → Except (Reason × Nat) α
  | .error (r, m) => .error (r, n + m)
  | .ok a => .ok a

/-- What an escape stands for, and the bytes it takes after the backslash. -/
def escape (bytes : List UInt8) : Except (Reason × Nat) (List UInt8 × Nat) :=
  match bytes with
  | [] => .error (.endInText, 0)
  | 0x75 :: digits => shiftRefusal 1 do
    let unit ← hexUnit digits
    if 0xDC00 ≤ unit && unit ≤ 0xDFFF then .error (.loneSurrogate, 4)
    else if 0xD800 ≤ unit && unit ≤ 0xDBFF then
      let second ← shiftRefusal 4 (secondSurrogate (digits.drop 4))
      let scalar := (unit - 0xD800) * 0x400 + (second - 0xDC00) + 0x10000
      return (String.utf8EncodeChar (Char.ofNat scalar), 11)
    else return (String.utf8EncodeChar (Char.ofNat unit), 5)
  | b :: _ =>
    match shortEscape? b with
    | some meaning => .ok ([meaning], 1)
    | none => .error (.invalidEscape, 1)

/-- The bytes of an escape that is only to be passed over: surrogates need not pair up. -/
def skippedEscape (bytes : List UInt8) : Except (Reason × Nat) Nat :=
  match bytes with
  | [] => .error (.endInText, 0)
  | 0x75 :: digits => shiftRefusal 1 ((hexUnit digits).map fun _ => 5)
  | b :: _ => if (shortEscape? b).isSome then .ok 1 else .error (.invalidEscape, 1)

/-- Reads a text body up to its closing quote, after passing over `skip` bytes that an escape has
taken.  `taken` counts the bytes passed; the answer is the bytes of the text and the final count. -/
def textFrom : Nat → Nat → List UInt8 → Except (Reason × Nat) (List UInt8 × Nat)
  | _, taken, [] => .error (.endInText, taken)
  | skip + 1, taken, _ :: rest => textFrom skip (taken + 1) rest
  | 0, taken, b :: rest =>
    if b = 0x22 then .ok ([], taken + 1)
    else if b = 0x5C then do
      let (meaning, n) ← shiftRefusal (taken + 1) (escape rest)
      let (body, total) ← textFrom n (taken + 1) rest
      return (meaning ++ body, total)
    else if b < 0x20 then .error (.controlCharacter, taken + 1)
    else do
      let (body, total) ← textFrom 0 (taken + 1) rest
      return (b :: body, total)

/-- Passes over a text body, as `textFrom` reads it. -/
def skippedTextFrom : Nat → Nat → List UInt8 → Except (Reason × Nat) Nat
  | _, taken, [] => .error (.endInText, taken)
  | skip + 1, taken, _ :: rest => skippedTextFrom skip (taken + 1) rest
  | 0, taken, b :: rest =>
    if b = 0x22 then .ok (taken + 1)
    else if b = 0x5C then do
      let n ← shiftRefusal (taken + 1) (skippedEscape rest)
      skippedTextFrom n (taken + 1) rest
    else if b < 0x20 then .error (.controlCharacter, taken)
    else skippedTextFrom 0 (taken + 1) rest

namespace Reading

/-- Refuses after passing over `n` more bytes. -/
def refuseAfter {α : Type} (n : Nat) (r : Reason) : Reading α := do
  skip n
  refuse r

/-- Reads the rest of a text whose opening quote has been passed.  Its bytes have to be UTF-8; those
from the first wrong one on are counted back from the closing quote. -/
def textBody : Reading String := do
  match textFrom 0 0 (← get).rest with
  | .error (r, n) => refuseAfter n r
  | .ok (body, taken) =>
    match Utf8.invalidIndex? body with
    | some i => refuseAfter (taken - (body.length - i)) .invalidCharacter
    | none =>
      skip taken
      return Utf8.decodeLossy body

/-- Passes over the rest of a text whose opening quote has been passed. -/
def skippedTextBody : Reading Unit := do
  match skippedTextFrom 0 0 (← get).rest with
  | .error (r, n) => refuseAfter n r
  | .ok taken => skip taken

end Reading

/-! ### Numbers -/

/-- A decimal digit. -/
def isDigit (b : UInt8) : Bool :=
  0x30 ≤ b && b ≤ 0x39

/-- The value of a decimal digit. -/
def digitValue (b : UInt8) : Nat :=
  b.toNat - 0x30

/-- Significands are below this: they fit 64 bits. -/
def significandLimit : Nat := 18446744073709551616

/-- The greatest magnitude of a negative whole number that fits 64 bits. -/
def negativeLimit : Nat := 9223372036854775808

/-- Exponents are below this: they fit 31 bits. -/
def exponentLimit : Nat := 2147483648

/-- Appends digits to a significand as long as it fits 64 bits.  The answer is the significand with
the number of digits it took. -/
def appendDigits (significand : Nat) : List UInt8 → Nat × Nat
  | [] => (significand, 0)
  | b :: rest =>
    let longer := significand * 10 + digitValue b
    if longer < significandLimit then
      let (final, taken) := appendDigits longer rest
      (final, taken + 1)
    else (significand, 0)

/-- The power of ten, for exponents up to 308. -/
def powerOfTen (n : Nat) : Float :=
  Float.ofScientific 1 false n

/-- Scales by a power of ten, in steps a double can hold; `none` is beyond the largest double.  Two
steps of 308 leave nothing of a 64-bit significand. -/
def scaleSteps : Nat → Float → Int → Option Float
  | 0, x, _ => some x
  | steps + 1, x, exponent =>
    if exponent.natAbs ≤ 308 then
      if exponent < 0 then some (x / powerOfTen exponent.natAbs)
      else
        let y := x * powerOfTen exponent.natAbs
        if y.isInf then none else some y
    else if x == 0.0 then some x
    else if 0 ≤ exponent then none
    else scaleSteps steps (x / powerOfTen 308) (exponent + 308)

/-- The double `significand · 10 ^ exponent`, rounded once for the significand and once for each
step of scaling. -/
def scale (significand : Nat) (exponent : Int) : Option Float :=
  scaleSteps 4 (UInt64.ofNat significand).toFloat exponent

/-- The exponent written by these digits, and how many digits it takes to exceed 31 bits. -/
def exponentFrom (exponent taken : Nat) : List UInt8 → Nat × Option Nat
  | [] => (exponent, none)
  | b :: rest =>
    let longer := exponent * 10 + digitValue b
    if longer < exponentLimit then exponentFrom longer (taken + 1) rest else (exponent, some (taken + 1))

namespace Reading

/-- The digits ahead. -/
def digitsAhead : Reading (List UInt8) := do
  return (← get).rest.takeWhile isDigit

/-- The double of a sign, a significand and an exponent. -/
def real (negative : Bool) (significand : Nat) (exponent : Int) : Reading Float := do
  match scale significand exponent with
  | some x => return if negative then -x else x
  | none => refuse .numberOutOfRange

/-- Reads an exponent, its letter ahead, after a significand with an exponent of its own. -/
def exponentPart (negative : Bool) (significand : Nat) (exponent : Int) : Reading Float := do
  skip 1
  let down ← do
    match ← peek with
    | some 0x2B => skip 1; pure false
    | some 0x2D => skip 1; pure true
    | _ => pure false
  match ← peek with
  | none => refuse .endInValue
  | some b =>
    if isDigit b then
      let digits ← digitsAhead
      match exponentFrom 0 0 digits with
      | (e, none) =>
        skip digits.length
        real negative significand (if down then exponent - e else exponent + e)
      | (_, some taken) =>
        if significand ≠ 0 && !down then refuseAfter taken .numberOutOfRange
        else
          skip digits.length
          return if negative then -0.0 else 0.0
    else refuseAfter 1 .invalidNumber

/-- Reads an exponent if there is one. -/
def exponentPart? (negative : Bool) (significand : Nat) (exponent : Int) : Reading Float := do
  match ← peek with
  | some 0x65 | some 0x45 => exponentPart negative significand exponent
  | _ => real negative significand exponent

/-- Reads the digits after a point, which is ahead.  Digits that no longer fit the significand are
passed over. -/
def fractionPart (negative : Bool) (significand : Nat) (exponent : Int) : Reading Float := do
  skip 1
  let digits ← digitsAhead
  let (longer, taken) := appendDigits significand digits
  skip digits.length
  if digits.isEmpty then
    match ← peek with
    | some _ => refuseNext .invalidNumber
    | none => refuseNext .endInValue
  else exponentPart? negative longer (exponent - taken)

/-- Reads a number whose sign has been passed.  A whole number that does not fit 64 bits is read as
a double, and so is `-0`. -/
def number (negative : Bool) : Reading Number := do
  match ← peek with
  | none => refuse .endInValue
  | some b =>
    if !isDigit b then refuseAfter 1 .invalidNumber
    else
      let digits ← digitsAhead
      if b = 0x30 && 1 < digits.length then
        skip 1
        refuseNext .invalidNumber
      else
        let (significand, taken) := appendDigits 0 digits
        let exponent : Int := (digits.length : Int) - taken
        skip digits.length
        match ← peek with
        | some 0x2E => return .real (← fractionPart negative significand exponent)
        | some 0x65 | some 0x45 => return .real (← exponentPart negative significand exponent)
        | _ =>
          if exponent ≠ 0 then return .real (← real negative significand exponent)
          else if !negative then return .integer significand
          else if significand = 0 || negativeLimit < significand then
            return .real (-(UInt64.ofNat significand).toFloat)
          else return .integer (-significand)

end Reading

end WorkspaceSchema.Json
