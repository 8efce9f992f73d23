import WorkspaceSchema.Text.Utf8

/-!
# Percent-encoding

A byte that may not stand for itself in some part of a URL is written as `%` and two upper-case
hexadecimal digits.  Which bytes may stand for themselves depends on the part, so it is a parameter.
-/

namespace WorkspaceSchema.Url.Percent

/-- The upper-case hexadecimal digit of a number below sixteen. -/
def digit (n : Nat) : Char :=
  if n < 10 then Char.ofNat (48 + n) else Char.ofNat (55 + n)

/-- A byte as a triplet. -/
def triplet (b : UInt8) : List Char :=
  ['%', digit (b.toNat / 16), digit (b.toNat % 16)]

/-- A byte as itself where `keep` says so, and as a triplet elsewhere. -/
def encodeByte (keep : UInt8 → Bool) (b : UInt8) : List Char :=
  if b < 0x80 && keep b then [Char.ofNat b.toNat] else triplet b

/-- A byte string, percent-encoded. -/
def encodeBytes (keep : UInt8 → Bool) (bytes : List UInt8) : List Char :=
  bytes.flatMap (encodeByte keep)

/-- A list of characters, percent-encoded by its UTF-8 bytes. -/
def encode (keep : UInt8 → Bool) (cs : List Char) : List Char :=
  encodeBytes keep (Utf8.encode cs)

/-- The value of a hexadecimal digit. -/
def digitValue? (b : UInt8) : Option UInt8 :=
  if 0x30 ≤ b && b ≤ 0x39 then some (b - 0x30)
  else if 0x41 ≤ b && b ≤ 0x46 then some (b - 0x37)
  else if 0x61 ≤ b && b ≤ 0x66 then some (b - 0x57)
  else none

/-- The bytes that a percent-encoded byte string stands for.  A `%` without two digits stands for
itself. -/
def decode : List UInt8 → List UInt8
  | [] => []
  | [a] => [a]
  | [a, b] => [a, b]
  | a :: b :: c :: rest =>
    if a = 0x25 then
      match digitValue? b, digitValue? c with
      | some high, some low => (high * 16 + low) :: decode rest
      | _, _ => a :: decode (b :: c :: rest)
    else a :: decode (b :: c :: rest)

/-- A letter or digit of ASCII. -/
def isAlphanumeric (b : UInt8) : Bool :=
  (0x30 ≤ b && b ≤ 0x39) || (0x41 ≤ b && b ≤ 0x5A) || (0x61 ≤ b && b ≤ 0x7A)

/-- The bytes that stand for themselves wherever they occur: letters, digits, `-`, `.`, `_`, `~`. -/
def isUnreserved (b : UInt8) : Bool :=
  isAlphanumeric b || b = 0x2D || b = 0x2E || b = 0x5F || b = 0x7E

/-- A text as one segment of a path, whatever it holds. -/
def segment (s : String) : String :=
  String.ofList (encode isUnreserved s.toList)

end WorkspaceSchema.Url.Percent
