/-!
# Base64

Three bytes are written as four digits of six bits.  There are two alphabets, which differ in the
last two digits, and two ways to end: a last group of one or two bytes is padded to four characters
or left short.

`encode` and `decode?` are the strict pair for the alphabet of URLs without padding.
`decodeLenient` reads the other alphabet as it occurs in text files: blanks are passed over, the
padding may be missing, and bits left over are ignored.  It looks at blocks of eight characters, and
finds padding in the middle only when a character follows the block.
-/

namespace WorkspaceSchema.Base64

/-- A digit, given the last two of the alphabet. -/
def digit (last : Char × Char) (n : Nat) : Char :=
  if n < 26 then Char.ofNat (65 + n)
  else if n < 52 then Char.ofNat (71 + n)
  else if n < 62 then Char.ofNat (n - 4)
  else if n = 62 then last.1 else last.2

/-- The digits of a byte string, a short last group being filled up with `padding`. -/
def encodeWith (last : Char × Char) (padding : List Char) : List UInt8 → List Char
  | [] => []
  | [a] =>
    let n := a.toNat * 16
    [digit last (n / 64), digit last (n % 64)] ++ padding ++ padding
  | [a, b] =>
    let n := (a.toNat * 256 + b.toNat) * 4
    [digit last (n / 4096), digit last (n / 64 % 64), digit last (n % 64)] ++ padding
  | a :: b :: c :: rest =>
    let n := (a.toNat * 256 + b.toNat) * 256 + c.toNat
    digit last (n / 262144) :: digit last (n / 4096 % 64) :: digit last (n / 64 % 64)
      :: digit last (n % 64) :: encodeWith last padding rest

/-- A byte string in the alphabet of URLs, without padding. -/
def encode (bytes : List UInt8) : List Char :=
  encodeWith ('-', '_') [] bytes

/-- A byte string in the standard alphabet, with padding. -/
def encodePadded (bytes : List UInt8) : List Char :=
  encodeWith ('+', '/') ['='] bytes

/-- The value of a digit, given the last two of the alphabet. -/
def value? (last : Char × Char) (c : Char) : Option Nat :=
  if 'A' ≤ c && c ≤ 'Z' then some (c.toNat - 65)
  else if 'a' ≤ c && c ≤ 'z' then some (c.toNat - 71)
  else if '0' ≤ c && c ≤ '9' then some (c.toNat + 4)
  else if c = last.1 then some 62
  else if c = last.2 then some 63
  else none

/-- The bytes that four digits stand for. -/
def bytesOf (a b c d : Nat) : List UInt8 :=
  [UInt8.ofNat (a * 4 + b / 16), UInt8.ofNat (b % 16 * 16 + c / 4), UInt8.ofNat (c % 4 * 64 + d)]

/-- The bytes that digits stand for, if they end where a byte ends. -/
def ofValues? : List Nat → Option (List UInt8)
  | [] => some []
  | [_] => none
  | [a, b] => if b % 16 = 0 then some ((bytesOf a b 0 0).take 1) else none
  | [a, b, c] => if c % 4 = 0 then some ((bytesOf a b c 0).take 2) else none
  | a :: b :: c :: d :: rest => (ofValues? rest).map (bytesOf a b c d ++ ·)

/-- The bytes that a text in the alphabet of URLs stands for. -/
def decode? (cs : List Char) : Option (List UInt8) :=
  (cs.mapM (value? ('-', '_'))).bind ofValues?

/-! ### Lenient reading -/

/-- Why a text is refused. -/
inductive Fault where
  | invalidCharacter (b : UInt8)
  | prematurePadding
  | invalidTrailingPadding
deriving DecidableEq, Repr

/-- A fault in words. -/
def Fault.message : Fault → String
  | .invalidCharacter b => "InvalidCharacter(" ++ String.ofList (Nat.toDigits 10 b.toNat) ++ ")"
  | .prematurePadding => "PrematurePadding"
  | .invalidTrailingPadding => "InvalidTrailingPadding"

/-- Bytes that are passed over. -/
def isBlank (b : UInt8) : Bool :=
  b = 0x20 || (0x09 ≤ b && b ≤ 0x0D)

/-- The bytes of a group of four; `none` is padding. -/
def group : List (Option Nat) → Except Fault (List UInt8)
  | [] => .ok []
  | [some a, some b, some c, some d] => .ok (bytesOf a b c d)
  | [some a, some b, some c, none] => .ok ((bytesOf a b c 0).take 2)
  | [some a, some b, some c] => .ok ((bytesOf a b c 0).take 2)
  | [some a, some b, none, none] => .ok ((bytesOf a b 0 0).take 1)
  | [some a, some b] => .ok ((bytesOf a b 0 0).take 1)
  | _ => .error .invalidTrailingPadding

/-- The bytes of a group in front of another one, which has to be full. -/
def fullGroup (symbols : List (Option Nat)) : Except Fault (List UInt8) :=
  if symbols.any (·.isNone) then .error .prematurePadding else group symbols

/-- The bytes of a block of eight in front of another one. -/
def fullBlock (block : List (Option Nat)) : Except Fault (List UInt8) :=
  if block.any (·.isNone) then .error .prematurePadding
  else do return (← group (block.take 4)) ++ (← group (block.drop 4))

/-- The bytes of the last block. -/
def lastBlock (block : List (Option Nat)) : Except Fault (List UInt8) :=
  if 4 < block.length then do return (← fullGroup (block.take 4)) ++ (← group (block.drop 4))
  else group block

/-- The symbol of a byte: a digit or padding. -/
def symbol? (b : UInt8) : Option (Option Nat) :=
  if b = 0x3D then some none
  else if b < 0x80 then (value? ('+', '/') (Char.ofNat b.toNat)).map some
  else none

/-- Reads a text after the symbols of an unfinished block. -/
def decodeFrom (block : List (Option Nat)) : List UInt8 → Except Fault (List UInt8)
  | [] => lastBlock block
  | b :: rest =>
    if isBlank b then decodeFrom block rest
    else
      match symbol? b with
      | none => .error (.invalidCharacter b)
      | some symbol =>
        if block.length = 8 then do
          let bytes ← fullBlock block
          return bytes ++ (← decodeFrom [symbol] rest)
        else decodeFrom (block ++ [symbol]) rest

/-- The bytes that a text in the standard alphabet stands for. -/
def decodeLenient (text : List UInt8) : Except Fault (List UInt8) :=
  decodeFrom [] text

end WorkspaceSchema.Base64
