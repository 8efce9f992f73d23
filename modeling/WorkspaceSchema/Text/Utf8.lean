/-!
# Bytes and text

Text goes out as UTF-8, and bytes come in that should be UTF-8 but need not be.  The decoder reads
a byte string one sequence at a time: `Utf8.step` looks at a lead byte and at what follows, and
answers either the character and the number of further bytes it took, or that the sequence is
broken and how many further bytes belong to the broken part.  A broken part is the longest run that
could have begun a character, so that a reader who replaces broken parts replaces each by one mark.

`Utf8.decode` keeps the broken parts visible as `none`; `decode?` refuses them, `decodeLossy`
replaces them by U+FFFD, and `invalidIndex?` says where the first one begins.
-/

namespace WorkspaceSchema

/-- The UTF-8 bytes of a list of characters. -/
def Utf8.encode (cs : List Char) : List UInt8 :=
  cs.flatMap String.utf8EncodeChar

/-- The UTF-8 bytes of a text. -/
def Utf8.ofString (s : String) : List UInt8 :=
  Utf8.encode s.toList

namespace Utf8

/-- A byte that can continue a character: `10xxxxxx`. -/
def isContinuation (b : UInt8) : Bool :=
  0x80 ≤ b && b ≤ 0xBF

/-- The second bytes that may follow the lead byte of a character of three or more bytes.  The
exceptions keep out overlong forms, surrogates and numbers beyond U+10FFFF. -/
def secondInRange (lead second : UInt8) : Bool :=
  if lead = 0xE0 then 0xA0 ≤ second && second ≤ 0xBF
  else if lead = 0xED then 0x80 ≤ second && second ≤ 0x9F
  else if lead = 0xF0 then 0x90 ≤ second && second ≤ 0xBF
  else if lead = 0xF4 then 0x80 ≤ second && second ≤ 0x8F
  else isContinuation second

/-- The low six bits of a continuation byte. -/
def low (b : UInt8) : Nat :=
  b.toNat % 64

/-- One step of the decoder at the lead byte `b` before `rest`: the character, or `none` for a
broken sequence, and how many bytes of `rest` the sequence takes. -/
def step (b : UInt8) (rest : List UInt8) : Option Char × Nat :=
  if b < 0x80 then (some (Char.ofNat b.toNat), 0)
  else if 0xC2 ≤ b && b ≤ 0xDF then
    match rest with
    | c :: _ => if isContinuation c then (some (Char.ofNat (b.toNat % 32 * 64 + low c)), 1) else (none, 0)
    | [] => (none, 0)
  else if 0xE0 ≤ b && b ≤ 0xEF then
    match rest with
    | c :: d :: _ =>
      if !secondInRange b c then (none, 0)
      else if !isContinuation d then (none, 1)
      else (some (Char.ofNat ((b.toNat % 16 * 64 + low c) * 64 + low d)), 2)
    | [c] => (none, if secondInRange b c then 1 else 0)
    | [] => (none, 0)
  else if 0xF0 ≤ b && b ≤ 0xF4 then
    match rest with
    | c :: d :: e :: _ =>
      if !secondInRange b c then (none, 0)
      else if !isContinuation d then (none, 1)
      else if !isContinuation e then (none, 2)
      else (some (Char.ofNat (((b.toNat % 8 * 64 + low c) * 64 + low d) * 64 + low e)), 3)
    | [c, d] => (none, if !secondInRange b c then 0 else if isContinuation d then 2 else 1)
    | [c] => (none, if secondInRange b c then 1 else 0)
    | [] => (none, 0)
  else (none, 0)

/-- Decodes after passing over the next `skip` bytes, which an earlier step has taken. -/
def decodeFrom : Nat → List UInt8 → List (Option Char)
  | _, [] => []
  | skip + 1, _ :: rest => decodeFrom skip rest
  | 0, b :: rest => (step b rest).1 :: decodeFrom (step b rest).2 rest

/-- The characters of a byte string, with `none` for each broken part. -/
def decode (bytes : List UInt8) : List (Option Char) :=
  decodeFrom 0 bytes

/-- The characters of a byte string that is UTF-8 throughout. -/
def decode? (bytes : List UInt8) : Option (List Char) :=
  (decode bytes).mapM id

/-- The text of a byte string that is UTF-8 throughout. -/
def toString? (bytes : List UInt8) : Option String :=
  (decode? bytes).map String.ofList

/-- The text of a byte string, with U+FFFD for each broken part. -/
def decodeLossy (bytes : List UInt8) : String :=
  String.ofList ((decode bytes).map fun c => c.getD (Char.ofNat 0xFFFD))

/-- Where the first broken part begins, counting from `index`, after passing over `skip` bytes. -/
def invalidIndexFrom (index : Nat) : Nat → List UInt8 → Option Nat
  | _, [] => none
  | skip + 1, _ :: rest => invalidIndexFrom (index + 1) skip rest
  | 0, b :: rest =>
    match step b rest with
    | (none, _) => some index
    | (some _, taken) => invalidIndexFrom (index + 1) taken rest

/-- The index of the first byte that begins no character, if there is one. -/
def invalidIndex? (bytes : List UInt8) : Option Nat :=
  invalidIndexFrom 0 0 bytes

end Utf8

end WorkspaceSchema
