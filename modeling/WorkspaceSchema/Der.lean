/-!
# DER

The binary form of keys: a tag, a length in its only written form, and the contents.
-/

namespace WorkspaceSchema.Der

/-- The number that bytes stand for, the most significant first. -/
def natOfBytes (bytes : List UInt8) : Nat :=
  bytes.foldl (fun n b => n * 256 + b.toNat) 0

/-- The bytes of a number, `width` of them, the most significant first. -/
def bytesOfNat : Nat → Nat → List UInt8
  | 0, _ => []
  | width + 1, n => bytesOfNat width (n / 256) ++ [UInt8.ofNat n]

/-- Takes a length: in one byte below 128, else in as few bytes as it needs, after their count. -/
def length? : List UInt8 → Option (Nat × List UInt8)
  | [] => none
  | b :: rest =>
    if b < 0x80 then some (b.toNat, rest)
    else
      let count := b.toNat - 0x80
      let bytes := rest.take count
      let n := natOfBytes bytes
      if count = 0 || 4 < count || bytes.length < count then none
      else if n < 0x80 || bytes.head? = some 0 then none
      else some (n, rest.drop count)

/-- Takes a value with this tag: its contents, and what follows. -/
def take? (tag : UInt8) : List UInt8 → Option (List UInt8 × List UInt8)
  | [] => none
  | b :: rest =>
    if b ≠ tag then none
    else
      match length? rest with
      | none => none
      | some (n, rest) => if rest.length < n then none else some (rest.take n, rest.drop n)

/-- Takes a value with this tag if the next one has it. -/
def takeOptional? (tag : UInt8) (bytes : List UInt8) : Option (Option (List UInt8) × List UInt8) :=
  if bytes.head? = some tag then (take? tag bytes).map fun (contents, rest) => (some contents, rest)
  else some (none, bytes)

/-- Takes a number that is not negative, written with as few bytes as it needs. -/
def natural? (bytes : List UInt8) : Option (Nat × List UInt8) :=
  match take? 0x02 bytes with
  | none => none
  | some (contents, rest) =>
    match contents with
    | [] => none
    | [b] => if b < 0x80 then some (b.toNat, rest) else none
    | b :: c :: more =>
      if 0x80 ≤ b || (b = 0 && c < 0x80) then none
      else some (natOfBytes (b :: c :: more), rest)

/-- Takes `count` numbers. -/
def naturals? : Nat → List UInt8 → Option (List Nat × List UInt8)
  | 0, bytes => some ([], bytes)
  | count + 1, bytes => do
    let (n, bytes) ← natural? bytes
    let (ns, bytes) ← naturals? count bytes
    return (n :: ns, bytes)

end WorkspaceSchema.Der
