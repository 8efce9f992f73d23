/-!
# Numbers in bytes

Numbers as bytes with the least significant one first, and rows of small numbers that share their
bytes.
-/

namespace WorkspaceSchema.LittleEndian

/-- The number that bytes stand for. -/
def natOfBytes (bytes : List UInt8) : Nat :=
  bytes.foldr (fun b n => b.toNat + 256 * n) 0

/-- The first `width` bytes of a number. -/
def bytesOfNat : Nat → Nat → List UInt8
  | 0, _ => []
  | width + 1, n => UInt8.ofNat n :: bytesOfNat width (n / 256)

/-- Numbers of `width` bits each, written one after the other without a gap. -/
def pack (width : Nat) (values : List Nat) : List UInt8 :=
  bytesOfNat ((width * values.length + 7) / 8)
    (values.foldr (fun value n => value + Nat.pow 2 width * n) 0)

/-- The first `count` numbers of `width` bits each. -/
def unpack (width count : Nat) (bytes : List UInt8) : List Nat :=
  let n := natOfBytes bytes
  (List.range count).map fun i => n / Nat.pow 2 (width * i) % Nat.pow 2 width

/-- A number is read from its bytes, if it has no more. -/
theorem natOfBytes_bytesOfNat (width n : Nat) :
    natOfBytes (bytesOfNat width n) = n % Nat.pow 256 width := by
  induction width generalizing n with
  | zero => simp [bytesOfNat, natOfBytes, Nat.mod_one]
  | succ width ih =>
    have h : natOfBytes (bytesOfNat (width + 1) n)
        = n % 256 + 256 * natOfBytes (bytesOfNat width (n / 256)) := by
      simp [bytesOfNat, natOfBytes]
    have hpow : Nat.pow 256 (width + 1) = 256 * Nat.pow 256 width := Nat.mul_comm _ _
    rw [h, ih, hpow, Nat.mod_mul]

end WorkspaceSchema.LittleEndian
