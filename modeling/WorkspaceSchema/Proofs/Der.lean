import Mathlib.Tactic.Lemma
import WorkspaceSchema.Der
import WorkspaceSchema.Modular
import WorkspaceSchema.Proofs.Text.Utf8

/-!
# Reading DER back

The reader accepts one form of every value only: lengths and numbers in as few bytes as they need.
`written` and `writtenNatural` give this form, and `take?_written` and `naturals?_written` read it back.

The bytes of a number are its shifts by whole bytes, from the one that leaves nothing but the first byte
on.  How many there are is told from the number of its bits.
-/

namespace WorkspaceSchema

namespace Modular

/-! ### Counting bits -/

lemma bitLength_div_two (n : Nat) : bitLength (n / 2) = bitLength n - 1 := by
  unfold bitLength
  by_cases large : 2 ≤ n
  · rw [if_neg (by omega), if_neg (by omega), Nat.log2_def n, if_pos large, Nat.add_sub_cancel]
  · obtain rfl | rfl : n = 0 ∨ n = 1 := by omega
    · rfl
    · rfl

/-- A shift takes bits away. -/
lemma bitLength_shiftRight (n k : Nat) : bitLength (n >>> k) = bitLength n - k := by
  induction k with
  | zero => rfl
  | succ k ih => rw [Nat.shiftRight_succ, bitLength_div_two, ih, Nat.sub_sub]

lemma bitLength_eq_zero_iff {n : Nat} : bitLength n = 0 ↔ n = 0 := by
  unfold bitLength
  by_cases zero : n = 0
  · rw [if_pos zero]
    exact ⟨fun _ => zero, fun _ => rfl⟩
  · rw [if_neg zero]
    exact ⟨fun h => absurd h (by omega), fun h => absurd h zero⟩

/-- A number of a few bits is small. -/
lemma bitLength_le_iff {n k : Nat} : bitLength n ≤ k ↔ n >>> k = 0 := by
  rw [← bitLength_eq_zero_iff, bitLength_shiftRight]
  omega

lemma bitLength_le_seven_iff {n : Nat} : bitLength n ≤ 7 ↔ n < 128 := by
  rw [bitLength_le_iff, Nat.shiftRight_eq_div_pow]
  omega

lemma bitLength_le_eight_iff {n : Nat} : bitLength n ≤ 8 ↔ n < 256 := by
  rw [bitLength_le_iff, Nat.shiftRight_eq_div_pow]
  omega

/-- Smaller numbers do not have more bits. -/
lemma bitLength_le_of_le {m n : Nat} (le : m ≤ n) : bitLength m ≤ bitLength n := by
  rw [bitLength_le_iff, ← Nat.le_zero]
  have shifted : n >>> bitLength n = 0 := bitLength_le_iff.mp (Nat.le_refl _)
  rw [← shifted, Nat.shiftRight_eq_div_pow, Nat.shiftRight_eq_div_pow]
  exact Nat.div_le_div_right le

end Modular

namespace Der

open WorkspaceSchema.Modular

/-! ### The bytes of a number -/

lemma length_bytesOfNat (width n : Nat) : (bytesOfNat width n).length = width := by
  induction width generalizing n with
  | zero => rfl
  | succ width ih => rw [bytesOfNat, List.length_append, ih, List.length_singleton]

lemma shiftRight_byte (n width : Nat) : (n / 256) >>> (8 * width) = n >>> (8 * (width + 1)) := by
  rw [Nat.mul_add, Nat.add_comm, Nat.shiftRight_add, Nat.shiftRight_eq_div_pow n]

/-- The first byte of a number is what is left of it when the others are shifted out. -/
lemma bytesOfNat_succ (width n : Nat) :
    bytesOfNat (width + 1) n = UInt8.ofNat (n >>> (8 * width)) :: bytesOfNat width n := by
  induction width generalizing n with
  | zero => rfl
  | succ width ih =>
    rw [bytesOfNat, ih, shiftRight_byte]
    rfl

/-- A number is read back from its bytes, if there are enough of them. -/
lemma natOfBytes_bytesOfNat {width n : Nat} (fits : bitLength n ≤ 8 * width) :
    natOfBytes (bytesOfNat width n) = n := by
  induction width generalizing n with
  | zero => exact (bitLength_eq_zero_iff.mp (Nat.le_zero.mp fits)).symm
  | succ width ih =>
    have fewer : bitLength (n / 256) ≤ 8 * width := by
      rw [bitLength_le_iff, shiftRight_byte, ← bitLength_le_iff]
      exact fits
    have last : natOfBytes (bytesOfNat (width + 1) n) =
        natOfBytes (bytesOfNat width (n / 256)) * 256 + (UInt8.ofNat n).toNat :=
      List.foldl_append
    rw [last, ih fewer, UInt8.toNat_ofNat']
    omega

/-! ### Writing values -/

/-- A length in its only form. -/
def writtenLength (n : Nat) : List UInt8 :=
  if n < 0x80 then [UInt8.ofNat n]
  else
    let width := (bitLength n + 7) / 8
    UInt8.ofNat (0x80 + width) :: bytesOfNat width n

/-- A value with a tag. -/
def written (tag : UInt8) (contents : List UInt8) : List UInt8 :=
  tag :: (writtenLength contents.length ++ contents)

/-- A number in its only form: its first bit is no digit of it. -/
def writtenNatural (n : Nat) : List UInt8 :=
  written 0x02 (bytesOfNat (bitLength n / 8 + 1) n)

lemma length_writtenLength_le {n : Nat} (fits : bitLength n ≤ 32) : (writtenLength n).length ≤ 5 := by
  unfold writtenLength
  split
  · exact Nat.le_add_left 1 4
  · rw [List.length_cons, length_bytesOfNat]
    omega

lemma length_written_le (tag : UInt8) {contents : List UInt8} (fits : bitLength contents.length ≤ 32) :
    (written tag contents).length ≤ contents.length + 6 := by
  have := length_writtenLength_le fits
  rw [written, List.length_cons, List.length_append]
  omega

/-- Numbers of a few bits take few bytes. -/
lemma length_flatMap_writtenNatural_le {ns : List Nat} {bits : Nat} (fits : bitLength (bits / 8 + 1) ≤ 32)
    (few : ∀ n ∈ ns, bitLength n ≤ bits) :
    (ns.flatMap writtenNatural).length ≤ ns.length * (bits / 8 + 7) := by
  induction ns with
  | nil => exact Nat.zero_le _
  | cons n ns ih =>
    have later := ih fun m member => few m (List.mem_cons_of_mem n member)
    have here := few n (List.mem_cons_self ..)
    have shorter : bitLength n / 8 + 1 ≤ bits / 8 + 1 := by omega
    have size := length_bytesOfNat (bitLength n / 8 + 1) n
    have one : (writtenNatural n).length ≤ _ := length_written_le 0x02 (by
      rw [size]
      exact Nat.le_trans (bitLength_le_of_le shorter) fits)
    rw [size] at one
    rw [List.flatMap_cons, List.length_append, List.length_cons, Nat.succ_mul]
    omega

/-- A length is read back if four bytes are enough for it. -/
lemma length?_writtenLength {n : Nat} (fits : bitLength n ≤ 32) (rest : List UInt8) :
    length? (writtenLength n ++ rest) = some (n, rest) := by
  unfold writtenLength
  by_cases small : n < 0x80
  · have byte : (UInt8.ofNat n).toNat = n := by
      exact Utf8.toNat_ofNat (by omega)
    have low : UInt8.ofNat n < 0x80 := by
      rw [UInt8.lt_iff_toNat_lt, byte]
      exact small
    rw [if_pos small, List.singleton_append, length?, if_pos low, byte]
  · have bits : 7 < bitLength n := by
      rw [← Nat.not_le, bitLength_le_seven_iff]
      exact small
    rw [if_neg small]
    -- The bytes of the length: at most four, and the first of them is not zero.
    obtain ⟨width, count⟩ : ∃ width, (bitLength n + 7) / 8 = width + 1 :=
      ⟨(bitLength n - 1) / 8, by omega⟩
    have byte : (UInt8.ofNat (0x80 + (width + 1))).toNat = 0x80 + (width + 1) :=
      Utf8.toNat_ofNat (by omega)
    have high : ¬UInt8.ofNat (0x80 + (width + 1)) < 0x80 := by
      rw [UInt8.lt_iff_toNat_lt, byte]
      exact Nat.not_lt_of_le (Nat.le_add_right 0x80 _)
    have first : n >>> (8 * width) ≠ 0 ∧ n >>> (8 * width) < 256 := by
      rw [← bitLength_le_eight_iff, Ne, ← bitLength_eq_zero_iff, bitLength_shiftRight]
      omega
    have head : (bytesOfNat (width + 1) n).head? ≠ some 0 := by
      rw [bytesOfNat_succ, List.head?_cons, Ne, Option.some_inj, ← UInt8.toNat_inj,
        Utf8.toNat_ofNat first.2]
      exact first.1
    have bytes := length_bytesOfNat (width + 1) n
    dsimp only
    rw [count, List.cons_append, length?, if_neg high, byte, Nat.add_sub_cancel_left]
    dsimp only
    rw [List.take_left' bytes, List.drop_left' bytes, natOfBytes_bytesOfNat (by omega), if_neg, if_neg]
    · simp [small, head]
    · simp [bytes]
      omega

/-- A value is read back. -/
theorem take?_written (tag : UInt8) {contents : List UInt8} (fits : bitLength contents.length ≤ 32)
    (rest : List UInt8) : take? tag (written tag contents ++ rest) = some (contents, rest) := by
  rw [written, List.cons_append, List.append_assoc, take?, if_neg (by simp),
    length?_writtenLength fits]
  dsimp only
  rw [if_neg (by rw [List.length_append]; omega), List.take_left, List.drop_left]

/-- A number is read back. -/
lemma natural?_writtenNatural {n : Nat} (fits : bitLength (bitLength n / 8 + 1) ≤ 32)
    (rest : List UInt8) : natural? (writtenNatural n ++ rest) = some (n, rest) := by
  have number : natOfBytes (bytesOfNat (bitLength n / 8 + 1) n) = n := natOfBytes_bytesOfNat (by omega)
  unfold natural? writtenNatural
  rw [take?_written 0x02 (by rw [length_bytesOfNat]; exact fits)]
  rcases count : bitLength n / 8 with _ | width
  · have small : n < 128 := bitLength_le_seven_iff.mp (by omega)
    have byte : (UInt8.ofNat n).toNat = n := Utf8.toNat_ofNat (by omega)
    have low : UInt8.ofNat n < 0x80 := by
      rw [UInt8.lt_iff_toNat_lt, byte]
      exact small
    change (if UInt8.ofNat n < 0x80 then some ((UInt8.ofNat n).toNat, rest) else none) = _
    rw [if_pos low, byte]
  · -- The first byte holds less than eight bits, and if it holds none the second holds eight.
    have first : n >>> (8 * (width + 1)) < 128 := by
      rw [← bitLength_le_seven_iff, bitLength_shiftRight]
      omega
    have second (zero : n >>> (8 * (width + 1)) = 0) :
        n >>> (8 * width) < 256 ∧ ¬n >>> (8 * width) < 128 := by
      rw [← bitLength_eq_zero_iff, bitLength_shiftRight] at zero
      rw [← bitLength_le_eight_iff, ← bitLength_le_seven_iff, bitLength_shiftRight]
      omega
    have byte : (UInt8.ofNat (n >>> (8 * (width + 1)))).toNat = n >>> (8 * (width + 1)) :=
      Utf8.toNat_ofNat (by omega)
    rw [count, bytesOfNat_succ, bytesOfNat_succ] at number
    rw [bytesOfNat_succ, bytesOfNat_succ]
    dsimp only
    rw [if_neg, number]
    rw [Bool.or_eq_true, Bool.and_eq_true, decide_eq_true_eq, decide_eq_true_eq, decide_eq_true_eq]
    rintro (high | ⟨zero, low⟩)
    · rw [UInt8.le_iff_toNat_le, byte] at high
      exact absurd first (Nat.not_lt_of_le high)
    · rw [← UInt8.toNat_inj, byte] at zero
      obtain ⟨short, long⟩ := second zero
      rw [UInt8.lt_iff_toNat_lt, Utf8.toNat_ofNat short] at low
      exact long low

/-- Numbers are read back one after the other. -/
theorem naturals?_writtenNatural {ns : List Nat}
    (fits : ∀ n ∈ ns, bitLength (bitLength n / 8 + 1) ≤ 32) (rest : List UInt8) :
    naturals? ns.length (ns.flatMap writtenNatural ++ rest) = some (ns, rest) := by
  induction ns with
  | nil => rfl
  | cons n ns ih =>
    have later := ih fun m member => fits m (List.mem_cons_of_mem n member)
    rw [List.length_cons, List.flatMap_cons, List.append_assoc, naturals?,
      natural?_writtenNatural (fits n (List.mem_cons_self ..)), Option.bind_eq_bind, Option.bind_some]
    dsimp only
    rw [later]
    rfl

end Der

end WorkspaceSchema
