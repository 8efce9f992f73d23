/-!
# Arithmetic modulo a number

Residues are natural numbers below the modulus.  Powers are made by squaring, and inverses come with
the greatest common divisor.
-/

namespace WorkspaceSchema.Modular

/-- The number of bits of a number. -/
def bitLength (n : Nat) : Nat :=
  if n = 0 then 0 else n.log2 + 1

/-- Multiplies by the powers of `base` for the bits of an exponent, the least significant first. -/
def powFrom (modulus : Nat) : Nat → Nat → Nat → Nat → Nat
  | 0, _, _, product => product
  | bits + 1, base, exponent, product =>
    let product := if exponent % 2 = 1 then product * base % modulus else product
    powFrom modulus bits (base * base % modulus) (exponent / 2) product

/-- A power modulo a number. -/
def pow (base exponent modulus : Nat) : Nat :=
  powFrom modulus (bitLength exponent) (base % modulus) exponent (1 % modulus)

/-- A difference of residues. -/
def sub (modulus a b : Nat) : Nat :=
  (a + (modulus - b % modulus)) % modulus

/-- Divides on as Euclid does.  The numbers `a` and `b` are `s` and `t` times some number, modulo the
modulus; the answer is the factor of the last one before zero. -/
def inverseFrom (modulus : Nat) (s t a b : Nat) : Nat :=
  if _h : b = 0 then s
  else inverseFrom modulus t (sub modulus s (a / b * t % modulus)) b (a % b)
termination_by b
decreasing_by exact Nat.mod_lt _ (Nat.pos_of_ne_zero _h)

/-- The inverse of a residue that has no divisor in common with the modulus. -/
def inverse (modulus a : Nat) : Nat :=
  inverseFrom modulus 1 0 (a % modulus) modulus

/-- Whether one number is the inverse of another, in its only form below the modulus. -/
def isInverse (modulus a b : Nat) : Bool :=
  b < modulus && a * b % modulus = 1

end WorkspaceSchema.Modular
