import WorkspaceSchema.LittleEndian
import WorkspaceSchema.Modular
import WorkspaceSchema.Sha2

/-!
# The Edwards curve of keys

The curve `y² - x² = 1 + dx²y²` over the integers modulo `2²⁵⁵ - 19`.  A key is a seed of 32 bytes: its
digest gives the number of times that the base point is added to itself, and the sum is the public
point, written as its second coordinate with the last bit of the first on top.
-/

namespace WorkspaceSchema.EdwardsCurve

/-- The modulus of the coordinates. -/
def prime : Nat := Nat.pow 2 255 - 19

/-- The constant of the curve. -/
def constant : Nat := 0x52036cee2b6ffe738cc740797779e89800700a4d4141d8ab75eb4dca135978a3

/-- The base point. -/
def base : Nat × Nat :=
  (0x216936d3cd6e53fec0a4e231fdd6dc5c692cc7609525a7b2c9562d608f25d51a,
   0x6666666666666666666666666666666666666666666666666666666666666658)

/-- Whether two numbers are the coordinates of a point. -/
def contains (x y : Nat) : Bool :=
  y * y % prime = (1 + x * x + constant * (x * x % prime * (y * y % prime))) % prime

/-- The sum of two points. -/
def add (p q : Nat × Nat) : Nat × Nat :=
  let product := constant * (p.1 * q.1 % prime) % prime * (p.2 * q.2 % prime) % prime
  let x := p.1 * q.2 + p.2 * q.1
  let y := p.2 * q.2 + p.1 * q.1
  (x * Modular.inverse prime (1 + product) % prime,
   y * Modular.inverse prime (Modular.sub prime 1 product) % prime)

/-- Adds the doubles of `p` for the bits of a number, the least significant first. -/
def multipleFrom : Nat → Nat → Nat × Nat → Nat × Nat → Nat × Nat
  | 0, _, _, sum => sum
  | bits + 1, n, p, sum =>
    multipleFrom bits (n / 2) (add p p) (if n % 2 = 1 then add sum p else sum)

/-- The number of a seed: 255 bits of the digest, the highest one set and the last three cleared. -/
def scalarOf (seed : List UInt8) : Nat :=
  let n := LittleEndian.natOfBytes ((Sha2.sha512.digest seed).take 32)
  n % Nat.pow 2 254 / 8 * 8 + Nat.pow 2 254

/-- A point in 32 bytes. -/
def write (p : Nat × Nat) : List UInt8 :=
  LittleEndian.bytesOfNat 32 (p.2 + p.1 % 2 * Nat.pow 2 255)

/-- The public point of a seed. -/
def publicPoint (seed : List UInt8) : List UInt8 :=
  write (multipleFrom 255 (scalarOf seed) base (0, 1))

/-- Whether a written key is a key, and the public point that may stand beside it is its own. -/
def isKey (der : List UInt8) (point : Option (List UInt8)) : Bool :=
  match Der.take? 0x04 der with
  | some (seed, []) =>
    seed.length = 32 && point.all (fun bytes => bytes = 0x00 :: publicPoint seed)
  | _ => false

/-- The base point lies on the curve. -/
theorem contains_base : contains base.1 base.2 = true := by
  decide +kernel

end WorkspaceSchema.EdwardsCurve
