import WorkspaceSchema.LittleEndian
import WorkspaceSchema.Shake

/-!
# Lattice keys

Keys made of polynomials of degree below 256 with coefficients modulo a prime, of which `x²⁵⁶ = -1`
holds.  A key consists of two rows of secret polynomials with small coefficients, `s` and `e`, and of
a seed that a square table `A` of polynomials grows from.  Its public part are the upper bits of
`A s + e`.

A key can be written as a seed for all of it, or in full.  What is written in full repeats what
follows from the rest of it: the lower bits of `A s + e` and a digest of the public part.  So
`LatticeKey.isComplete` works them out and compares.

The table is drawn as values of the polynomials at the 256 odd powers of a root of unity, where
products are taken value by value.
-/

namespace WorkspaceSchema

/-- A kind of lattice keys: the sizes of the table, and the bound for the size of a secret
coefficient. -/
structure LatticeKind where
  rows : Nat
  columns : Nat
  bound : Nat
deriving DecidableEq, Repr

/-- The three kinds in use. -/
def LatticeKind.all : List LatticeKind :=
  [⟨4, 4, 2⟩, ⟨6, 5, 4⟩, ⟨8, 7, 2⟩]

/-- The parts of a key that the others follow from.  A secret coefficient is given as the difference
of it from the bound, which is not negative. -/
structure LatticeKey where
  tableSeed : List UInt8
  signingSeed : List UInt8
  first : List (List Nat)
  second : List (List Nat)
deriving DecidableEq, Repr

namespace LatticeKey

/-! ### Polynomials -/

/-- The modulus of the coefficients. -/
def prime : Nat := 8380417

/-- A root of unity: its powers repeat after 512. -/
def root : Nat := 1753

/-- The inverse of 256. -/
def share : Nat := 8347681

/-- The powers of the root. -/
def powers : Array Nat :=
  ((List.range 512).foldl (fun (seen, p) _ => (seen.push p, p * root % prime))
    ((#[] : Array Nat), 1)).1

/-- A power of the root. -/
def power (exponent : Nat) : Nat :=
  powers.getD (exponent % 512) 0

/-- A number below 256 with its bits in reverse. -/
def mirrored (n : Nat) : Nat :=
  (List.range 8).foldl (fun m i => 2 * m + n / Nat.pow 2 i % 2) 0

/-- The exponents of the powers at which polynomials are evaluated, in the order of the values. -/
def exponents : List Nat :=
  (List.range 256).map fun i => 2 * mirrored i + 1

/-- The sum of products. -/
def combine (values weights : List Nat) : Nat :=
  (List.zipWith (· * ·) values weights).foldl (· + ·) 0 % prime

/-- The values of a polynomial. -/
def evaluate (coefficients : List Nat) : List Nat :=
  exponents.map fun e => combine coefficients ((List.range 256).map fun j => power (e * j))

/-- The polynomial with these values. -/
def interpolate (values : List Nat) : List Nat :=
  (List.range 256).map fun j =>
    share * combine values (exponents.map fun e => power (512 - e * j % 512)) % prime

/-- The sum of two rows of coefficients or values. -/
def add (a b : List Nat) : List Nat :=
  List.zipWith (fun x y => (x + y) % prime) a b

/-- The product of two rows of values. -/
def mul (a b : List Nat) : List Nat :=
  List.zipWith (fun x y => x * y % prime) a b

/-! ### Drawing -/

/-- Groups of three bytes as numbers of 23 bits. -/
def triples : List UInt8 → List Nat
  | a :: b :: c :: rest =>
    (a.toNat + 256 * b.toNat + 65536 * (c.toNat % 128)) :: triples rest
  | _ => []

/-- An entry of the table: the first 256 numbers of the digest that are below the prime.  That 298
numbers are not enough does not happen. -/
def tableEntry (seed : List UInt8) (row column : Nat) : List Nat :=
  let bytes := Shake.shake128.digest 894 (seed ++ [UInt8.ofNat column, UInt8.ofNat row])
  ((triples bytes).filter (· < prime)).take 256

/-- The secret polynomial with a number: half bytes of the digest, those left out that would make
some differences more likely than others.  That 962 of them are not enough does not happen. -/
def secret (kind : LatticeKind) (seed : List UInt8) (number : Nat) : List Nat :=
  let count := 2 * kind.bound + 1
  let bytes := Shake.shake256.digest 481 (seed ++ LittleEndian.bytesOfNat 2 number)
  let halves := bytes.flatMap fun b => [b.toNat % 16, b.toNat / 16]
  ((halves.filter (· < 16 / count * count)).map (· % count)).take 256

/-- The key that grows from a seed. -/
def ofSeed (kind : LatticeKind) (seed : List UInt8) : LatticeKey :=
  let bytes := Shake.shake256.digest 128
    (seed ++ [UInt8.ofNat kind.rows, UInt8.ofNat kind.columns])
  let secretSeed := (bytes.drop 32).take 64
  { tableSeed := bytes.take 32
    signingSeed := bytes.drop 96
    first := (List.range kind.columns).map (secret kind secretSeed)
    second := (List.range kind.rows).map fun i => secret kind secretSeed (kind.columns + i) }

/-! ### The full form -/

/-- The bits of a secret coefficient. -/
def secretWidth (kind : LatticeKind) : Nat :=
  Nat.log2 (2 * kind.bound) + 1

/-- The coefficients that are written as differences from the bound. -/
def coefficients (kind : LatticeKind) (differences : List Nat) : List Nat :=
  differences.map fun difference => (prime + kind.bound - difference) % prime

/-- The polynomials of `A s + e`. -/
def image (kind : LatticeKind) (key : LatticeKey) : List (List Nat) :=
  let values := key.first.map fun s => evaluate (coefficients kind s)
  key.second.zipIdx.map fun (e, row) =>
    let products := values.zipIdx.map fun (s, column) =>
      mul (tableEntry key.tableSeed row column) s
    add (interpolate (products.foldl add (List.replicate 256 0))) (coefficients kind e)

/-- The upper bits of a coefficient, rounded so that the lower bits are from -4095 to 4096. -/
def upper (coefficient : Nat) : Nat :=
  (coefficient + 4095) / 8192

/-- The difference of the lower bits from 4096. -/
def lower (coefficient : Nat) : Nat :=
  4096 + 8192 * upper coefficient - coefficient

/-- The public part. -/
def publicPart (key : LatticeKey) (image : List (List Nat)) : List UInt8 :=
  key.tableSeed ++ image.flatMap fun t => LittleEndian.pack 10 (t.map upper)

/-- A key in full. -/
def complete (kind : LatticeKind) (key : LatticeKey) : List UInt8 :=
  let image := key.image kind
  key.tableSeed ++ key.signingSeed ++ Shake.shake256.digest 64 (key.publicPart image)
    ++ key.first.flatMap (LittleEndian.pack (secretWidth kind))
    ++ key.second.flatMap (LittleEndian.pack (secretWidth kind))
    ++ image.flatMap fun t => LittleEndian.pack 13 (t.map lower)

/-- The polynomials that are written from some byte on. -/
def secretsAt (kind : LatticeKind) (bytes : List UInt8) (start count : Nat) : List (List Nat) :=
  let size := 32 * secretWidth kind
  (List.range count).map fun i =>
    LittleEndian.unpack (secretWidth kind) 256 ((bytes.drop (start + size * i)).take size)

/-- The key that is written in full. -/
def ofComplete (kind : LatticeKind) (bytes : List UInt8) : LatticeKey :=
  { tableSeed := bytes.take 32
    signingSeed := (bytes.drop 32).take 32
    first := secretsAt kind bytes 128 kind.columns
    second := secretsAt kind bytes (128 + 32 * secretWidth kind * kind.columns) kind.rows }

/-- The number of bytes of a key in full. -/
def completeSize (kind : LatticeKind) : Nat :=
  128 + 32 * (secretWidth kind * (kind.columns + kind.rows) + 13 * kind.rows)

/-- Whether bytes are a key in full: its secrets are small, and what is repeated is right. -/
def isComplete (kind : LatticeKind) (bytes : List UInt8) : Bool :=
  let key := ofComplete kind bytes
  bytes.length = completeSize kind
    && (key.first ++ key.second).all (·.all (· ≤ 2 * kind.bound))
    && key.complete kind = bytes

/-- Whether bytes are the full form of the key that grows from a seed. -/
def isCompleteOf (kind : LatticeKind) (seed bytes : List UInt8) : Bool :=
  bytes.length = completeSize kind && (ofSeed kind seed).complete kind = bytes

end LatticeKey

end WorkspaceSchema
