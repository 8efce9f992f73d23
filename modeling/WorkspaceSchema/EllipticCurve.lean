import WorkspaceSchema.Der
import WorkspaceSchema.Modular

/-!
# Elliptic curves

The curves `y² = x³ - 3x + b` over the integers modulo a prime that keys are made for, each with a
point that generates a group of prime order.  A key is a number of times that this point is added to
itself; the sum is its public point.

`EllipticCurve.isKey` says whether a written key is one: the number has to lie below the order, and
the curve and the public point that may stand beside it have to be the right ones.
-/

namespace WorkspaceSchema

/-- A curve.  `name` is what it is called in DER. -/
structure EllipticCurve where
  name : List UInt8
  prime : Nat
  constant : Nat
  order : Nat
  generator : Nat × Nat
deriving DecidableEq, Repr

namespace EllipticCurve

/-- The curve of 256 bits. -/
def p256 : EllipticCurve where
  name := [0x06, 0x08, 0x2a, 0x86, 0x48, 0xce, 0x3d, 0x03, 0x01, 0x07]
  prime := 0xffffffff00000001000000000000000000000000ffffffffffffffffffffffff
  constant := 0x5ac635d8aa3a93e7b3ebbd55769886bc651d06b0cc53b0f63bce3c3e27d2604b
  order := 0xffffffff00000000ffffffffffffffffbce6faada7179e84f3b9cac2fc632551
  generator :=
    (0x6b17d1f2e12c4247f8bce6e563a440f277037d812deb33a0f4a13945d898c296,
     0x4fe342e2fe1a7f9b8ee7eb4a7c0f9e162bce33576b315ececbb6406837bf51f5)

/-- The curve of 384 bits. -/
def p384 : EllipticCurve where
  name := [0x06, 0x05, 0x2b, 0x81, 0x04, 0x00, 0x22]
  prime := 0xfffffffffffffffffffffffffffffffffffffffffffffffffffffffffffffffeffffffff0000000000000000ffffffff
  constant := 0xb3312fa7e23ee7e4988e056be3f82d19181d9c6efe8141120314088f5013875ac656398d8a2ed19d2a85c8edd3ec2aef
  order := 0xffffffffffffffffffffffffffffffffffffffffffffffffc7634d81f4372ddf581a0db248b0a77aecec196accc52973
  generator :=
    (0xaa87ca22be8b05378eb1c71ef320ad746e1d3b628ba79b9859f741e082542a385502f25dbf55296c3a545e3872760ab7,
     0x3617de4a96262c6f5d9e98bf9292dc29f8f41dbd289a147ce9da3113b5f0b8c00a60b1ce1d7e819d7a431d7c90ea0e5f)

/-- The curve of 521 bits. -/
def p521 : EllipticCurve where
  name := [0x06, 0x05, 0x2b, 0x81, 0x04, 0x00, 0x23]
  prime := Nat.pow 2 521 - 1
  constant := 0x51953eb9618e1c9a1f929a21a0b68540eea2da725b99b315f3b8b489918ef109e156193951ec7e937b1652c0bd3bb1bf073573df883d2c34f1ef451fd46b503f00
  order := 0x1fffffffffffffffffffffffffffffffffffffffffffffffffffffffffffffffffa51868783bf2f966b7fcc0148f709a5d03bb5c9b8899c47aebb6fb71e91386409
  generator :=
    (0xc6858e06b70404e9cd9e3ecb662395b4429c648139053fb521f828af606b4d3dbaa14b5e77efe75928fe1dc127a2ffa8de3348b3c1856a429bf97e7e31c2e5bd66,
     0x11839296a789a3bc0045c8a5fb42c7d1bd998f54449579b446817afbd17273e662c97ee72995ef42640c550b9013fad0761353c7086a272c24088be94769fd16650)

/-- The curves that keys may be made for. -/
def all : List EllipticCurve :=
  [p256, p384, p521]

/-! ### Points -/

/-- A point of a curve; `none` is the point at infinity. -/
abbrev Point : Type := Option (Nat × Nat)

/-- Whether two numbers are the coordinates of a point. -/
def contains (c : EllipticCurve) (x y : Nat) : Bool :=
  y * y % c.prime = (x * x * x + (c.prime - 3) * x + c.constant) % c.prime

/-- The third point on the line of some slope through two points, mirrored. -/
def meet (c : EllipticCurve) (slope : Nat) (p q : Nat × Nat) : Nat × Nat :=
  let x := Modular.sub c.prime (slope * slope) (p.1 + q.1)
  (x, Modular.sub c.prime (slope * Modular.sub c.prime p.1 x) p.2)

/-- The sum of two points. -/
def add (c : EllipticCurve) : Point → Point → Point
  | none, q => q
  | some p, none => some p
  | some p, some q =>
    if p.1 ≠ q.1 then
      let run := Modular.inverse c.prime (Modular.sub c.prime q.1 p.1)
      some (c.meet (Modular.sub c.prime q.2 p.2 * run % c.prime) p q)
    else if (p.2 + q.2) % c.prime = 0 then none
    else
      let rise := Modular.sub c.prime (3 * p.1 * p.1) 3
      some (c.meet (rise * Modular.inverse c.prime (2 * p.2) % c.prime) p p)

/-- Adds the doubles of `p` for the bits of a number, the least significant first. -/
def multipleFrom (c : EllipticCurve) : Nat → Nat → Point → Point → Point
  | 0, _, _, sum => sum
  | bits + 1, n, p, sum =>
    multipleFrom c bits (n / 2) (c.add p p) (if n % 2 = 1 then c.add sum p else sum)

/-- A point added to itself `n` times. -/
def multiple (c : EllipticCurve) (n : Nat) (p : Point) : Point :=
  c.multipleFrom (Modular.bitLength n) n p none

/-- Bytes in a coordinate. -/
def width (c : EllipticCurve) : Nat :=
  (Modular.bitLength c.prime + 7) / 8

/-- The forms in which a point is written: with both coordinates, or with the first one and the last
bit of the second. -/
def forms (c : EllipticCurve) : Point → List (List UInt8)
  | none => []
  | some (x, y) =>
    let first := Der.bytesOfNat c.width x
    [0x04 :: first ++ Der.bytesOfNat c.width y, UInt8.ofNat (2 + y % 2) :: first]

/-! ### Curves in DER -/

/-- The name of the fields of integers modulo a prime. -/
def primeField : List UInt8 :=
  [0x2a, 0x86, 0x48, 0xce, 0x3d, 0x01, 0x01]

/-- The point of a list of bytes with both coordinates in it. -/
def pointOfBytes? : List UInt8 → Option (Nat × Nat)
  | 0x04 :: bytes =>
    let width := bytes.length / 2
    if bytes.length = 2 * width then
      some (Der.natOfBytes (bytes.take width), Der.natOfBytes (bytes.drop width))
    else none
  | _ => none

/-- The curve whose numbers are listed. -/
def ofNumbers? (contents : List UInt8) : Option EllipticCurve := do
  let (version, contents) ← Der.natural? contents
  let (field, contents) ← Der.take? 0x30 contents
  let (kind, field) ← Der.take? 0x06 field
  let (prime, field) ← Der.natural? field
  let (coefficients, contents) ← Der.take? 0x30 contents
  let (a, coefficients) ← Der.take? 0x04 coefficients
  let (b, coefficients) ← Der.take? 0x04 coefficients
  let (_, coefficients) ← Der.takeOptional? 0x03 coefficients
  let (base, contents) ← Der.take? 0x04 contents
  let generator ← pointOfBytes? base
  let (order, contents) ← Der.natural? contents
  let (cofactor, contents) ← Der.takeOptional? 0x02 contents
  let isListed := fun c : EllipticCurve =>
    c.prime = prime && c.prime - 3 = Der.natOfBytes a && c.constant = Der.natOfBytes b
      && c.generator = generator && c.order = order
  if version = 1 && kind = primeField && field.isEmpty && coefficients.isEmpty && contents.isEmpty
      && (cofactor = none || cofactor = some [1]) then
    all.find? isListed
  else none

/-- The curve that is named, or described by its numbers. -/
def ofDer? (der : List UInt8) : Option EllipticCurve :=
  match Der.take? 0x30 der with
  | some (contents, []) => ofNumbers? contents
  | some _ => none
  | none => all.find? (·.name = der)

/-! ### Keys -/

/-- Whether a written point is the public point of a number. -/
def isPublicPoint (c : EllipticCurve) (n : Nat) (der : List UInt8) : Bool :=
  match Der.take? 0x03 der with
  | some (0x00 :: bytes, []) => (c.forms (c.multiple n (some c.generator))).contains bytes
  | _ => false

/-- Whether a written key is a key for a curve. -/
def isKey (c : EllipticCurve) (der : List UInt8) : Bool :=
  let key := do
    let (contents, rest) ← Der.take? 0x30 der
    let (version, contents) ← Der.natural? contents
    let (scalar, contents) ← Der.take? 0x04 contents
    let (curve, contents) ← Der.takeOptional? 0xA0 contents
    let (point, contents) ← Der.takeOptional? 0xA1 contents
    if version = 1 && contents.isEmpty && rest.isEmpty then some (Der.natOfBytes scalar, curve, point)
    else none
  match key with
  | none => false
  | some (n, curve, point) =>
    1 ≤ n && n < c.order
      && curve.all (fun der => ofDer? der = some c)
      && point.all (c.isPublicPoint n)

/-- The generators lie on their curves. -/
theorem contains_generator : all.all (fun c => c.contains c.generator.1 c.generator.2) = true := by
  decide +kernel

end EllipticCurve

end WorkspaceSchema
