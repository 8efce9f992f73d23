import WorkspaceSchema.Modular
import WorkspaceSchema.Sha2

/-!
# RSA keys

The numbers of an RSA key, whether they fit together, and the signature made with them: the padded
digest of the message, raised to the private exponent.

Nothing is known about the primes but that they multiply to the modulus and that the exponents are
inverse to each other as they would be for primes.  So a signature is checked before it is given
away, and with numbers that only look like a key there is none.
-/

namespace WorkspaceSchema

/-- The numbers of an RSA key. -/
structure RsaKey where
  modulus : Nat
  publicExponent : Nat
  privateExponent : Nat
  firstPrime : Nat
  secondPrime : Nat
  firstExponent : Nat
  secondExponent : Nat
  coefficient : Nat
deriving DecidableEq, Repr

namespace RsaKey

/-- Whether a public exponent is odd, greater than one and not too long. -/
def isPublicExponent (e : Nat) : Bool :=
  e % 2 = 1 && 3 ≤ e && Modular.bitLength e ≤ 33

/-- Whether the numbers of a key fit together. -/
def isConsistent (k : RsaKey) : Bool :=
  k.modulus % 2 = 1 && isPublicExponent k.publicExponent
    && 1 < k.firstPrime && 1 < k.secondPrime
    && k.firstPrime * k.secondPrime = k.modulus
    && k.publicExponent * k.privateExponent % (k.firstPrime - 1) = 1
    && k.publicExponent * k.privateExponent % (k.secondPrime - 1) = 1
    && Modular.isInverse (k.firstPrime - 1) k.publicExponent k.firstExponent
    && Modular.isInverse (k.secondPrime - 1) k.publicExponent k.secondExponent
    && Modular.isInverse k.firstPrime k.secondPrime k.coefficient

/-- Whether a key is of a size that is accepted. -/
def isAdequate (k : RsaKey) : Bool :=
  2048 ≤ Modular.bitLength k.modulus && Modular.bitLength k.modulus ≤ 8192

/-- Reads the numbers of a key. -/
def ofDer? (der : List UInt8) : Option RsaKey :=
  match Der.take? 0x30 der with
  | some (contents, []) =>
    match Der.naturals? 9 contents with
    | some ([0, n, e, d, p, q, dp, dq, c], []) => some ⟨n, e, d, p, q, dp, dq, c⟩
    | _ => none
  | _ => none

/-- What stands before a digest: the name of the digest and its length. -/
def digestHeader : List UInt8 :=
  [0x30, 0x31, 0x30, 0x0d, 0x06, 0x09, 0x60, 0x86, 0x48, 0x01, 0x65, 0x03, 0x04, 0x02, 0x01, 0x05,
   0x00, 0x04, 0x20]

/-- The digest of a message, padded to a number of bytes. -/
def padded (width : Nat) (message : List UInt8) : List UInt8 :=
  let info := digestHeader ++ Sha2.sha256.digest message
  [0x00, 0x01] ++ List.replicate (width - 3 - info.length) 0xFF ++ [0x00] ++ info

/-- The words of 64 bits that a number takes. -/
def wordCount (n : Nat) : Nat :=
  (Modular.bitLength n + 63) / 64

/-- Raises a residue to the private exponent: modulo either prime, if they take equally many words,
and modulo their product otherwise. -/
def privatePower (k : RsaKey) (m : Nat) : Nat :=
  if wordCount k.firstPrime = wordCount k.secondPrime then
    let first := Modular.pow m k.firstExponent k.firstPrime
    let second := Modular.pow m k.secondExponent k.secondPrime
    let height := Modular.sub k.firstPrime first second * k.coefficient % k.firstPrime
    height * k.secondPrime + second
  else Modular.pow m k.privateExponent k.modulus

/-- The signature of a message.  The private exponent may not take more words than the modulus, and
the signature has to open to what was signed. -/
def sign? (k : RsaKey) (message : List UInt8) : Option (List UInt8) :=
  let width := (Modular.bitLength k.modulus + 7) / 8
  let m := Der.natOfBytes (padded width message)
  let s := k.privatePower m
  if wordCount k.privateExponent ≤ wordCount k.modulus
      && Modular.pow s k.publicExponent k.modulus = m then
    some (Der.bytesOfNat width s)
  else none

end RsaKey

end WorkspaceSchema
