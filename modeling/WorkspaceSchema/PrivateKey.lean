import WorkspaceSchema.EdwardsCurve
import WorkspaceSchema.EllipticCurve
import WorkspaceSchema.LatticeKey
import WorkspaceSchema.Pem
import WorkspaceSchema.RsaKey

/-!
# Private keys

A private key comes as the first item of a PEM text.  `PrivateKey.load?` accepts the kinds of keys
that can sign at all, and `RsaKey.ofPem` only a key that can sign as service accounts have to: an RSA
key of 2048 to 8192 bits whose numbers fit together.
-/

namespace WorkspaceSchema

/-- A private key of a kind that can sign. -/
inductive PrivateKey where
  | rsa (key : RsaKey)
  | ellipticCurve
  | edwardsCurve
  | lattice
deriving DecidableEq, Repr

namespace PrivateKey

/-- The algorithm of RSA keys, with its empty parameters. -/
def rsaAlgorithm : List UInt8 :=
  [0x06, 0x09, 0x2a, 0x86, 0x48, 0x86, 0xf7, 0x0d, 0x01, 0x01, 0x01, 0x05, 0x00]

/-- The algorithm of elliptic curve keys; the curve follows it. -/
def ellipticCurveAlgorithm : List UInt8 :=
  [0x06, 0x07, 0x2a, 0x86, 0x48, 0xce, 0x3d, 0x02, 0x01]

/-- The algorithm of Edwards curve keys. -/
def edwardsCurveAlgorithm : List UInt8 :=
  [0x06, 0x03, 0x2b, 0x65, 0x70]

/-- The algorithms of lattice keys. -/
def latticeAlgorithms : List (List UInt8 × LatticeKind) :=
  let algorithm : List UInt8 := [0x06, 0x09, 0x60, 0x86, 0x48, 0x01, 0x65, 0x03, 0x04, 0x03]
  [algorithm ++ [0x11], algorithm ++ [0x12], algorithm ++ [0x13]].zip LatticeKind.all

/-- Whether a lattice key is written as its seed, or in full, or as both. -/
def isLatticeKey (kind : LatticeKind) (der : List UInt8) : Bool :=
  match der.head? with
  | some 0x80 => (Der.take? 0x80 der).any fun (seed, rest) => seed.length = 32 && rest.isEmpty
  | some 0x04 =>
    (Der.take? 0x04 der).any fun (key, rest) => rest.isEmpty && LatticeKey.isComplete kind key
  | _ =>
    (do
      let (contents, rest) ← Der.take? 0x30 der
      let (seed, contents) ← Der.take? 0x04 contents
      let (key, contents) ← Der.take? 0x04 contents
      return seed.length = 32 && contents.isEmpty && rest.isEmpty
        && LatticeKey.isCompleteOf kind seed key).getD false

/-- Loads a key with the algorithm it is for.  Only for a key of an Edwards curve the public point may
stand beside it. -/
def ofAlgorithm? (algorithm der : List UInt8) (point : Option (List UInt8)) : Option PrivateKey :=
  if algorithm = edwardsCurveAlgorithm then
    if EdwardsCurve.isKey der point then some .edwardsCurve else none
  else if point.isSome then none
  else if algorithm = rsaAlgorithm then
    match RsaKey.ofDer? der with
    | some key => if key.isConsistent && key.isAdequate then some (.rsa key) else none
    | none => none
  else if ellipticCurveAlgorithm.isPrefixOf algorithm then
    match EllipticCurve.ofDer? (algorithm.drop ellipticCurveAlgorithm.length) with
    | some curve => if curve.isKey der then some .ellipticCurve else none
    | none => none
  else
    match latticeAlgorithms.lookup algorithm with
    | some kind => if isLatticeKey kind der then some .lattice else none
    | none => none

/-- Loads a key.  Attributes may follow it, and in the second version of the form its public point.
What comes after all of that is ignored. -/
def load? (der : List UInt8) : Option PrivateKey := do
  let (contents, _) ← Der.take? 0x30 der
  let (version, contents) ← Der.natural? contents
  let (algorithm, contents) ← Der.take? 0x30 contents
  let (key, contents) ← Der.take? 0x04 contents
  let (_, contents) ← Der.takeOptional? 0xA0 contents
  let (point, contents) ← Der.takeOptional? 0x81 contents
  if contents.isEmpty && (version = 1 || (version = 0 && point.isNone)) then
    ofAlgorithm? algorithm key point
  else none

end PrivateKey

/-- Why a text gives no key to sign with. -/
inductive KeyFault where
  | pem (fault : Pem.Fault)
  | missing
  | otherItem (item : Pem.Item)
  | unloadable
  | otherAlgorithm
deriving DecidableEq, Repr

namespace KeyFault

/-- A fault in words. -/
def message : KeyFault → String
  | .pem fault => fault.message
  | .missing => "missing PEM section in service account key"
  | .otherItem item => "expected key to be in form of PKCS8, found " ++ item.describe
  | .unloadable => "unexpected error: failed to parse private key as RSA, ECDSA, or EdDSA"
  | .otherAlgorithm =>
    "unable to choose RSA_PKCS1_SHA256 signing scheme as it is not supported by the key"

/-- Whether the fault was found while the text or the key was being read. -/
def isFromReading : KeyFault → Bool
  | .pem _ => true
  | .unloadable => true
  | _ => false

end KeyFault

/-- The key that a PEM text gives to sign with. -/
def RsaKey.ofPem (text : String) : Except KeyFault RsaKey :=
  match Pem.first (Utf8.ofString text) with
  | .error fault => .error (.pem fault)
  | .ok none => .error .missing
  | .ok (some item) =>
    if item.kind ≠ .privateKey then .error (.otherItem item)
    else
      match PrivateKey.load? item.der with
      | none => .error .unloadable
      | some (.rsa key) => .ok key
      | some _ => .error .otherAlgorithm

end WorkspaceSchema
