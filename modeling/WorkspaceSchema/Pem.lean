import WorkspaceSchema.Base64
import WorkspaceSchema.Text.Quoted
import WorkspaceSchema.Text.Utf8

/-!
# PEM

A text may hold binary items, each between a line that begins it and a line that ends it, both with
the label of the item.  `Pem.first` answers with the first item whose label is known; the text
around items and the items with other labels are passed over.

A line ends at a line feed or at a carriage return, and keeps it.
-/

namespace WorkspaceSchema.Pem

/-- The kinds of items. -/
inductive Kind where
  | certificate
  | publicKey
  | rsaKey
  | privateKey
  | ecKey
  | revocationList
  | certificateRequest
deriving DecidableEq, Repr

/-- An item. -/
structure Item where
  kind : Kind
  der : List UInt8
deriving DecidableEq, Repr

/-- Why a text is refused. -/
inductive Fault where
  /-- A line begins an item but does not end as it has to. -/
  | illegalStart (line : List UInt8)
  /-- The text ends inside an item. -/
  | missingEnd (label : List UInt8)
  /-- The lines of an item are no Base64. -/
  | base64 (fault : Base64.Fault)
deriving DecidableEq, Repr

/-- A fault in words. -/
def Fault.message : Fault → String
  | .illegalStart line => "illegal section start: " ++ Text.quoted (Utf8.decodeLossy line)
  | .missingEnd label => "section end " ++ Text.quoted (Utf8.decodeLossy label) ++ " missing"
  | .base64 fault => fault.message

/-- The kind that a label names. -/
def Kind.ofLabel? (label : List UInt8) : Option Kind :=
  if label = Utf8.ofString "CERTIFICATE" then some .certificate
  else if label = Utf8.ofString "PUBLIC KEY" then some .publicKey
  else if label = Utf8.ofString "RSA PRIVATE KEY" then some .rsaKey
  else if label = Utf8.ofString "PRIVATE KEY" then some .privateKey
  else if label = Utf8.ofString "EC PRIVATE KEY" then some .ecKey
  else if label = Utf8.ofString "X509 CRL" then some .revocationList
  else if label = Utf8.ofString "CERTIFICATE REQUEST" then some .certificateRequest
  else none

/-- The label of items that are read like the others, and then passed over. -/
def passedLabel : List UInt8 :=
  Utf8.ofString "ECHCONFIG"

/-- A byte in two hexadecimal digits. -/
def hexByte (b : UInt8) : List Char :=
  if b.toNat < 16 then '0' :: Text.hexDigits b.toNat else Text.hexDigits b.toNat

/-- Bytes in hexadecimal; nothing at all for no bytes. -/
def hex (bytes : List UInt8) : String :=
  if bytes.isEmpty then "" else String.ofList (['0', 'x'] ++ bytes.flatMap hexByte)

/-- An item in words.  Private keys are not shown. -/
def Item.describe (i : Item) : String :=
  let elided := Text.quoted "[secret key elided]"
  match i.kind with
  | .certificate => "X509Certificate(CertificateDer(" ++ hex i.der ++ "))"
  | .publicKey => "SubjectPublicKeyInfo(SubjectPublicKeyInfoDer(" ++ hex i.der ++ "))"
  | .rsaKey => "Pkcs1Key(PrivatePkcs1KeyDer(" ++ elided ++ "))"
  | .privateKey => "Pkcs8Key(PrivatePkcs8KeyDer(" ++ elided ++ "))"
  | .ecKey => "Sec1Key(PrivateSec1KeyDer(" ++ elided ++ "))"
  | .revocationList => "Crl(CertificateRevocationListDer(" ++ hex i.der ++ "))"
  | .certificateRequest => "Csr(CertificateSigningRequestDer(" ++ hex i.der ++ "))"

/-- Whether a byte ends a line. -/
def endsLine (b : UInt8) : Bool :=
  b = 0x0A || b = 0x0D

/-- The lines of a text, with their ends. -/
def lines : List UInt8 → List (List UInt8)
  | [] => []
  | b :: rest =>
    if endsLine b then [b] :: lines rest
    else
      match lines rest with
      | [] => [[b]]
      | line :: others => (b :: line) :: others

/-- What a line begins with if it begins an item. -/
def startMark : List UInt8 := Utf8.ofString "-----BEGIN "

/-- What a line begins with if it ends the item of a label. -/
def endMark (label : List UInt8) : List UInt8 :=
  Utf8.ofString "-----END " ++ label ++ Utf8.ofString "-----"

/-- What may stand after a label: dashes, blanks and the end of the line. -/
def isTrailing (b : UInt8) : Bool :=
  endsLine b || b = 0x20 || b = 0x2D

/-- The label of a line that begins an item: what stands between the mark and the first of five
dashes, which may have blanks between them. -/
def labelOf? (line : List UInt8) : Option (List UInt8) :=
  let backwards := line.reverse.takeWhile isTrailing
  let dashes := backwards.reverse.dropWhile (· ≠ 0x2D)
  if dashes.count 0x2D = 5 then
    some ((line.take (line.length - dashes.length)).drop startMark.length)
  else none

/-- Looks for an item, inside the item of a label or outside, the lines read so far being `data`. -/
def search (label : Option (List UInt8)) (data : List UInt8) :
    List (List UInt8) → Except Fault (Option Item)
  | [] =>
    match label with
    | some label => .error (.missingEnd label)
    | none => .ok none
  | line :: rest =>
    if startMark.isPrefixOf line then
      match labelOf? line with
      | some label => search (some label) data rest
      | none => .error (.illegalStart line)
    else
      match label with
      | none => search none data rest
      | some label =>
        if (endMark label).isPrefixOf line then
          match Kind.ofLabel? label with
          | some kind =>
            match Base64.decodeLenient data with
            | .ok der => .ok (some ⟨kind, der⟩)
            | .error fault => .error (.base64 fault)
          | none =>
            if label = passedLabel then
              match Base64.decodeLenient data with
              | .ok _ => search none [] rest
              | .error fault => .error (.base64 fault)
            else search none [] rest
        else search (some label) (data ++ line) rest

/-- The first item of a text. -/
def first (text : List UInt8) : Except Fault (Option Item) :=
  search none [] (lines text)

end WorkspaceSchema.Pem
