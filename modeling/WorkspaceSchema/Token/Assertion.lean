import WorkspaceSchema.Json.Printer
import WorkspaceSchema.PrivateKey

/-!
# Assertions

A service account proves who it is by a signed statement: who asks, on behalf of whom, for which
scopes, from which endpoint, and for how long.  A statement is two documents and a signature, each in
Base64, with dots between them; the signature covers the first two and the dot.

The time of issue lies a little in the past, for the sake of clocks that go differently.
-/

namespace WorkspaceSchema.Token

/-- What a service account states. -/
structure Assertion where
  keyId : String
  issuer : String
  scope : String
  audience : String
  subject : Option String
  /-- The time of day at which the statement is made. -/
  madeAt : Int
deriving DecidableEq, Repr

namespace Assertion

/-- Seconds by which clocks may differ. -/
def clockSkew : Int := 10

/-- Seconds for which a statement holds. -/
def lifetime : Int := 3600

/-- The time of issue that is stated. -/
def issuedAt (a : Assertion) : Int :=
  a.madeAt - clockSkew

/-- The time at which the statement ceases to hold. -/
def expiresAt (a : Assertion) : Int :=
  a.issuedAt + lifetime

/-- The document that says how the statement is signed. -/
def header (a : Assertion) : Json :=
  .object [("alg", .text "RS256"), ("typ", .text "JWT"), ("kid", .text a.keyId)]

/-- The document that is signed. -/
def claims (a : Assertion) : Json :=
  .object
    ([("iss", .text a.issuer),
      ("scope", .text a.scope),
      ("aud", .text a.audience),
      ("exp", .number (.integer a.expiresAt)),
      ("iat", .number (.integer a.issuedAt))]
      ++ (match a.subject with
        | none => []
        | some subject => [("sub", .text subject)]))

/-- A document in Base64. -/
def encoded (j : Json) : List Char :=
  Base64.encode (Utf8.encode j.render)

/-- What the signature covers. -/
def signed (a : Assertion) : List Char :=
  encoded a.header ++ ['.'] ++ encoded a.claims

/-- The statement with its signature. -/
def compact (a : Assertion) (signature : List UInt8) : String :=
  String.ofList (a.signed ++ ['.'] ++ Base64.encode signature)

/-- The statement, signed with a key if the key can sign. -/
def sign? (a : Assertion) (key : RsaKey) : Option String :=
  (key.sign? (Utf8.encode a.signed)).map a.compact

end Assertion

end WorkspaceSchema.Token
