import WorkspaceSchema.Token.Cache
import WorkspaceSchema.Token.Exchange

/-!
# Credentials

Credentials give tokens, and the headers that requests carry them in.  Beside service accounts there
are credentials that always give the same token, and credentials that always fail; they are for
trying things out.
-/

namespace WorkspaceSchema

/-- What gives tokens. -/
inductive Credentials where
  /-- A fixed token. -/
  | static
  /-- No token, and asking again may help or not. -/
  | failing (transient : Bool)
  /-- The tokens of a service account. -/
  | account (source : Account.Source)
deriving DecidableEq

namespace Credentials

/-- The fixed token. -/
def testToken : String := "test-only-token"

/-- A token, held or fetched. -/
def token : Credentials → Attempt Token.Error Token
  | .static => return ⟨testToken, "Bearer", none⟩
  | .failing transient => throw ⟨transient, .message "test-only error"⟩
  | .account source => Attempt.cached source.fetch

/-- The headers that carry a token. -/
def bearer (t : Token) : Except Token.Error Http.Headers :=
  match t.headerValue? with
  | some value => .ok [("authorization", value)]
  | none => .error ⟨false, .header⟩

/-- The headers that authorize a request. -/
def headers (c : Credentials) : Attempt Token.Error Http.Headers := do
  let t ← c.token
  Attempt.ofExcept (bearer t)

/-- Credentials in words; nothing is said about an account. -/
def describe : Credentials → String
  | .static => "Credentials \x7b inner: StaticCredentials \x7d"
  | .failing true => "Credentials \x7b inner: ErrorCredentials(true) \x7d"
  | .failing false => "Credentials \x7b inner: ErrorCredentials(false) \x7d"
  | .account _ => "Credentials \x7b inner: ServiceAccountCredentials \x7d"

end Credentials

end WorkspaceSchema
