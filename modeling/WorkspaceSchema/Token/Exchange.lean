import WorkspaceSchema.Account
import WorkspaceSchema.Session
import WorkspaceSchema.Token.Assertion

/-!
# Exchanging an assertion for a token

A service account sends its assertion to the token endpoint, as a form, and waits for the answer as
long as it takes.  A response that grants the request is a token; any other is a refusal, of which
the status says whether asking again may help.  Not reaching the endpoint is worth another attempt;
a granted response that cannot be read or understood is not.
-/

namespace WorkspaceSchema

namespace Token

/-- The kind of grant that is asked for. -/
def grantType : String := "urn:ietf:params:oauth:grant-type:jwt-bearer"

/-- The refusal that a response gives. -/
def refusal (endpoint : String) (response : Http.Response) : Error :=
  let transient := isTransientStatus response.status
  match response.bytes with
  | .error f => ⟨transient, .failure f⟩
  | .ok bytes =>
    let text := Utf8.decodeLossy bytes
    match OAuthError.parse (Utf8.ofString text) with
    | .ok error => ⟨transient, .rejected response.status error⟩
    | .error _ => ⟨transient, .refused endpoint response.status text⟩

/-- The token that a response grants at some time. -/
def granted (response : Http.Response) (now : Clock) : Except Error Token :=
  match response.bytes with
  | .error f => .error ⟨!f.isDecode, .failure f⟩
  | .ok bytes =>
    match Grant.parse bytes with
    | .error e => .error ⟨false, .failure (.decoding response.url.print e)⟩
    | .ok grant =>
      match Token.ofGrant? grant now with
      | some t => .ok t
      | none => .error ⟨false, .expiry (grant.expiresIn.getD 0)⟩

/-- The token that a response gives, granted or not. -/
def ofResponse (endpoint : String) (response : Http.Response) (now : Clock) : Except Error Token :=
  if response.isSuccess then granted response now else .error (refusal endpoint response)

end Token

namespace Account.Source

/-- What a service account states at some time. -/
def assertion (a : Source) (now : Clock) : Token.Assertion where
  keyId := a.key.privateKeyId
  issuer := a.key.clientEmail
  scope := " ".intercalate a.scopes
  audience := a.tokenUri
  subject := a.subject
  madeAt := now.day

/-- The form that is sent to the endpoint, if the key signs. -/
def form? (a : Source) (now : Clock) : Option Http.Body :=
  ((a.assertion now).sign? a.signingKey).map fun statement =>
    .form [("grant_type", Token.grantType), ("assertion", statement)]

/-- Fetches a token.  A key that does not sign is of no use at any time. -/
def fetch (a : Source) : Attempt Token.Error Token := do
  let now ← Attempt.now
  match a.form? now with
  | none => throw ⟨false, .signing⟩
  | some form =>
    let client : Http.Client := ⟨.endless⟩
    let response ← Attempt.mapError (fun f => ⟨true, .failure f⟩)
      (Attempt.onNetwork (client.send .post a.tokenUri [] (some form)))
    Attempt.ofExcept (Token.ofResponse a.tokenUri response now)

end Account.Source

end WorkspaceSchema
