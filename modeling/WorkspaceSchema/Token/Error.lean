import WorkspaceSchema.Http.Message
import WorkspaceSchema.PrivateKey
import WorkspaceSchema.Token.OAuth

/-!
# Why there is no token

A token cannot be had for many reasons.  Whoever asked is told whether asking again may help.

The text of an error ends with its cause.  Below the error stands what it was made from: nothing
where the cause is a text of its own, and an error of another kind with everything below it where
the cause is such an error.
-/

namespace WorkspaceSchema.Token

/-- What keeps a token from being had. -/
inductive Cause where
  /-- A text of its own. -/
  | message (text : String)
  /-- An error of another kind, known by its text. -/
  | other (text : String)
  /-- The endpoint was not reached, or did not answer as it should. -/
  | failure (f : Http.Failure)
  /-- The endpoint refused, with a reason. -/
  | rejected (status : Nat) (error : OAuthError)
  /-- The endpoint refused with a body that gives no reason. -/
  | refused (endpoint : String) (status : Nat) (body : String)
  /-- The token lives longer than can be counted. -/
  | expiry (seconds : Nat)
  /-- No header can hold the token. -/
  | header
  /-- There is no key to sign with. -/
  | key (fault : KeyFault)
  /-- The key does not sign. -/
  | signing

/-- Why there is no token. -/
structure Error where
  transient : Bool
  cause : Cause

/-- A cause in words. -/
def Cause.text : Cause → String
  | .message text => text
  | .other text => text
  | .failure f => f.message
  | .rejected status error =>
    "the token endpoint rejected the request (" ++ Http.describeStatus status ++ "): " ++ error.display
  | .refused endpoint status body =>
    "failed to fetch token from " ++ endpoint ++ " (" ++ Http.describeStatus status ++ "): " ++ body
  | .expiry seconds =>
    "invalid expires_in value in token response: " ++ String.ofList (Nat.toDigits 10 seconds)
  | .header => "failed to parse header value"
  | .key fault => fault.message
  | .signing => "unexpected error: signing failed"

/-- Whether a cause is an error of another kind. -/
def Cause.isError : Cause → Bool
  | .other _ => true
  | .failure _ => true
  | .header => true
  | .key fault => fault.isFromReading
  | .signing => true
  | _ => false

namespace Error

/-- An error in words. -/
def message (e : Error) : String :=
  "cannot create access token, "
    ++ (if e.transient then "but future attempts may succeed" else "and future attempts will not succeed")
    ++ ", source: " ++ e.cause.text

/-- What stands below an error, the outermost first, as far as it is worth telling. -/
def source (e : Error) : List String :=
  if e.cause.isError then
    e.cause.text :: (match e.cause with
      | .failure f => f.document
      | _ => [])
  else []

/-- Everything that stands below an error. -/
def causes (e : Error) : List String :=
  if e.cause.isError then
    e.cause.text :: (match e.cause with
      | .failure f => f.causes
      | _ => [])
  else []

/-- The reason the endpoint gave. -/
def oauth? (e : Error) : Option OAuthError :=
  match e.cause with
  | .rejected _ error => some error
  | _ => none

end Error

/-- The statuses with which an endpoint says that asking again may help. -/
def isTransientStatus (status : Nat) : Bool :=
  status = 500 || status = 503 || status = 408 || status = 429

end WorkspaceSchema.Token
