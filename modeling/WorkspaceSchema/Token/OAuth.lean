import WorkspaceSchema.Json.Shape.Reader

/-!
# Answers of a token endpoint

A token endpoint answers with an access token and how long it lives, or refuses with an error code
that may come with a description.
-/

namespace WorkspaceSchema.Token

/-- Why a token endpoint refuses. -/
structure OAuthError where
  error : String := ""
  description : Option String := none
deriving DecidableEq, Inhabited

namespace OAuthError

/-- The shape of a refusal. -/
@[reducible] def shape : Json.Shape :=
  .record "OAuthError"
    (.cons "error" .required .text
    (.cons "error_description" .omittable .text .nil))

/-- The refusal that a value of the shape describes. -/
def ofVal : shape.Val → OAuthError
  | (error, description, ()) => { error, description }

/-- Reads a refusal. -/
def parse (bytes : List UInt8) : Except Json.Error OAuthError :=
  (shape.parse bytes).map ofVal

/-- A refusal in words: its code, and its description if it has one. -/
def display (e : OAuthError) : String :=
  match e.description with
  | none => e.error
  | some description => e.error ++ ": " ++ description

end OAuthError

/-- A token as its endpoint hands it out, with the seconds it lives. -/
structure Grant where
  accessToken : String
  expiresIn : Option Nat
  tokenType : String
deriving DecidableEq, Inhabited

namespace Grant

/-- The shape of a grant. -/
@[reducible] def shape : Json.Shape :=
  .record "TokenResponse"
    (.cons "access_token" .required .text
    (.cons "expires_in" .omittable .word64
    (.cons "token_type" .required .text .nil)))

/-- The grant that a value of the shape describes. -/
def ofVal : shape.Val → Grant
  | (accessToken, expiresIn, tokenType, ()) => { accessToken, expiresIn, tokenType }

/-- Reads a grant. -/
def parse (bytes : List UInt8) : Except Json.Error Grant :=
  (shape.parse bytes).map ofVal

end Grant

end WorkspaceSchema.Token
