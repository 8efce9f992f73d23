import WorkspaceSchema.Account.Key
import WorkspaceSchema.Files
import WorkspaceSchema.Json.Parser
import WorkspaceSchema.Token.Error

/-!
# Service accounts

A service account is set up from the document of its key file and a few settings: the scopes it asks
for, the person it acts for, and the endpoint that hands out its tokens.  `Setup.build` checks the
document first and the settings last, and answers with the first thing wrong.
-/

namespace WorkspaceSchema.Account

/-- What is wrong with the document of a key. -/
inductive Malformed where
  /-- It is no document. -/
  | text (error : Json.Error)
  /-- It has no type. -/
  | typeMissing
  /-- Its type is no text. -/
  | typeNotText
  /-- It is not shaped like a key. -/
  | shape (reason : Json.Reason)

/-- What is wrong, in words. -/
def Malformed.message : Malformed → String
  | .text error => error.message
  | .typeMissing => "the key is missing the `type` field"
  | .typeNotText => "the `type` field is not a string"
  | .shape reason => reason.message

/-- Why a service account cannot be set up. -/
inductive Error where
  /-- The key file cannot be read. -/
  | loading (path : String) (fault : FileFault)
  /-- The key is malformed. -/
  | parsing (malformed : Malformed)
  /-- The key is for something else. -/
  | unknownType (found : String)
  /-- The private key cannot be used. -/
  | invalidKey (fault : KeyFault)
  /-- There are no scopes. -/
  | missingScopes

/-- The type of the keys of service accounts. -/
def keyType : String := "service_account"

/-- The endpoint that hands out tokens unless another one is given. -/
def defaultTokenUri : String := "https://oauth2.googleapis.com/token"

namespace Error

/-- What stands below an error, the outermost first. -/
def source : Error → List String
  | .loading path fault => ["failed to read credentials from " ++ path ++ ": " ++ fault.message]
  | .parsing malformed => [malformed.message]
  | .unknownType found => ["expected a `" ++ keyType ++ "` key, found `" ++ found ++ "`"]
  | .invalidKey fault =>
    let e : Token.Error := ⟨false, .key fault⟩
    e.message :: e.source
  | .missingScopes => []

/-- The text just below an error. -/
def cause (e : Error) : String :=
  e.source.headD ""

/-- An error in words. -/
def message (e : Error) : String :=
  match e with
  | .loading _ _ => "cannot read the service account key file: " ++ e.cause
  | .parsing _ => "malformed service account key: " ++ e.cause
  | .unknownType _ => "not a service account key: " ++ e.cause
  | .invalidKey _ => "unusable private key in service account key: " ++ e.cause
  | .missingScopes => "missing required setting `scopes` for service account credentials"

end Error

/-- Reads the document of a key file. -/
def load (files : Files) (path : String) : Except Error Json :=
  match files.readText path with
  | .error fault => .error (.loading path fault)
  | .ok bytes =>
    match Json.parse bytes with
    | .error e => .error (.parsing (.text e))
    | .ok j => .ok j

/-- What asks for tokens: a service account, ready to sign. -/
structure Source where
  key : Key
  signingKey : RsaKey
  scopes : List String
  subject : Option String
  tokenUri : String
deriving DecidableEq

/-- The document and the settings of a service account. -/
structure Setup where
  document : Json
  scopes : List String := []
  subject : Option String := none
  tokenUri : Option String := none

namespace Setup

/-- Asks for scopes, in place of those asked for before. -/
def withScopes (s : Setup) (scopes : List String) : Setup :=
  { s with scopes }

/-- Acts for a person. -/
def withSubject (s : Setup) (subject : String) : Setup :=
  { s with subject := some subject }

/-- Takes tokens from an endpoint. -/
def withTokenUri (s : Setup) (tokenUri : String) : Setup :=
  { s with tokenUri := some tokenUri }

/-- Sets up the account. -/
def build (s : Setup) : Except Error Source :=
  match s.document.member? "type" with
  | none => .error (.parsing .typeMissing)
  | some (.text found) =>
    if found ≠ keyType then .error (.unknownType found)
    else
      match Key.ofJson s.document with
      | .error reason => .error (.parsing (.shape reason))
      | .ok key =>
        match RsaKey.ofPem key.privateKey with
        | .error fault => .error (.invalidKey fault)
        | .ok signingKey =>
          if s.scopes.isEmpty then .error .missingScopes
          else .ok {
            key
            signingKey
            scopes := s.scopes
            subject := s.subject
            tokenUri := (s.tokenUri.or key.tokenUri).getD defaultTokenUri }
  | some _ => .error (.parsing .typeNotText)

end Setup

end WorkspaceSchema.Account
