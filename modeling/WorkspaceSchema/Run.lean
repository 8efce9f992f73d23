import WorkspaceSchema.Provision
import WorkspaceSchema.Settings

/-!
# A run

A run loads the key file, obtains a token, and provides the schema, all within the time that the
settings allow.  A run is too late as soon as some request is left without an answer, and a run that
has no time at all is too late with its first request.
-/

namespace WorkspaceSchema.Run

/-- Why a run fails. -/
inductive Error where
  /-- The service account cannot be set up. -/
  | credential (error : Account.Error)
  /-- There is no token. -/
  | authorization (error : Token.Error)
  /-- The client of the directory has no credentials. -/
  | client
  /-- The directory request failed. -/
  | remoteService (error : Directory.Error)
  /-- The time allowed is over. -/
  | timeout (allowed : Duration)

namespace Error

/-- The failure of a directory request: one for want of a token is that of the token. -/
def ofDirectory (e : Directory.Error) : Error :=
  match e.credentials? with
  | some error => .authorization error
  | none => .remoteService e

/-- An error in words. -/
def message : Error → String
  | .credential _ => "cannot load the service account credentials"
  | .authorization _ => "cannot obtain a delegated access token"
  | .client => "cannot create the Directory API client"
  | .remoteService _ => "the Directory API request failed"
  | .timeout allowed => "provisioning did not complete within " ++ allowed.describe

/-- What stands below an error, the outermost first, as far as it is worth telling. -/
def source : Error → List String
  | .credential e => e.message :: e.source
  | .authorization e => e.message :: e.source
  | .client => [Directory.ClientSetup.missingCredentials]
  | .remoteService e => e.message :: e.source
  | .timeout _ => []

/-- Everything that stands below an error. -/
def causes : Error → List String
  | .credential e => e.message :: e.source
  | .authorization e => e.message :: e.causes
  | .client => [Directory.ClientSetup.missingCredentials]
  | .remoteService e => e.message :: e.causes
  | .timeout _ => []

end Error

/-- The service account that settings ask for, with the document of its key. -/
def accountSetup (s : Settings) (document : Json) : Account.Setup where
  document := document
  scopes := Directory.scopes
  subject := some s.adminEmail
  tokenUri := s.tokenUri

/-- The credentials that settings ask for. -/
def credentials (s : Settings) (files : Files) : Except Account.Error Credentials := do
  let document ← Account.load files s.credentialsFile
  return .account (← (accountSetup s document).build)

/-- The client that settings ask for. -/
def clientSetup (s : Settings) (c : Credentials) : Directory.ClientSetup :=
  ((({} : Directory.ClientSetup).withCredentials c).withEndpoint s.endpoint).withTimeout s.timeout

/-- The provisioner that settings ask for. -/
def provisioner (s : Settings) : Provisioner :=
  { customer := s.customerId, dryRun := s.dryRun }

/-- Does what settings ask for, whatever time it takes. -/
def provision (s : Settings) (files : Files) : Attempt Error Outcome := do
  let c ← Attempt.mapError Error.credential (Attempt.ofExcept (credentials s files))
  let _ ← Attempt.mapError Error.authorization c.token
  Attempt.tell (.authorized s.adminEmail)
  match (clientSetup s c).build? with
  | none => throw .client
  | some client =>
    Attempt.mapError Error.ofDirectory
      ((provisioner s).ensure client.service (Saml.schema s.schemaName))

/-- Whether the time that settings allow was over before a run ended. -/
def isLate (s : Settings) (before after : Session) : Bool :=
  after.network.waited || (s.timeout.isZero && before.network.sent.length < after.network.sent.length)

/-- Does what settings ask for, in the time they allow. -/
def run (s : Settings) (files : Files) (session : Session) : Except Error Outcome × Session :=
  let (result, after) := (provision s files).runOn session
  if isLate s session after then (.error (.timeout s.timeout), after) else (result, after)

end WorkspaceSchema.Run
