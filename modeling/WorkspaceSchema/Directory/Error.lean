import WorkspaceSchema.Directory.Status
import WorkspaceSchema.Token.Error

/-!
# Why a directory request fails

A request fails for one of six reasons, each with what is known about it: the status that the
directory gives, or the response as it came, or the text of what went wrong on the way, or the error
of the credentials.
-/

namespace WorkspaceSchema.Directory

/-- What went wrong on the way: a failure of the transport, or another error known by its text. -/
inductive Trouble where
  | transport (failure : Http.Failure)
  | other (text : String)

/-- A trouble in words. -/
def Trouble.message : Trouble → String
  | .transport failure => failure.message
  | .other text => text

/-- Everything that stands below a trouble. -/
def Trouble.causes : Trouble → List String
  | .transport failure => failure.causes
  | .other _ => []

/-- Why a request fails. -/
inductive Error where
  /-- The directory refuses and says why. -/
  | service (status : Status) (code : Nat) (headers : Http.Headers)
  /-- The directory refuses. -/
  | http (code : Nat) (headers : Http.Headers) (payload : List UInt8)
  /-- The request or the response got lost. -/
  | io (trouble : Trouble)
  /-- The time allowed is over. -/
  | timeout (trouble : Trouble)
  /-- The response cannot be understood. -/
  | deserialization (text : String)
  /-- There is no token to ask with. -/
  | authentication (error : Token.Error)

namespace Error

/-- A failure of the transport. -/
def ofFailure (f : Http.Failure) : Error :=
  if f.isTimeout then .timeout (.transport f) else .io (.transport f)

/-- What stands below an error, the outermost first, as far as it is worth telling. -/
def source : Error → List String
  | .service _ _ _ => []
  | .http _ _ _ => []
  | .io trouble => [trouble.message]
  | .timeout trouble => [trouble.message]
  | .deserialization text => [text]
  | .authentication error => error.message :: error.source

/-- Everything that stands below an error. -/
def causes : Error → List String
  | .service _ _ _ => []
  | .http _ _ _ => []
  | .io trouble => trouble.message :: trouble.causes
  | .timeout trouble => trouble.message :: trouble.causes
  | .deserialization text => [text]
  | .authentication error => error.message :: error.causes

/-- An error in words. -/
def message : Error → String
  | .service status _ _ =>
    "the service reports an error with code " ++ String.ofList (Json.renderInt status.code)
      ++ " described as: " ++ status.message
  | .http code _ payload =>
    "the HTTP transport reports a [" ++ String.ofList (Nat.toDigits 10 code) ++ "] error: "
      ++ Utf8.decodeLossy payload
  | .io trouble => "cannot send the request or receive the response " ++ trouble.message
  | .timeout trouble => "the request exceeded the request deadline " ++ trouble.message
  | .deserialization text => "cannot deserialize the response " ++ text
  | .authentication error => "cannot create the authentication headers " ++ error.message

/-- The kinds of errors, one for each reason. -/
inductive Kind where
  | service
  | http
  | io
  | timeout
  | deserialization
  | authentication
deriving DecidableEq, Repr

/-- The kind of an error. -/
def kind : Error → Kind
  | .service _ _ _ => .service
  | .http _ _ _ => .http
  | .io _ => .io
  | .timeout _ => .timeout
  | .deserialization _ => .deserialization
  | .authentication _ => .authentication

/-- Whether an error is of a kind. -/
def isOf (k : Kind) (e : Error) : Bool :=
  e.kind = k

/-- The status that the directory gave. -/
def status? : Error → Option Status
  | .service status _ _ => some status
  | _ => none

/-- The status code of the response. -/
def code? : Error → Option Nat
  | .service _ code _ => some code
  | .http code _ _ => some code
  | _ => none

/-- The headers of the response. -/
def headers? : Error → Option Http.Headers
  | .service _ _ headers => some headers
  | .http _ headers _ => some headers
  | _ => none

/-- The body of the response. -/
def payload? : Error → Option (List UInt8)
  | .http _ _ payload => some payload
  | _ => none

/-- The error of the credentials. -/
def credentials? : Error → Option Token.Error
  | .authentication error => some error
  | _ => none

/-- The error that a response gives that does not grant the request. -/
def ofResponse (r : Http.Response) : Error :=
  match r.bytes with
  | .error f => ofFailure f
  | .ok bytes =>
    match Status.ofPayload bytes with
    | .ok status => .service status r.status r.headers
    | .error _ => .http r.status r.headers bytes

end Error

end WorkspaceSchema.Directory
