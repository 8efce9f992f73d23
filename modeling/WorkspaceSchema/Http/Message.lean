import WorkspaceSchema.Json.Error
import WorkspaceSchema.Url

/-!
# Requests and responses

What goes over the wire in either direction, and why an exchange may fail.  A failure has a text of
its own and, below it, the texts of what caused it, the outermost first.
-/

namespace WorkspaceSchema.Http

/-- What a request asks for. -/
inductive Method where
  | get
  | post
deriving DecidableEq, Repr

/-- The name of a method. -/
def Method.name : Method → String
  | .get => "GET"
  | .post => "POST"

/-- Header lines with names in lower case. -/
abbrev Headers := List (String × String)

/-- The values of a header, in their order. -/
def Headers.values (headers : Headers) (name : String) : List String :=
  (headers.filter (·.1 = name)).map (·.2)

/-- The body of a request: the fields of a form, or a document. -/
inductive Body where
  | form (fields : List (String × String))
  | json (text : String)
deriving DecidableEq, Repr

/-- The content type of a body. -/
def Body.contentType : Body → String
  | .form _ => "application/x-www-form-urlencoded"
  | .json _ => "application/json"

/-- A request. -/
structure Request where
  method : Method
  url : Url
  headers : Headers
  body : Option Body
deriving DecidableEq

/-- What keeps an exchange from its end. -/
inductive Obstacle where
  /-- No way leads to the host. -/
  | unreachable
  /-- No way leads to the host that stands between, through which a protected connection is made. -/
  | untunnelled
  /-- The connection was closed before the end. -/
  | closed
  /-- The time allowed for the exchange is over. -/
  | timedOut
  /-- Nothing arrives, and nothing ends the waiting. -/
  | unanswered
deriving DecidableEq, Repr

/-- A response whose head has arrived; the body may not arrive in full. -/
structure Response where
  url : Url
  status : Nat
  headers : Headers
  body : Except Obstacle (List UInt8)

/-- Whether a response grants the request. -/
def Response.isSuccess (r : Response) : Bool :=
  200 ≤ r.status && r.status < 300

/-- Why there is no answer to a request. -/
inductive Failure where
  /-- The target is no URL. -/
  | unusable (fault : Url.Fault)
  /-- The target is a URL, but not one of the web; it is that of the request or of a redirect. -/
  | scheme (url : String)
  /-- The target is too long for a request, or its host has characters that no request can hold. -/
  | unrequestable (url : String)
  /-- The request was not answered. -/
  | sending (url : String) (obstacle : Obstacle)
  /-- There were too many redirects. -/
  | redirecting (url : String)
  /-- The body did not arrive in full. -/
  | reading (url : String) (obstacle : Obstacle)
  /-- The body is not the document that was expected. -/
  | decoding (url : String) (error : Json.Error)

namespace Failure

/-- A failure in words. -/
def message : Failure → String
  | .unusable _ => "builder error"
  | .scheme url => "builder error for url (" ++ url ++ ")"
  | .unrequestable url => "builder error for url (" ++ url ++ ")"
  | .sending url _ => "error sending request for url (" ++ url ++ ")"
  | .redirecting url => "error following redirect for url (" ++ url ++ ")"
  | .reading url _ => "error decoding response body for url (" ++ url ++ ")"
  | .decoding url _ => "error decoding response body for url (" ++ url ++ ")"

/-- The part below a failure that is worth telling: why a document is refused. -/
def document : Failure → List String
  | .decoding _ error => [error.message]
  | _ => []

/-- Everything below a failure. -/
def causes : Failure → List String
  | .unusable fault => [fault.message]
  | .scheme _ => ["URL scheme is not allowed"]
  | .unrequestable _ => ["Parsed Url is not a valid Uri"]
  | .sending _ .unreachable =>
    ["client error (Connect)", "tcp connect error", "Network is unreachable (os error 101)"]
  | .sending _ .untunnelled =>
    ["client error (Connect)", "tunnel error: failed to create underlying connection",
      "tcp connect error", "Network is unreachable (os error 101)"]
  | .sending _ .closed =>
    ["client error (SendRequest)", "connection closed before message completed"]
  | .sending _ _ => ["operation timed out"]
  | .redirecting _ => ["too many redirects"]
  | .reading _ .timedOut => ["request or response body error", "operation timed out"]
  | .reading _ _ =>
    ["request or response body error", "error reading a body from connection",
      "end of file before message length reached"]
  | .decoding _ error => [error.message]

/-- Whether the time allowed was over. -/
def isTimeout : Failure → Bool
  | .sending _ obstacle => obstacle = .timedOut
  | .reading _ obstacle => obstacle = .timedOut
  | _ => false

/-- Whether the failure came with the body, however much of it arrived. -/
def isDecode : Failure → Bool
  | .reading _ _ => true
  | .decoding _ _ => true
  | _ => false

end Failure

/-- The body of a response. -/
def Response.bytes (r : Response) : Except Failure (List UInt8) :=
  match r.body with
  | .ok bytes => .ok bytes
  | .error obstacle => .error (.reading r.url.print obstacle)

/-- A body that arrived in full can be had. -/
theorem Response.bytes_of_complete {r : Response} {bytes : List UInt8} (complete : r.body = .ok bytes) :
    r.bytes = .ok bytes := by
  rw [Response.bytes, complete]

/-- Any other body is lost. -/
theorem Response.bytes_of_broken {r : Response} {obstacle : Obstacle} (broken : r.body = .error obstacle) :
    r.bytes = .error (.reading r.url.print obstacle) := by
  rw [Response.bytes, broken]

/-- The reason that goes with a status. -/
def reason? : Nat → Option String
  | 100 => "Continue"
  | 101 => "Switching Protocols"
  | 102 => "Processing"
  | 103 => "Early Hints"
  | 200 => "OK"
  | 201 => "Created"
  | 202 => "Accepted"
  | 203 => "Non Authoritative Information"
  | 204 => "No Content"
  | 205 => "Reset Content"
  | 206 => "Partial Content"
  | 207 => "Multi-Status"
  | 208 => "Already Reported"
  | 226 => "IM Used"
  | 300 => "Multiple Choices"
  | 301 => "Moved Permanently"
  | 302 => "Found"
  | 303 => "See Other"
  | 304 => "Not Modified"
  | 305 => "Use Proxy"
  | 307 => "Temporary Redirect"
  | 308 => "Permanent Redirect"
  | 400 => "Bad Request"
  | 401 => "Unauthorized"
  | 402 => "Payment Required"
  | 403 => "Forbidden"
  | 404 => "Not Found"
  | 405 => "Method Not Allowed"
  | 406 => "Not Acceptable"
  | 407 => "Proxy Authentication Required"
  | 408 => "Request Timeout"
  | 409 => "Conflict"
  | 410 => "Gone"
  | 411 => "Length Required"
  | 412 => "Precondition Failed"
  | 413 => "Payload Too Large"
  | 414 => "URI Too Long"
  | 415 => "Unsupported Media Type"
  | 416 => "Range Not Satisfiable"
  | 417 => "Expectation Failed"
  | 418 => "I'm a teapot"
  | 421 => "Misdirected Request"
  | 422 => "Unprocessable Entity"
  | 423 => "Locked"
  | 424 => "Failed Dependency"
  | 425 => "Too Early"
  | 426 => "Upgrade Required"
  | 428 => "Precondition Required"
  | 429 => "Too Many Requests"
  | 431 => "Request Header Fields Too Large"
  | 451 => "Unavailable For Legal Reasons"
  | 500 => "Internal Server Error"
  | 501 => "Not Implemented"
  | 502 => "Bad Gateway"
  | 503 => "Service Unavailable"
  | 504 => "Gateway Timeout"
  | 505 => "HTTP Version Not Supported"
  | 506 => "Variant Also Negotiates"
  | 507 => "Insufficient Storage"
  | 508 => "Loop Detected"
  | 510 => "Not Extended"
  | 511 => "Network Authentication Required"
  | _ => none

/-- A status with its reason. -/
def describeStatus (status : Nat) : String :=
  String.ofList (Nat.toDigits 10 status) ++ " " ++ (reason? status).getD "<unknown status code>"

end WorkspaceSchema.Http
