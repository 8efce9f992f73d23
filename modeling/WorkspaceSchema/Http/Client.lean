import WorkspaceSchema.Base64
import WorkspaceSchema.Http.Network
import WorkspaceSchema.Url.Parser

/-!
# Sending requests

A `Client` sends a request to the target that a text names, follows redirects, and answers with the
final response.  At most ten redirects are followed.  A redirect of the kinds 301, 302 and 303 goes
on with a request for the new place alone; 307 and 308 repeat the request there.  What authorizes a
request is left out when it goes on to another host.

User and password in the target are not part of the place: they go into a header.

Whether the connection is protected makes no difference to what is sent and to what comes back.  It
only shows in the words of the failure where no host can be reached.
-/

namespace WorkspaceSchema.Http

/-- How long a client waits. -/
inductive Patience where
  /-- For ever. -/
  | endless
  /-- For a while. -/
  | limited
  /-- Not at all: whatever reaches a host is too late. -/
  | none
deriving DecidableEq, Repr

/-- A client. -/
structure Client where
  patience : Patience
deriving DecidableEq, Repr

namespace Client

/-- What waiting in vain comes to. -/
def inVain (c : Client) : Obstacle :=
  match c.patience with
  | .endless => .unanswered
  | .limited => .timedOut
  | .none => .timedOut

/-- Sends one request over the wire. -/
def exchange (c : Client) (r : Request) (n : Network) : Except Obstacle Response × Network :=
  if !n.reachable then
    (.error (if r.url.scheme = "https" then .untunnelled else .unreachable), n)
  else
    let (reply, n) := (n.note r.toSent).take
    if c.patience = .none then (.error c.inVain, n.wait)
    else
      match reply with
      | .answer status headers body => (.ok ⟨r.url, status, headers, .ok body⟩, n)
      | .drop => (.error .closed, n)
      | .truncated status headers => (.ok ⟨r.url, status, headers, .error .closed⟩, n)
      | .hang => (.error c.inVain, n.wait)
      | .stalled status headers => (.ok ⟨r.url, status, headers, .error c.inVain⟩, n.wait)

/-- Whether a scheme is one of the web. -/
def isWebScheme (scheme : String) : Bool :=
  scheme = "http" || scheme = "https"

/-- Headers that must not reach another host. -/
def isSensitive (name : String) : Bool :=
  ["authorization", "cookie", "cookie2", "proxy-authorization", "www-authenticate"].contains name

/-- Headers that say something about the body. -/
def isAboutBody (name : String) : Bool :=
  ["content-type", "content-length", "content-encoding", "transfer-encoding"].contains name

/-- The statuses of redirects that repeat the request at the new place. -/
def repeatingStatuses : List Nat := [307, 308]

/-- The statuses of redirects. -/
def redirectStatuses : List Nat := [301, 302, 303] ++ repeatingStatuses

/-- The request that a response asks to go on with, if it is a redirect. -/
def redirected? (r : Request) (response : Response) : Option Request :=
  if response.status ∉ redirectStatuses then none
  else
    match (response.headers.values "location").head? with
    | none => none
    | some location =>
      match Url.resolve r.url location with
      | .error _ => none
      | .ok url =>
        let headers :=
          if url.sameHost r.url then r.headers else r.headers.filter (!isSensitive ·.1)
        if response.status ∈ repeatingStatuses then some { r with url, headers }
        else some { method := .get, url, headers := headers.filter (!isAboutBody ·.1), body := none }

/-- Sends a request and follows at most `hops` redirects. -/
def follow (c : Client) : Nat → Request → Network → Except Failure Response × Network
  | hops, r, n =>
    match c.exchange r n with
    | (.error obstacle, n) => (.error (.sending r.url.print obstacle), n)
    | (.ok response, n) =>
      match redirected? r response with
      | none => (.ok response, n)
      | some next =>
        match hops with
        | 0 => (.error (.redirecting r.url.print), n)
        | hops + 1 =>
          if isWebScheme next.url.scheme then follow c hops next n
          else (.error (.scheme next.url.print), n)

/-- The redirects that a client follows. -/
def maxRedirects : Nat := 10

/-- Whether a request can name the host. -/
def isRequestable : Option Url.Host → Bool
  | some (.name text) => !text.toList.any fun c => "\"\x60\x7b\x7d".contains c
  | _ => true

/-- The header that names user and password. -/
def userHeader (name : String) (password : Option String) : String × String :=
  let digits := Base64.encodePadded (Utf8.ofString (name ++ ":" ++ password.getD ""))
  ("authorization", "Basic " ++ String.ofList digits)

/-- The place of a URL, and the header for the user in it. -/
def separateUser (url : Url) : Url × Headers :=
  match url.user? with
  | none => (url, [])
  | some (name, password) => (url.withoutUser, [userHeader name password])

/-- The place in the web that a text names, and the header for the user in it. -/
def locate (text : String) : Except Failure (Url × Headers) :=
  match Url.parse text with
  | .error fault => .error (.unusable fault)
  | .ok url =>
    let (url, headers) := separateUser url
    if !isWebScheme url.scheme then .error (.scheme url.print)
    else if !isRequestable url.host then .error (.unrequestable url.print)
    else .ok (url, headers)

/-- The bytes that the target of a request may have. -/
def maxTarget : Nat := 65534

/-- Whether a place is short enough to be the target of a request. -/
def isShort (place : Url) : Bool :=
  (Utf8.ofString place.print).length ≤ maxTarget

/-- The target that a text names, and the header for the user in it. -/
def target (text : String) : Except Failure (Url × Headers) :=
  match locate text with
  | .error failure => .error failure
  | .ok (place, headers) =>
    if isShort place then .ok (place, headers) else .error (.unrequestable place.print)

/-- Sends a request to the target that a text names.  The user in the target comes before the other
headers. -/
def send (c : Client) (method : Method) (text : String) (headers : Headers) (body : Option Body)
    (n : Network) : Except Failure Response × Network :=
  match target text with
  | .error failure => (.error failure, n)
  | .ok (url, user) =>
    let about := match body with
      | none => []
      | some body => [("content-type", body.contentType)]
    c.follow maxRedirects ⟨method, url, about ++ user ++ headers, body⟩ n

end Client

end WorkspaceSchema.Http
