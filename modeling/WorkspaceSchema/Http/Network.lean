import WorkspaceSchema.Http.Message

/-!
# The network

The network as one client sees it: whether any host can be reached, the replies that are still to
come, and what has been sent.  Each request that reaches a host takes the next reply; when there is
none left, the connection is closed.
-/

namespace WorkspaceSchema.Http

/-- What comes back for a request. -/
inductive Reply where
  /-- A response in full. -/
  | answer (status : Nat) (headers : Headers) (body : List UInt8)
  /-- The connection is closed before anything arrives. -/
  | drop
  /-- The head of a response; the connection is closed before the end of the body. -/
  | truncated (status : Nat) (headers : Headers)
  /-- Nothing, for ever. -/
  | hang
  /-- The head of a response, then nothing. -/
  | stalled (status : Nat) (headers : Headers)
deriving DecidableEq, Repr

/-- A request as it went over the wire. -/
structure Sent where
  method : Method
  url : String
  headers : Headers
  body : Option Body
deriving DecidableEq, Repr

/-- The network. -/
structure Network where
  /-- Whether hosts can be reached at all. -/
  reachable : Bool
  /-- The replies to come. -/
  replies : List Reply
  /-- What has been sent, the latest request last. -/
  sent : List Sent := []
  /-- Whether some request was left without a full answer, for as long as its sender could wait. -/
  waited : Bool := false
deriving DecidableEq, Repr

namespace Network

/-- Notes a request. -/
def note (n : Network) (s : Sent) : Network :=
  { n with sent := n.sent ++ [s] }

/-- Takes the next reply. -/
def take (n : Network) : Reply × Network :=
  match n.replies with
  | [] => (.drop, n)
  | reply :: rest => (reply, { n with replies := rest })

/-- Notes that a sender waits in vain. -/
def wait (n : Network) : Network :=
  { n with waited := true }

end Network

/-- A request as it goes over the wire: without the fragment. -/
def Request.toSent (r : Request) : Sent where
  method := r.method
  url := r.url.printWithoutFragment
  headers := r.headers
  body := r.body

end WorkspaceSchema.Http
