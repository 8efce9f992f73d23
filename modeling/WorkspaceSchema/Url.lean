import WorkspaceSchema.Url.Host
import WorkspaceSchema.Url.Percent

/-!
# URLs

A `Url` is a URL in normal form: scheme and host in lower case, the default port left out, the path
without dot segments, everything percent-encoded that has to be.  `Url.print` writes it.
-/

namespace WorkspaceSchema

/-- The path of a URL: segments, or a text without structure. -/
inductive Url.Path where
  | unstructured (text : String)
  | segments (names : List String)
deriving DecidableEq, Repr

/-- A URL. -/
structure Url where
  scheme : String
  username : String := ""
  password : String := ""
  host : Option Url.Host := none
  port : Option Nat := none
  path : Url.Path := .segments []
  query : Option String := none
  fragment : Option String := none
deriving DecidableEq, Repr

namespace Url

/-- The port of a network scheme unless another one is given. -/
def defaultPort? (scheme : String) : Option Nat :=
  if scheme = "http" || scheme = "ws" then some 80
  else if scheme = "https" || scheme = "wss" then some 443
  else if scheme = "ftp" then some 21
  else none

/-- The schemes whose URLs name a host and a path in a network, or a file. -/
def isSpecial (scheme : String) : Bool :=
  (defaultPort? scheme).isSome || scheme = "file"

/-- The port that is meant, given or not. -/
def effectivePort? (u : Url) : Option Nat :=
  u.port.or (defaultPort? u.scheme)

/-- User and password as they stand before the host. -/
def renderUser (u : Url) : String :=
  if u.username.isEmpty && u.password.isEmpty then ""
  else if u.password.isEmpty then u.username ++ "@"
  else u.username ++ ":" ++ u.password ++ "@"

/-- Host and port. -/
def renderHost (u : Url) : String :=
  match u.host with
  | none => ""
  | some host =>
    String.ofList host.render
      ++ (match u.port with
        | none => ""
        | some port => ":" ++ String.ofList (Nat.toDigits 10 port))

/-- The path.  Without a host, a path that begins with an empty segment needs a dot before it. -/
def renderPath (u : Url) : String :=
  match u.path with
  | .unstructured text => text
  | .segments names =>
    let path := String.join (names.map ("/" ++ ·))
    if u.host.isNone && names.head? = some "" && 1 < names.length then "/." ++ path else path

/-- The URL without its fragment. -/
def printWithoutFragment (u : Url) : String :=
  u.scheme ++ ":"
    ++ (if u.host.isSome then "//" ++ u.renderUser ++ u.renderHost else "")
    ++ u.renderPath
    ++ (match u.query with
      | none => ""
      | some query => "?" ++ query)

/-- The text of a URL. -/
def print (u : Url) : String :=
  u.printWithoutFragment
    ++ (match u.fragment with
      | none => ""
      | some fragment => "#" ++ fragment)

/-- The URL without user and password. -/
def withoutUser (u : Url) : Url :=
  { u with username := "", password := "" }

/-- The text that a percent-encoded text stands for, if it is one. -/
def decodePart? (s : String) : Option String :=
  Utf8.toString? (Percent.decode (Utf8.ofString s))

/-- The user that a URL names, with the password if there is one. -/
def user? (u : Url) : Option (String × Option String) :=
  if u.host.isNone then none
  else
    let password := if u.password.isEmpty then none else decodePart? u.password
    match decodePart? u.username with
    | none => none
    | some name => if name.isEmpty && password.isNone then none else some (name, password)

/-- Whether two URLs name the same host and port. -/
def sameHost (u v : Url) : Bool :=
  u.host = v.host && u.effectivePort? = v.effectivePort?

end Url

end WorkspaceSchema
