import WorkspaceSchema.Url

/-!
# Reading URLs

A text is cut into its parts from the outside: blanks around it are dropped, then the fragment and
the query are cut off at the end and the scheme at the front; what is left is user, host, port and
path.  A text without a scheme is read relative to a base.

In a network URL a backslash is as good as a slash, and any number of slashes may stand before the
host.
-/

namespace WorkspaceSchema.Url

/-! ### Which bytes stand for themselves -/

/-- A byte that can be seen: no control character, no blank, nothing outside ASCII. -/
def isVisible (b : UInt8) : Bool :=
  0x20 < b && b < 0x7F

/-- Fragments: all visible bytes but `"`, `<`, `>` and the backtick. -/
def keepInFragment (b : UInt8) : Bool :=
  isVisible b && b ≠ 0x22 && b ≠ 0x3C && b ≠ 0x3E && b ≠ 0x60

/-- Queries: all visible bytes but `"`, `#`, `<` and `>`. -/
def keepInQuery (b : UInt8) : Bool :=
  isVisible b && b ≠ 0x22 && b ≠ 0x23 && b ≠ 0x3C && b ≠ 0x3E

/-- Queries of network URLs do without the single quote, too. -/
def keepInSpecialQuery (b : UInt8) : Bool :=
  keepInQuery b && b ≠ 0x27

/-- Paths: what may stand in a query, but `?`, the backtick and braces. -/
def keepInPath (b : UInt8) : Bool :=
  keepInQuery b && b ≠ 0x3F && b ≠ 0x60 && b ≠ 0x7B && b ≠ 0x7D

/-- User and password: what may stand in a path, but `^` and the characters with a meaning in front
of it. -/
def keepInUser (b : UInt8) : Bool :=
  keepInPath b && b ≠ 0x2F && b ≠ 0x3A && b ≠ 0x3B && b ≠ 0x3D && b ≠ 0x40 && b ≠ 0x5B
    && b ≠ 0x5C && b ≠ 0x5D && b ≠ 0x5E && b ≠ 0x7C

/-- Unstructured paths: everything but control characters. -/
def keepInUnstructured (b : UInt8) : Bool :=
  0x20 ≤ b && b < 0x7F

/-- A part of a URL, percent-encoded. -/
def encoded (keep : UInt8 → Bool) (cs : List Char) : String :=
  String.ofList (Percent.encode keep cs)

/-! ### Cutting -/

/-- Drops control characters and blanks at both ends, and tabs and line ends everywhere. -/
def trim (cs : List Char) : List Char :=
  let blank := fun c : Char => c.toNat ≤ 0x20
  let cs := ((cs.dropWhile blank).reverse.dropWhile blank).reverse
  cs.filter fun c => c ≠ '\t' && c ≠ '\n' && c ≠ '\r'

/-- Cuts a text at the first character that `p` holds of, which is dropped. -/
def cut (p : Char → Bool) : List Char → List Char × Option (List Char)
  | [] => ([], none)
  | c :: rest =>
    if p c then ([], some rest)
    else
      let (before, after) := cut p rest
      (c :: before, after)

/-- Cuts a text at the last character that `p` holds of, which is dropped. -/
def cutLast (p : Char → Bool) (cs : List Char) : Option (List Char) × List Char :=
  let (after, before) := cut p cs.reverse
  (before.map List.reverse, after.reverse)

/-- A letter of ASCII; a scheme begins with one. -/
def isLetter (c : Char) : Bool :=
  ('a' ≤ c && c ≤ 'z') || ('A' ≤ c && c ≤ 'Z')

/-- Whether a character may stand in a scheme. -/
def isSchemeChar (c : Char) : Bool :=
  isLetter c || ('0' ≤ c && c ≤ '9') || c = '+' || c = '-' || c = '.'

/-- The scheme of a text, in lower case, and what follows its colon. -/
def cutScheme (cs : List Char) : Option (String × List Char) :=
  match cut (· = ':') cs with
  | (name, some rest) =>
    if (name.head?.map isLetter).getD false && name.all isSchemeChar then
      some (String.ofList (name.map Char.toLower), rest)
    else none
  | (_, none) => none

/-- A text without query and fragment, with both of them. -/
structure Cuts where
  body : List Char
  query : Option (List Char)
  fragment : Option (List Char)

/-- Cuts off fragment and query. -/
def cutTail (cs : List Char) : Cuts :=
  let (front, fragment) := cut (· = '#') cs
  let (body, query) := cut (· = '?') front
  ⟨body, query, fragment⟩

/-- The query of a URL of some scheme. -/
def queryOf (special : Bool) (cs : List Char) : String :=
  encoded (if special then keepInSpecialQuery else keepInQuery) cs

/-- The fragment of a URL. -/
def fragmentOf (cs : List Char) : String :=
  encoded keepInFragment cs

/-! ### Paths -/

/-- Whether a character separates segments. -/
def isSlash (special : Bool) (c : Char) : Bool :=
  c = '/' || (special && c = '\\')

/-- A segment that means the segment it is in; a dot may be percent-encoded. -/
def isSingleDot (segment : List Char) : Bool :=
  [".", "%2e"].contains (String.ofList (segment.map Char.toLower))

/-- A segment that means the segment before. -/
def isDoubleDot (segment : List Char) : Bool :=
  ["..", ".%2e", "%2e.", "%2e%2e"].contains (String.ofList (segment.map Char.toLower))

/-- A segment that names a drive: a letter with a colon or a bar after it. -/
def isDrive : List Char → Bool
  | [letter, mark] => isLetter letter && (mark = ':' || mark = '|')
  | _ => false

/-- Leaves the segment that was reached last; a drive is never left. -/
def leave : List String → List String
  | [] => []
  | last :: before => if isDrive last.toList then last :: before else before

/-- Walks along segments from the segments `reached`, the last one first. -/
def walk (reached : List String) : List (List Char) → List String
  | [] => reached
  | segment :: rest =>
    let here :=
      if isDoubleDot segment then (if rest.isEmpty then "" :: leave reached else leave reached)
      else if isSingleDot segment then (if rest.isEmpty then "" :: reached else reached)
      else encoded keepInPath segment :: reached
    walk here rest

/-- The path reached from the segments `start` along a text. -/
def pathFrom (special : Bool) (start : List String) (cs : List Char) : Path :=
  .segments (walk start.reverse (Text.splitAll (isSlash special) cs)).reverse

/-- The path after a host. -/
def pathAfterHost (special : Bool) (cs : List Char) : Path :=
  match cs with
  | [] => .segments (if special then [""] else [])
  | c :: rest => pathFrom special [] (if isSlash special c then rest else c :: rest)

/-! ### User, host and port -/

/-- Whether a text consists of decimal digits. -/
def isDecimal (cs : List Char) : Bool :=
  cs.all fun c => '0' ≤ c && c ≤ '9'

/-- The port that a text gives for a scheme; the default port is left out. -/
def portOf (scheme : String) (cs : List Char) : Except Fault (Option Nat) :=
  if cs.isEmpty then .ok none
  else if !isDecimal cs then .error .invalidPort
  else
    match Text.numeral? 10 cs with
    | some port =>
      if 65535 < port then .error .invalidPort
      else .ok (if defaultPort? scheme = some port then none else some port)
    | none => .error .invalidPort

/-- Cuts host and port apart, at a colon outside brackets. -/
def cutPort : Bool → List Char → List Char × Option (List Char)
  | _, [] => ([], none)
  | bracketed, c :: rest =>
    if c = ':' && !bracketed then ([], some rest)
    else
      let (before, after) := cutPort (c = '[' || (bracketed && c ≠ ']')) rest
      (c :: before, after)

/-- Reads user, host and port, which stand before the path. -/
def authority (scheme : String) (cs : List Char) : Except Fault Url := do
  let special := isSpecial scheme
  let (user, place) := cutLast (· = '@') cs
  let (hostText, portText) := cutPort false place
  if hostText.isEmpty && (special || user.isSome || portText.isSome) then .error .emptyHost
  else
    let host ← if special then Host.parse hostText else Host.parseOpaque hostText
    let port ← portOf scheme (portText.getD [])
    let (username, password) := cut (· = ':') (user.getD [])
    return {
      scheme
      username := encoded keepInUser username
      password := encoded keepInUser (password.getD [])
      host := some host
      port }

/-- Reads what follows the slashes before a host: user, host, port and path. -/
def located (scheme : String) (cs : List Char) : Except Fault Url := do
  let special := isSpecial scheme
  let front := cs.takeWhile (!isSlash special ·)
  let u ← authority scheme front
  return { u with path := pathAfterHost special (cs.drop front.length) }

/-- The path of a file: empty segments in front of it are dropped, but one segment stays. -/
def filePath (cs : List Char) : Path :=
  match pathAfterHost true cs with
  | .segments names =>
    match names.dropWhile (·.isEmpty) with
    | [] => .segments [""]
    | name :: later => .segments (name :: later)
  | path => path

/-- Reads what follows the scheme of a file: a host between slashes, or a path only.  A drive in the
place of the host begins the path. -/
def file (cs : List Char) : Except Fault Url := do
  let here (path : List Char) : Url :=
    { scheme := "file", host := some (.name ""), path := filePath path }
  match cs with
  | a :: b :: rest =>
    if isSlash true a && isSlash true b then
      let front := rest.takeWhile (!isSlash true ·)
      let path := rest.drop front.length
      if isDrive front then return here rest
      else if front.isEmpty then return here path
      else
        match ← Host.parse front with
        | .name "localhost" => return here path
        | host => return { here path with host := some host }
    else return here cs
  | _ => return here cs

/-- Reads what follows a scheme. -/
def afterScheme (scheme : String) (cs : List Char) : Except Fault Url :=
  if scheme = "file" then file cs
  else if isSpecial scheme then located scheme (cs.dropWhile (isSlash true))
  else
    match cs with
    | '/' :: '/' :: rest => located scheme rest
    | '/' :: rest => .ok { scheme, path := pathFrom false [] rest }
    | _ => .ok { scheme, path := .unstructured (encoded keepInUnstructured cs) }

/-- Adds query and fragment. -/
def withTail (u : Url) (cuts : Cuts) : Url :=
  { u with
    query := cuts.query.map (queryOf (isSpecial u.scheme))
    fragment := cuts.fragment.map fragmentOf }

/-- Reads a URL that has a scheme of its own. -/
def parse (text : String) : Except Fault Url :=
  match cutScheme (trim text.toList) with
  | none => .error .withoutBase
  | some (scheme, rest) =>
    let cuts := cutTail rest
    (afterScheme scheme cuts.body).map (withTail · cuts)

/-! ### Relative to a base -/

/-- Reads a text without a scheme, relative to a base. -/
def relative (base : Url) (cs : List Char) : Except Fault Url :=
  let special := isSpecial base.scheme
  let cuts := cutTail cs
  match base.path with
  | .unstructured _ =>
    if cuts.body.isEmpty && cuts.query.isNone && cuts.fragment.isSome then
      .ok { base with fragment := cuts.fragment.map fragmentOf }
    else .error .opaqueBase
  | .segments names =>
    match cuts.body with
    | [] =>
      match cuts.query with
      | some _ => .ok (withTail base cuts)
      | none => .ok { base with fragment := cuts.fragment.map fragmentOf }
    | c :: rest =>
      if isSlash special c then
        match rest with
        | d :: later =>
          if isSlash special d then
            (located base.scheme (if special then later.dropWhile (isSlash true) else later)).map
              (withTail · cuts)
          else .ok (withTail { base with path := pathFrom special [] rest } cuts)
        | [] => .ok (withTail { base with path := pathFrom special [] [] } cuts)
      else .ok (withTail { base with path := pathFrom special names.dropLast (c :: rest) } cuts)

/-- Reads a text that may have a scheme or be relative to a base.  A network scheme that is that of
the base and has no slashes after it changes nothing. -/
def resolve (base : Url) (text : String) : Except Fault Url :=
  let cs := trim text.toList
  match cutScheme cs with
  | none => relative base cs
  | some (scheme, rest) =>
    let slashes := (rest.takeWhile (isSlash true)).length
    if scheme = base.scheme && isSpecial scheme && scheme ≠ "file" && slashes < 2 then
      relative base rest
    else
      let cuts := cutTail rest
      (afterScheme scheme cuts.body).map (withTail · cuts)

end WorkspaceSchema.Url
