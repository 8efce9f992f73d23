import WorkspaceSchema.Url.Name
import WorkspaceSchema.Url.Percent

/-!
# Hosts

The host of a URL is an address or a name.  `Host.parse` reads the host of a network URL: a name is
percent-decoded and written in ASCII, and a name that ends in a number has to be an address of four
bytes.  `Host.parseOpaque` reads the host of any other URL, where only the
address in brackets has a meaning.
-/

namespace WorkspaceSchema

/-- Why a text is no URL. -/
inductive Url.Fault where
  | emptyHost
  | invalidName
  | invalidPort
  | invalidIpv4
  | invalidIpv6
  | invalidHostCharacter
  | withoutBase
  | opaqueBase
deriving DecidableEq, Repr

/-- A fault in words. -/
def Url.Fault.message : Url.Fault → String
  | .emptyHost => "empty host"
  | .invalidName => "invalid international domain name"
  | .invalidPort => "invalid port number"
  | .invalidIpv4 => "invalid IPv4 address"
  | .invalidIpv6 => "invalid IPv6 address"
  | .invalidHostCharacter => "invalid domain character"
  | .withoutBase => "relative URL without a base"
  | .opaqueBase => "relative URL with a cannot-be-a-base base"

/-- The host of a URL.  An address of sixteen bytes is given by its eight pieces. -/
inductive Url.Host where
  | name (text : String)
  | ipv4 (address : Nat)
  | ipv6 (pieces : List Nat)
deriving DecidableEq, Repr

namespace Url.Host

/-! ### Addresses of four bytes -/

/-- A part of an address: decimal, octal after `0`, or hexadecimal after `0x`. -/
def ipv4Part? : List Char → Option Nat
  | [] => none
  | '0' :: 'x' :: digits => Text.numeral? 16 digits
  | '0' :: 'X' :: digits => Text.numeral? 16 digits
  | '0' :: digits => Text.numeral? 8 digits
  | digits => Text.numeral? 10 digits

/-- The dotted parts of a name, without the empty one after a final dot. -/
def dotted (cs : List Char) : List (List Char) :=
  let parts := Text.splitAll (· = '.') cs
  if 1 < parts.length && parts.getLast? = some [] then parts.dropLast else parts

/-- Whether the last part of a name is a number, so that the name has to be an address. -/
def endsInNumber (cs : List Char) : Bool :=
  match (dotted cs).getLast? with
  | none => false
  | some [] => false
  | some last =>
    last.all (fun c => '0' ≤ c && c ≤ '9')
      || (match last with
        | '0' :: 'x' :: digits => (Text.numeral? 16 digits).isSome
        | '0' :: 'X' :: digits => (Text.numeral? 16 digits).isSome
        | _ => false)

/-- The address with these parts: the last one fills the bytes that the others leave. -/
def ipv4OfParts? : List Nat → Option Nat
  | [] => none
  | parts =>
    let firsts := parts.dropLast
    let last := parts.getLastD 0
    let room := Nat.pow 256 (5 - parts.length)
    if 4 < parts.length then none
    else if firsts.any (255 < ·) then none
    else if room ≤ last then none
    else
      let high := firsts.foldl (fun n part => n * 256 + part) 0
      some (high * room + last)

/-- An address of four bytes. -/
def ipv4? (cs : List Char) : Option Nat :=
  ((dotted cs).mapM ipv4Part?).bind ipv4OfParts?

/-- The text of an address of four bytes. -/
def renderIpv4 (address : Nat) : List Char :=
  List.intercalate ['.'] ([16777216, 65536, 256, 1].map fun place =>
    Nat.toDigits 10 (address / place % 256))

/-! ### Addresses of sixteen bytes -/

/-- A byte in decimal, without leading zeros. -/
def decimalByte? (digits : List Char) : Option Nat :=
  match digits with
  | [] => none
  | ['0'] => some 0
  | '0' :: _ => none
  | _ => (Text.numeral? 10 digits).filter (· ≤ 255)

/-- The two pieces that four dotted bytes stand for. -/
def embeddedIpv4? (cs : List Char) : Option (List Nat) :=
  match (Text.splitAll (· = '.') cs).mapM decimalByte? with
  | some [a, b, c, d] => some [a * 256 + b, c * 256 + d]
  | _ => none

/-- A piece: one to four hexadecimal digits. -/
def piece? (digits : List Char) : Option Nat :=
  if digits.isEmpty || 4 < digits.length then none else Text.numeral? 16 digits

/-- The pieces of a list of groups; the last group may be four dotted bytes where `final` says so. -/
def pieces? (final : Bool) : List (List Char) → Option (List Nat)
  | [] => some []
  | [group] =>
    if final && group.contains '.' then embeddedIpv4? group else (piece? group).map ([·])
  | group :: groups => do
    let first ← piece? group
    let rest ← pieces? final groups
    return first :: rest

/-- The groups of one side of an address. -/
def groups (cs : List Char) : List (List Char) :=
  if cs.isEmpty then [] else Text.splitAll (· = ':') cs

/-- Cuts a text at its first double colon. -/
def cutDoubleColon : List Char → Option (List Char × List Char)
  | [] => none
  | [_] => none
  | a :: b :: rest =>
    if a = ':' && b = ':' then some ([], rest)
    else (cutDoubleColon (b :: rest)).map fun (before, after) => (a :: before, after)

/-- An address of sixteen bytes.  A double colon stands for at least one piece of zero. -/
def ipv6? (cs : List Char) : Option (List Nat) :=
  match cutDoubleColon cs with
  | none => (pieces? true (groups cs)).filter (·.length = 8)
  | some (before, after) => do
    let left ← pieces? false (groups before)
    let right ← pieces? true (groups after)
    if left.length + right.length ≤ 7 then
      return left ++ List.replicate (8 - left.length - right.length) 0 ++ right
    else none

/-- The length of the run of zeros at the head of a list. -/
def zeroRun (pieces : List Nat) : Nat :=
  (pieces.takeWhile (· = 0)).length

/-- The length of the longest run of zeros. -/
def longestRun : List Nat → Nat
  | [] => 0
  | p :: rest => max (zeroRun (p :: rest)) (longestRun rest)

/-- The place of the first run of `length` zeros. -/
def runPlace (length : Nat) : List Nat → Nat
  | [] => 0
  | p :: rest => if zeroRun (p :: rest) = length then 0 else runPlace length rest + 1

/-- Pieces in hexadecimal, with colons between them. -/
def renderPieces (pieces : List Nat) : List Char :=
  List.intercalate [':'] (pieces.map (Nat.toDigits 16 ·))

/-- The text of an address of sixteen bytes: the first of the longest runs of zeros is left out. -/
def renderIpv6 (pieces : List Nat) : List Char :=
  let length := longestRun pieces
  if length ≤ 1 then renderPieces pieces
  else
    let place := runPlace length pieces
    renderPieces (pieces.take place) ++ [':', ':'] ++ renderPieces (pieces.drop (place + length))

/-! ### Names -/

/-- Characters that no name may hold. -/
def isForbidden (c : Char) : Bool :=
  c.toNat ≤ 0x20 || c.toNat = 0x7F || "#/:<>?@[\\]^|%".contains c

/-- Reads an address in brackets, the opening one having been passed. -/
def parseBracketed (cs : List Char) : Except Fault Host :=
  match cs.getLast? with
  | some ']' => match ipv6? cs.dropLast with
    | some pieces => .ok (.ipv6 pieces)
    | none => .error .invalidIpv6
  | _ => .error .invalidIpv6

/-- Reads the host of a network URL. -/
def parse (cs : List Char) : Except Fault Host :=
  match cs with
  | '[' :: rest => parseBracketed rest
  | _ =>
    match (Utf8.decode? (Percent.decode (Utf8.encode cs))).bind Name.toAscii? with
    | none => .error .invalidName
    | some text =>
      if text.any isForbidden then .error .invalidName
      else if text.isEmpty then .error .emptyHost
      else if endsInNumber text then
        match ipv4? text with
        | some address => .ok (.ipv4 address)
        | none => .error .invalidIpv4
      else .ok (.name (String.ofList text))

/-- Characters that no opaque host may hold. -/
def isForbiddenOpaque (c : Char) : Bool :=
  c.toNat = 0 || c.toNat = 9 || c.toNat = 10 || c.toNat = 13 || " #/:<>?@[\\]^|".contains c

/-- Reads the host of a URL that is no network URL. -/
def parseOpaque (cs : List Char) : Except Fault Host :=
  match cs with
  | '[' :: rest => parseBracketed rest
  | _ =>
    if cs.any isForbiddenOpaque then .error .invalidHostCharacter
    else .ok (.name (String.ofList (Percent.encode (fun b => 0x20 ≤ b && b ≠ 0x7F) cs)))

/-- The text of a host. -/
def render : Host → List Char
  | .name text => text.toList
  | .ipv4 address => renderIpv4 address
  | .ipv6 pieces => ['['] ++ renderIpv6 pieces ++ [']']

end Url.Host

end WorkspaceSchema
