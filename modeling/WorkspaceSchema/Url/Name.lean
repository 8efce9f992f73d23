import WorkspaceSchema.Url.Name.Composition
import WorkspaceSchema.Url.Name.Direction
import WorkspaceSchema.Url.Name.Joining
import WorkspaceSchema.Url.Name.Mapping
import WorkspaceSchema.Url.Punycode

/-!
# Names of hosts

The name of a host is a row of labels with dots between them, in any script.  `Name.toAscii?` gives
the one form of it that travels in a network: the characters are mapped and composed, so that equal
names have equal labels, each label is checked, and a label that is not in ASCII is written in
Punycode after `xn--`.
-/

namespace WorkspaceSchema.Url.Name

/-- Characters mapped and composed; none if one of them is refused. -/
def normalized? (cs : List Char) : Option (List Char) :=
  (cs.mapM mapped?).map fun targets => composed targets.flatten

/-- Whether a text is in ASCII. -/
def isAscii (cs : List Char) : Bool :=
  cs.all (·.toNat < 0x80)

/-- The text of an encoded label after `xn--`. -/
def encodedPart? : List Char → Option (List Char)
  | 'x' :: 'n' :: '-' :: '-' :: part => some part
  | _ => none

/-- The label that an encoded one stands for.  It has to be one that needed encoding, and in the form
that it would have been encoded in. -/
def decodedPart? (part : List Char) : Option (List Char) := do
  if part.isEmpty || part.getLast? = some '-' || !isAscii part || 2000 < part.length then none
  else
    let label ← Punycode.decode? part
    if normalized? label = some label then some label else none

/-- A label as it is read: an encoded one is decoded. -/
def readLabel? (label : List Char) : Option (List Char) :=
  match encodedPart? label with
  | some part => decodedPart? part
  | none => some label

/-- Whether a label may stand in a name: it begins with no mark, its joiners are in place, and it is
not too long to be encoded. -/
def isSound (label : List Char) : Bool :=
  !((label.head?.map Text.isMark).getD false) && joinersFit [] label
    && (isAscii label || label.length ≤ 1000)

/-- Whether the order of the characters of a name can be seen, if it is read from right to left. -/
def areOrdered (labels : List (List Char)) : Bool :=
  !(labels.any (·.any fun c => (Direction.of c).isRightward)) || labels.all isOrdered

/-- A label in ASCII. -/
def asciiLabel (label : List Char) : List Char :=
  if isAscii label then label else "xn--".toList ++ Punycode.encode label

/-- A name in ASCII. -/
def toAscii? (cs : List Char) : Option (List Char) := do
  let labels ← (Text.splitAll (· = '.') (← normalized? cs)).mapM readLabel?
  if labels.all isSound && areOrdered labels then
    some (List.intercalate ['.'] (labels.map asciiLabel))
  else none

end WorkspaceSchema.Url.Name
