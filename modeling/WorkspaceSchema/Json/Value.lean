import WorkspaceSchema.Decimal.Layout

/-!
# Documents

A document is a value of `Json`.  An object is the list of its members in the order in which they
are written.  An object that was read has its members sorted by name and no name twice:
`Json.insertMember` puts a member in its place and replaces an earlier one of the same name, so the
last of several wins.
-/

namespace WorkspaceSchema

/-- A number of a document: a whole number that fits 64 bits, signed or not, or a double. -/
inductive Json.Number where
  | integer (value : Int)
  | real (value : Float)

/-- A document. -/
inductive Json where
  | null
  | bool (value : Bool)
  | number (value : Json.Number)
  | text (value : String)
  | array (items : List Json)
  | object (members : List (String × Json))

namespace Json

/-- Puts a member into a sorted list of members. -/
def insertMember (name : String) (value : Json) : List (String × Json) → List (String × Json)
  | [] => [(name, value)]
  | (other, old) :: rest =>
    if name < other then (name, value) :: (other, old) :: rest
    else if name = other then (name, value) :: rest
    else (other, old) :: insertMember name value rest

/-- Of several members of one name the last is found. -/
theorem lookup_insertMember (k name : String) (value : Json) (members : List (String × Json)) :
    (insertMember name value members).lookup k = if k = name then some value else members.lookup k := by
  induction members with
  | nil => grind [insertMember]
  | cons m rest ih => grind [insertMember]

/-- The object with these members, given in any order. -/
def ofMembers (members : List (String × Json)) : Json :=
  .object (members.foldl (fun sorted m => insertMember m.1 m.2 sorted) [])

/-- The member of an object; no other value has members. -/
def member? (name : String) : Json → Option Json
  | .object members => members.lookup name
  | _ => none

/-- The text of a value that is a text. -/
def text? : Json → Option String
  | .text s => some s
  | _ => none

end Json

end WorkspaceSchema
