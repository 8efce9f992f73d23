import WorkspaceSchema.Json.Container

/-!
# Shapes

A `Shape` says which documents a program accepts and what they mean to it: texts, flags, numbers of
a fixed width, one of several names, lists, and records of named fields.  `Shape.Val` is the type of
the values of a shape, so a reader for a shape and a writer for it are functions between documents
and one and the same type.

A record may be given as an object, in which unknown members are passed over, or as the list of its
fields in their order.  How a field may be left out is its `Presence`.
-/

namespace WorkspaceSchema.Json

/-- How a field may be left out.  An optional or omittable field may also be null. -/
inductive Presence where
  /-- The field has to be there. -/
  | required
  /-- The field may be missing from an object, but not from a list. -/
  | optional
  /-- The field may be missing from both. -/
  | omittable
  /-- A missing field has the initial value of its shape. -/
  | defaulted

/-- The smallest whole number of 32 bits. -/
def int32Low : Int := -2147483648

/-- The greatest whole number of 32 bits. -/
def int32High : Int := 2147483647

/-- The greatest whole number of 64 bits without a sign. -/
def word64High : Int := 18446744073709551615

mutual

/-- What a document looks like. -/
inductive Shape where
  | text
  | bool
  | int32
  | word64
  | choice (first : String) (others : List String)
  | list (item : Shape)
  | record (name : String) (fields : Fields)

/-- The fields of a record, in their order. -/
inductive Fields where
  | nil
  | cons (name : String) (presence : Presence) (shape : Shape) (rest : Fields)

end

/-- What is known of a field whose values are of type `α`. -/
@[reducible] def Presence.Slot (p : Presence) (α : Type) : Type :=
  match p with
  | .required | .defaulted => α
  | .optional | .omittable => Option α

mutual

/-- The values of a shape.  A choice is given by its place in the list of names. -/
@[reducible] def Shape.Val : Shape → Type
  | .text => String
  | .bool => Bool
  | .int32 => Int
  | .word64 => Nat
  | .choice _ others => Fin (others.length + 1)
  | .list item => List item.Val
  | .record _ fields => fields.Slots

/-- The values of the fields of a record. -/
@[reducible] def Fields.Slots : Fields → Type
  | .nil => Unit
  | .cons _ p s rest => p.Slot s.Val × rest.Slots

end

/-- The values read so far, field by field. -/
@[reducible] def Fields.Draft : Fields → Type
  | .nil => Unit
  | .cons _ p s rest => Option (p.Slot s.Val) × rest.Draft

mutual

/-- The initial value of a shape. -/
def Shape.initial : (s : Shape) → s.Val
  | .text => ""
  | .bool => false
  | .int32 => (0 : Int)
  | .word64 => (0 : Nat)
  | .choice _ others => (⟨0, Nat.succ_pos _⟩ : Fin (others.length + 1))
  | .list _ => []
  | .record _ fields => fields.initial

/-- The initial values of the fields of a record. -/
def Fields.initial : (f : Fields) → f.Slots
  | .nil => ()
  | .cons _ p s rest =>
    (match p with
      | .required => s.initial
      | .defaulted => s.initial
      | .optional => none
      | .omittable => none,
     rest.initial)

end

/-- The value of a field that is missing from an object. -/
def Presence.absent? {α : Type} (initial : α) : (p : Presence) → Option (p.Slot α)
  | .required => none
  | .optional => some none
  | .omittable => some none
  | .defaulted => some initial

/-- The value of a field that is missing from a list. -/
def Presence.unlisted? {α : Type} (initial : α) : (p : Presence) → Option (p.Slot α)
  | .required => none
  | .optional => none
  | .omittable => some none
  | .defaulted => some initial

namespace Fields

/-- The number of fields. -/
def length : Fields → Nat
  | .nil => 0
  | .cons _ _ _ rest => rest.length + 1

/-- The draft before anything has been read. -/
def draft : (f : Fields) → f.Draft
  | .nil => ()
  | .cons _ _ _ rest => (none, rest.draft)

/-- The values of a draft, the missing ones filled in, or the first field that must not be missing. -/
def complete : (f : Fields) → f.Draft → Except String f.Slots
  | .nil, _ => .ok ()
  | .cons name p s rest, (value, others) =>
    match value, p.absent? s.initial with
    | some v, _ | none, some v => (rest.complete others).map (v, ·)
    | none, none => .error name

end Fields

/-- The names of a choice. -/
def variants (first : String) (others : List String) : List String :=
  first :: others

/-- The place of a name among the names of a choice. -/
def variant? (first : String) (others : List String) (name : String) :
    Option (Fin (others.length + 1)) :=
  (variants first others).finIdxOf? name

/-- The name at a place of a choice. -/
def variantName (first : String) (others : List String) (place : Fin (others.length + 1)) : String :=
  (variants first others).get place

/-- A record that is given as a list, in words. -/
def describeListed (name : String) (count : Nat) : String :=
  "struct " ++ name ++ " with " ++ String.ofList (Nat.toDigits 10 count)
    ++ (if count = 1 then " element" else " elements")

end WorkspaceSchema.Json
