import WorkspaceSchema.Proofs.Json.Parser
import WorkspaceSchema.Proofs.Json.Shape

/-!
# Attributes

A record is written as an object whose members are the attributes that are set.  `Fields.attributes` lists all of
them, set or not, and the members are those of them that are (`toMembers_eq`).  What is read from the text of the
record is such an object again (`hasExactly_sorted`): reading puts the members in order, and as no two of them have
one name, none is lost.

Whether there is a null in a document is decided by what its members and items hold (`NullFree`).
-/

namespace WorkspaceSchema.Json

/-! ### Documents without null -/

/-- A document that has no null in it, at any depth. -/
inductive NullFree : Json → Prop where
  | bool (value : Bool) : NullFree (.bool value)
  | number (value : Number) : NullFree (.number value)
  | text (value : String) : NullFree (.text value)
  | array {items : List Json} (each : ∀ j ∈ items, NullFree j) : NullFree (.array items)
  | object {members : List (String × Json)} (each : ∀ m ∈ members, NullFree m.2) : NullFree (.object members)

/-- An object that has the attributes that are set for members, each of them once, and no other members. -/
def HasExactly (attributes : List (String × Option Json)) (j : Json) : Prop :=
  ∃ members, j = .object members ∧ (members.map (·.1)).Nodup ∧
    ∀ name value, (name, value) ∈ members ↔ (name, some value) ∈ attributes

/-- An object has no null in it if no attribute that is set has one. -/
lemma HasExactly.nullFree {attributes : List (String × Option Json)} {j : Json}
    (has : j.HasExactly attributes) (each : ∀ a ∈ attributes, ∀ value ∈ a.2, NullFree value) : NullFree j := by
  obtain ⟨members, rfl, -, same⟩ := has
  apply NullFree.object
  intro m member
  have among : (m.1, some m.2) ∈ attributes := (same m.1 m.2).mp member
  exact each _ among m.2 rfl

/-! ### The members of records -/

/-- The value of a field, if it is set. -/
def Presence.given? {α : Type} : (p : Presence) → p.Slot α → Option α
  | .required, v | .defaulted, v => some v
  | .optional, v | .omittable, v => v

/-- The attributes of a record, with their documents where they are set. -/
def Fields.attributes : (f : Fields) → f.Slots → List (String × Option Json)
  | .nil, _ => []
  | .cons name p s rest, (v, others) => (name, (p.given? v).map s.toJson) :: rest.attributes others

/-- The members for the attributes that are set. -/
def present (attributes : List (String × Option Json)) : List (String × Json) :=
  attributes.filterMap fun a => a.2.map (a.1, ·)

lemma mem_present_iff {attributes : List (String × Option Json)} {name : String} {value : Json} :
    (name, value) ∈ present attributes ↔ (name, some value) ∈ attributes := by
  unfold present
  rw [List.mem_filterMap]
  constructor
  · rintro ⟨⟨name', value'⟩, member, same⟩
    obtain ⟨value'', rfl, same⟩ := Option.map_eq_some_iff.mp same
    obtain ⟨rfl, rfl⟩ := Prod.mk.inj same
    exact member
  · intro member
    exact ⟨_, member, rfl⟩

/-- The members of a record are its attributes that are set. -/
lemma Fields.toMembers_eq : (f : Fields) → (slots : f.Slots) → f.toMembers slots = present (f.attributes slots)
  | .nil, _ => rfl
  | .cons name p s rest, (v, others) => by
    have first : slotMember name (s.toJson ·) p v = present [(name, (p.given? v).map s.toJson)] := by
      cases p with
      | required | defaulted => rfl
      | optional | omittable => cases v <;> rfl
    rw [Fields.toMembers, first, rest.toMembers_eq others]
    exact (List.filterMap_append (l := [_])).symm

/-- Attributes are named as the fields are. -/
lemma Fields.names_attributes : (f : Fields) → (slots : f.Slots) → (f.attributes slots).map (·.1) = f.names
  | .nil, _ => rfl
  | .cons name p s rest, (v, others) => by
    rw [attributes, List.map_cons, rest.names_attributes others, names]

/-- The members of an object are read in order. -/
lemma sortedMembers_eq (members : List (String × Json)) :
    sortedMembers members = members.map fun m => (m.1, m.2.sorted) := by
  induction members with
  | nil => rw [sortedMembers, List.map_nil]
  | cons m members ih => rw [sortedMembers, ih, List.map_cons]

/-- The items of a list are read one by one. -/
lemma sortedItems_eq (items : List Json) : sortedItems items = items.map sorted := by
  induction items with
  | nil => rw [sortedItems, List.map_nil]
  | cons j items ih => rw [sortedItems, ih, List.map_cons]

/-- What is made of the values of members is made of the attributes. -/
lemma map_present (f : Json → Json) (attributes : List (String × Option Json)) :
    (present attributes).map (fun m => (m.1, f m.2)) = present (attributes.map fun a => (a.1, a.2.map f)) := by
  unfold present
  rw [List.map_filterMap, List.filterMap_map]
  refine List.filterMap_congr fun a _ => ?_
  cases h : a.2 <;> simp [h]

/-- Members are kept when they are put in order, if they have different names. -/
lemma hasExactly_ofMembers {attributes : List (String × Option Json)}
    (different : (attributes.map (·.1)).Nodup) : (ofMembers (present attributes)).HasExactly attributes := by
  have names : attributes.Pairwise (·.1 ≠ ·.1) := List.pairwise_map.mp different
  have apart : (present attributes).Pairwise (·.1 ≠ ·.1) := by
    refine List.Pairwise.filterMap _ (fun a a' other m here m' here' => ?_) names
    obtain ⟨value, -, rfl⟩ := Option.map_eq_some_iff.mp here
    obtain ⟨value', -, rfl⟩ := Option.map_eq_some_iff.mp here'
    exact other
  obtain ⟨ordered, perm⟩ := @foldl_insertMember [] (present attributes) apart .nil
  refine ⟨_, rfl, List.pairwise_map.mpr (ordered.imp fun {m m'} before same => ?_), fun name value => ?_⟩
  · exact String.lt_irrefl m'.1 (same ▸ before)
  · rw [perm.mem_iff, List.nil_append]
    exact mem_present_iff

/-- So they are when an object is read. -/
lemma hasExactly_sorted {attributes : List (String × Option Json)} (different : (attributes.map (·.1)).Nodup) :
    (object (present attributes)).sorted.HasExactly (attributes.map fun a => (a.1, a.2.map sorted)) := by
  have different' : ((attributes.map fun a => (a.1, a.2.map sorted)).map (·.1)).Nodup := by
    rw [List.map_map]
    exact different
  rw [sorted, sortedMembers_eq, map_present]
  exact hasExactly_ofMembers different'

/-- A record is read as an object with the attributes that are set, as they are read themselves. -/
lemma Shape.hasExactly_record {name : String} {fields : Fields} (different : fields.names.Nodup)
    (slots : fields.Slots) : ((Shape.record name fields).toJson slots).sorted.HasExactly
      ((fields.attributes slots).map fun a => (a.1, a.2.map sorted)) := by
  rw [Shape.toJson, fields.toMembers_eq]
  apply hasExactly_sorted
  rw [fields.names_attributes]
  exact different

/-! ### Documents that can be read -/

mutual

/-- A value of a shape can be read back as a document, if the shape is not nested too deeply. -/
lemma Shape.isReadable_toJson (s : Shape) {levels : Nat} (deep : s.depth < levels) {v : s.Val} (fits : s.Fits v) :
    isReadable levels (s.toJson v) = true := by
  obtain ⟨levels, rfl⟩ := Nat.exists_eq_succ_of_ne_zero (Nat.ne_zero_of_lt deep)
  match s with
  | .text | .bool | .choice _ _ => rfl
  | .int32 => exact decide_eq_true (readable_int32 fits)
  | .word64 => exact decide_eq_true (readable_word64 (Int.natCast_nonneg v) fits)
  | .list item =>
    unfold Shape.depth at deep
    have inner : item.depth < levels := by omega
    have filled : levels ≠ 0 := by omega
    rw [Shape.toJson, isReadable, Bool.and_eq_true, decide_eq_true_eq, List.all_map, List.all_eq_true]
    exact ⟨filled, fun v member => item.isReadable_toJson inner (fits v member)⟩
  | .record name fields =>
    unfold Shape.depth at deep
    have inner : fields.depth < levels := by omega
    have filled : levels ≠ 0 := by omega
    rw [Shape.toJson, isReadable, Bool.and_eq_true, decide_eq_true_eq, List.all_eq_true]
    exact ⟨filled, fields.isReadable_toMembers inner fits⟩

/-- So can what the members of a record hold. -/
lemma Fields.isReadable_toMembers (f : Fields) {levels : Nat} (deep : f.depth < levels) {slots : f.Slots}
    (fit : f.Fit slots) : ∀ m ∈ f.toMembers slots, isReadable levels m.2 = true := by
  match f, slots with
  | .nil, () => exact List.forall_mem_nil _
  | .cons name p s rest, (v, others) =>
    unfold Fields.depth at deep
    have inner : s.depth < levels := by omega
    have later : rest.depth < levels := by omega
    have here : p.Holds (fun a => isReadable levels (s.toJson a) = true) v :=
      Presence.Holds.imp (fun a fits => s.isReadable_toJson inner fits) fit.1
    intro m member
    rw [Fields.toMembers, List.mem_append] at member
    rcases member with first | member
    · cases p with
      | required | defaulted =>
        obtain rfl := List.mem_singleton.mp first
        exact here
      | optional | omittable =>
        cases v with
        | none => cases first
        | some v =>
          obtain rfl := List.mem_singleton.mp first
          exact here v rfl
    · exact rest.isReadable_toMembers later fit.2 m member

end

end WorkspaceSchema.Json
