import Mathlib.Tactic.Lemma
import WorkspaceSchema.Proofs.Base64
import WorkspaceSchema.Proofs.Http.Censoring
import WorkspaceSchema.Token.Exchange

/-!
# Accounts and their private keys

How much of an account depends on its private key?  Documents are compared here that hold the same but
for the member of one name.  A record that is read from them has the same values but for the field of
this name (`Json.Fields.same_of_ofJson`), since every member is read on its own.  So accounts whose keys
differ in the private key alone state the same, and only the signature tells them apart.
-/

namespace WorkspaceSchema

namespace Json

/-- A document without the members of one name. -/
def without (name : String) : Json → Json
  | .object members => .object (members.filter (·.1 ≠ name))
  | j => j

namespace Fields

/-- Whether drafts of a record hold the same for all fields but those of one name. -/
def SameDraft (except : String) : (f : Fields) → f.Draft → f.Draft → Prop
  | .nil, _, _ => True
  | .cons name _ _ rest, (v, others), (v', others') =>
    (name ≠ except → v = v') ∧ rest.SameDraft except others others'

/-- Whether the values of a record are the same for all fields but those of one name. -/
def Same (except : String) : (f : Fields) → f.Slots → f.Slots → Prop
  | .nil, _, _ => True
  | .cons name _ _ rest, (v, others), (v', others') =>
    (name ≠ except → v = v') ∧ rest.Same except others others'

variable {except : String}

lemma SameDraft.refl : (f : Fields) → (d : f.Draft) → f.SameDraft except d d
  | .nil, _ => trivial
  | .cons _ _ _ rest, (_, others) => ⟨fun _ => rfl, .refl rest others⟩

lemma SameDraft.symm : {f : Fields} → {d d' : f.Draft} → f.SameDraft except d d' →
    f.SameDraft except d' d
  | .nil, _, _, _ => trivial
  | .cons _ _ _ _, (_, _), (_, _), ⟨same, later⟩ => ⟨fun other => (same other).symm, later.symm⟩

lemma SameDraft.trans : {f : Fields} → {d d' d'' : f.Draft} → f.SameDraft except d d' →
    f.SameDraft except d' d'' → f.SameDraft except d d''
  | .nil, _, _, _, _, _ => trivial
  | .cons _ _ _ _, (_, _), (_, _), (_, _), ⟨same, later⟩, ⟨same', later'⟩ =>
    ⟨fun other => (same other).trans (same' other), later.trans later'⟩

/-- A member is taken up by the first field of its name. -/
lemma ofMember_cons (name field : String) (p : Presence) (s : Shape) (rest : Fields) (j : Json)
    (v : Option (p.Slot s.Val)) (others : rest.Draft) :
    (cons field p s rest).ofMember name j (v, others) =
      if name = field then
        if v.isSome then .error (.duplicateField field)
        else (slotOf (s.ofJson ·) j p).map fun v => (some v, others)
      else (rest.ofMember name j others).map (v, ·) := by
  rw [ofMember]
  rfl

/-- A member of this name changes nothing else. -/
lemma sameDraft_of_ofMember {f : Fields} {j : Json} {d d' : f.Draft}
    (read : f.ofMember except j d = .ok d') : f.SameDraft except d d' := by
  match f, d, d' with
  | .nil, _, _ => trivial
  | .cons field p s rest, (v, others), (v', others') =>
    rw [ofMember_cons] at read
    by_cases here : except = field
    · rw [if_pos here] at read
      split at read
      · cases read
      · cases slot : slotOf (s.ofJson ·) j p with
        | error reason => rw [slot] at read; cases read
        | ok w =>
          rw [slot] at read
          cases read
          exact ⟨fun other => absurd here.symm other, .refl rest others⟩
    · rw [if_neg here] at read
      cases later : rest.ofMember except j others with
      | error reason => rw [later] at read; cases read
      | ok others'' =>
        rw [later] at read
        cases read
        exact ⟨fun _ => rfl, sameDraft_of_ofMember later⟩

/-- A member of another name changes drafts that are the same in the same way. -/
lemma SameDraft.ofMember {f : Fields} {name : String} (other : name ≠ except) {j : Json}
    {d d' e : f.Draft} (same : f.SameDraft except d d') (read : f.ofMember name j d = .ok e) :
    ∃ e', f.ofMember name j d' = .ok e' ∧ f.SameDraft except e e' := by
  match f, d, d', e with
  | .nil, _, _, _ => exact ⟨(), rfl, trivial⟩
  | .cons field p s rest, (v, others), (v', others'), (w, filled) =>
    rw [ofMember_cons] at read ⊢
    by_cases here : name = field
    · obtain rfl : v = v' := same.1 (here ▸ other)
      rw [if_pos here] at read ⊢
      split at read
      · cases read
      · rename_i free
        rw [if_neg free]
        cases slot : slotOf (s.ofJson ·) j p with
        | error reason => rw [slot] at read; cases read
        | ok w =>
          rw [slot] at read
          cases read
          exact ⟨_, rfl, fun _ => rfl, same.2⟩
    · rw [if_neg here] at read ⊢
      cases later : rest.ofMember name j others with
      | error reason => rw [later] at read; cases read
      | ok filled' =>
        rw [later] at read
        cases read
        obtain ⟨e', read', same'⟩ := SameDraft.ofMember other same.2 later
        exact ⟨_, congrArg (Except.map _) read', same.1, same'⟩

/-- What is read from all members is read from the members of the other names as well, but for the fields
of one name. -/
lemma exists_filtered (except : String) {f : Fields} {members : List (String × Json)} {d d' e : f.Draft}
    (same : f.SameDraft except d d')
    (read : members.foldlM (fun draft m => f.ofMember m.1 m.2 draft) d = .ok e) :
    ∃ e', (members.filter (·.1 ≠ except)).foldlM (fun draft m => f.ofMember m.1 m.2 draft) d' = .ok e' ∧
      f.SameDraft except e e' := by
  induction members generalizing d d' with
  | nil =>
    cases read
    exact ⟨d', rfl, same⟩
  | cons m members ih =>
    rw [List.foldlM_cons] at read
    cases one : f.ofMember m.1 m.2 d with
    | error reason => rw [one] at read; cases read
    | ok d₁ =>
      rw [one] at read
      by_cases here : m.1 = except
      · -- The member is read on one side only, where it fills the field of its name or none.
        rw [List.filter_cons_of_neg (by simpa using here)]
        rw [here] at one
        exact ih ((sameDraft_of_ofMember one).symm.trans same) read
      · rw [List.filter_cons_of_pos (by simpa using here), List.foldlM_cons]
        obtain ⟨d₁', one', same'⟩ := same.ofMember here one
        obtain ⟨e', read', final⟩ := ih same' read
        refine ⟨e', ?_, final⟩
        rw [one']
        exact read'

/-- Drafts that are the same give the same values. -/
lemma SameDraft.complete {f : Fields} {d d' : f.Draft} {v v' : f.Slots} (same : f.SameDraft except d d')
    (completed : f.complete d = .ok v) (completed' : f.complete d' = .ok v') : f.Same except v v' := by
  match f, d, d', v, v' with
  | .nil, _, _, _, _ => trivial
  | .cons field p s rest, (w, others), (w', others'), (v, slots), (v', slots') =>
    have settled {w : Option (p.Slot s.Val)} {others : rest.Draft} {v : p.Slot s.Val} {slots : rest.Slots}
        (completed : (cons field p s rest).complete (w, others) = .ok (v, slots)) :
        w.or (p.absent? s.initial) = some v ∧ rest.complete others = .ok slots := by
      unfold Fields.complete at completed
      cases w with
      | some w =>
        cases later : rest.complete others with
        | error field => rw [later] at completed; cases completed
        | ok filled => rw [later] at completed; cases completed; exact ⟨rfl, rfl⟩
      | none =>
        rw [Option.none_or]
        cases absent : p.absent? s.initial with
        | none => rw [absent] at completed; cases completed
        | some w =>
          rw [absent] at completed
          cases later : rest.complete others with
          | error field => rw [later] at completed; cases completed
          | ok filled => rw [later] at completed; cases completed; exact ⟨rfl, rfl⟩
    obtain ⟨value, later⟩ := settled completed
    obtain ⟨value', later'⟩ := settled completed'
    refine ⟨fun other => ?_, same.2.complete later later'⟩
    rw [same.1 other, value'] at value
    exact (Option.some.inj value).symm

end Fields

/-- Records that are read from objects which are the same but for the members of one name have the same
values but for the fields of this name. -/
lemma Fields.same_of_ofJson {except name : String} {f : Fields} {members members' : List (String × Json)}
    {v v' : f.Slots} (same : members.filter (·.1 ≠ except) = members'.filter (·.1 ≠ except))
    (read : (Shape.record name f).ofJson (.object members) = .ok v)
    (read' : (Shape.record name f).ofJson (.object members') = .ok v') : f.Same except v v' := by
  have reading {members : List (String × Json)} {v : f.Slots}
      (read : (Shape.record name f).ofJson (.object members) = .ok v) :
      ∃ d, members.foldlM (fun draft m => f.ofMember m.1 m.2 draft) f.draft = .ok d ∧
        f.complete d = .ok v := by
    rw [Shape.ofJson] at read
    cases drafted : members.foldlM (fun draft m => f.ofMember m.1 m.2 draft) f.draft with
    | error reason =>
      rw [drafted] at read
      cases read
    | ok d =>
      rw [drafted] at read
      refine ⟨d, rfl, ?_⟩
      simp only [bind, Except.bind] at read
      cases completed : f.complete d with
      | error field => rw [completed] at read; cases read
      | ok slots => rw [completed] at read; cases read; rfl
  obtain ⟨d, drafted, completed⟩ := reading read
  obtain ⟨d', drafted', completed'⟩ := reading read'
  obtain ⟨e, filtered, before⟩ := exists_filtered except (.refl f f.draft) drafted
  obtain ⟨e', filtered', before'⟩ := exists_filtered except (.refl f f.draft) drafted'
  rw [same] at filtered
  obtain rfl : e = e' := Except.ok.inj (filtered.symm.trans filtered')
  exact (before.trans before'.symm).complete completed completed'

end Json

namespace Account

/-- The name under which documents hold the private key. -/
def privateKeyName : String := "private_key"

/-- A key without the private key. -/
def Key.withoutSecret (k : Key) : Key :=
  { k with privateKey := "" }

/-- The private key is in no text about a key. -/
lemma Key.describe_withoutSecret (k : Key) : k.withoutSecret.describe = k.describe :=
  rfl

/-- Keys from documents that are the same but for the private key are so themselves. -/
lemma Key.withoutSecret_eq {members members' : List (String × Json)} {k k' : Key}
    (same : members.filter (·.1 ≠ privateKeyName) = members'.filter (·.1 ≠ privateKeyName))
    (read : Key.ofJson (.object members) = .ok k) (read' : Key.ofJson (.object members') = .ok k') :
    k.withoutSecret = k'.withoutSecret := by
  unfold ofJson at read read'
  cases given : shape.ofJson (.object members) with
  | error reason => rw [given] at read; cases read
  | ok v =>
    cases given' : shape.ofJson (.object members') with
    | error reason => rw [given'] at read'; cases read'
    | ok v' =>
      rw [given] at read
      rw [given'] at read'
      cases read
      cases read'
      obtain ⟨email, id, -, project, uri, domain, -⟩ := Json.Fields.same_of_ofJson same given given'
      unfold Key.withoutSecret ofVal
      dsimp only
      rw [email (by decide), id (by decide), project (by decide), uri (by decide), domain (by decide)]

/-- Accounts that are the same but for their private keys. -/
structure Source.Alike (a a' : Source) : Prop where
  key : a.key.withoutSecret = a'.key.withoutSecret
  scopes : a.scopes = a'.scopes
  subject : a.subject = a'.subject
  tokenUri : a.tokenUri = a'.tokenUri

/-- What an account consists of, if it can be set up from an object. -/
lemma Setup.exists_key_of_build {s : Setup} {a : Source} (built : s.build = .ok a) :
    ∃ members, s.document = .object members ∧ Key.ofJson (.object members) = .ok a.key ∧
      a.scopes = s.scopes ∧ a.subject = s.subject ∧
      a.tokenUri = (s.tokenUri.or a.key.tokenUri).getD defaultTokenUri := by
  unfold build at built
  cases document : s.document with
  | object members =>
    refine ⟨members, rfl, ?_⟩
    rw [document] at built
    split at built
    · cases built
    · split at built
      · cases built
      · cases read : Key.ofJson (.object members) with
        | error reason => rw [read] at built; cases built
        | ok key =>
          rw [read] at built
          dsimp only at built
          split at built
          · cases built
          · split at built
            · cases built
            · cases built
              exact ⟨rfl, rfl, rfl, rfl⟩
    · cases built
  | null | bool | number | text | array => rw [document] at built; cases built

/-- Accounts that are set up in one way from documents which are the same but for the private key are so
themselves. -/
lemma Setup.alike_of_build {s s' : Setup} {a a' : Source} (scopes : s.scopes = s'.scopes)
    (subject : s.subject = s'.subject) (tokenUri : s.tokenUri = s'.tokenUri)
    (same : s.document.without privateKeyName = s'.document.without privateKeyName)
    (built : s.build = .ok a) (built' : s'.build = .ok a') : a.Alike a' := by
  obtain ⟨members, object, read, scopes₁, subject₁, uri₁⟩ := exists_key_of_build built
  obtain ⟨members', object', read', scopes₂, subject₂, uri₂⟩ := exists_key_of_build built'
  rw [object, object'] at same
  have key := Key.withoutSecret_eq (Json.object.inj same) read read'
  have given : a.key.tokenUri = a'.key.tokenUri := (congrArg Key.tokenUri key :)
  exact ⟨key, by rw [scopes₁, scopes₂, scopes], by rw [subject₁, subject₂, subject],
    by rw [uri₁, uri₂, tokenUri, given]⟩

/-! ### Signatures -/

/-- There is no dot among the digits of a byte string. -/
lemma not_mem_encode (bytes : List UInt8) : '.' ∉ Base64.encode bytes := by
  have digit : ∀ n < 64, '.' ≠ Base64.digit ('-', '_') n := by decide
  intro member
  rcases Base64.mem_encodeWith member with padding | ⟨n, small, same⟩
  · cases padding
  · exact digit n small same

/-- What an account states is the same whatever its private key. -/
lemma Source.Alike.assertion {a a' : Source} (alike : a.Alike a') (now : Clock) :
    a.assertion now = a'.assertion now := by
  unfold Source.assertion
  have email : a.key.clientEmail = a'.key.clientEmail := (congrArg Key.clientEmail alike.key :)
  have id : a.key.privateKeyId = a'.key.privateKeyId := (congrArg Key.privateKeyId alike.key :)
  rw [email, id, alike.scopes, alike.subject, alike.tokenUri]

/-- The signature is all that the private key puts into a form. -/
lemma Source.Alike.form {a a' : Source} (alike : a.Alike a') {now : Clock} {form form' : Http.Body}
    (made : a.form? now = some form) (made' : a'.form? now = some form') :
    form.censored = form'.censored := by
  have cut (statement : Token.Assertion) (signature : List UInt8) :
      Http.unsigned (statement.compact signature) = String.ofList (statement.signed ++ ['.']) := by
    unfold Http.unsigned Token.Assertion.compact
    rw [String.toList_ofList, List.reverse_append, List.dropWhile_append_of_pos]
    · rw [List.reverse_append, List.reverse_singleton, List.singleton_append, List.dropWhile_cons_of_neg]
      · simp
      · simp
    · intro c member
      have other : c ≠ '.' := fun dot => not_mem_encode signature (dot ▸ List.mem_reverse.mp member)
      simpa using other
  unfold form? Token.Assertion.sign? at made made'
  rw [← alike.assertion] at made'
  simp only [Option.map_map, Option.map_eq_some_iff] at made made'
  obtain ⟨signature, -, rfl⟩ := made
  obtain ⟨signature', -, rfl⟩ := made'
  simp only [Function.comp, Http.Body.censored, List.map_cons, List.map_nil, cut, if_true]

end Account

end WorkspaceSchema
