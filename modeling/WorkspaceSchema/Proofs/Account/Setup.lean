import WorkspaceSchema.Proofs.Json.Document
import WorkspaceSchema.Proofs.Run.Sample

/-!
# Setting up a service account

An account is set up from a key file and a sequence of settings.  `Ends` lists how this may end, each way
with what has to come before it, and `setUp_ends` shows that it ends in one of these ways and in no other.
What a key file has to hold is said in terms of what is found under the names that matter (`Key.IsIn`), so
nothing else in the file has a say in it.

A document is taken for a key field by field.  This is the same as looking up the name of each field, since an
object that was read has no name twice (`toOption_ofJson_record`).
-/

namespace WorkspaceSchema

namespace Json

/-! ### Records in documents -/

section Records

variable {ε α β : Type}

/-- The value of a field that a document gives. -/
def fieldOf? (p : Presence) (s : Shape) (j : Json) : Option (p.Slot s.Val) :=
  (slotOf (s.ofJson ·) j p).toOption

lemma toOption_map (f : α → β) (x : Except ε α) : (x.map f).toOption = x.toOption.map f := by
  cases x <;> rfl

lemma toOption_foldlM (f : α → β → Except ε α) (a : α) (bs : List β) :
    (bs.foldlM f a).toOption = bs.foldlM (fun a b => (f a b).toOption) a := by
  induction bs generalizing a with
  | nil => rfl
  | cons b bs ih =>
    rw [List.foldlM_cons, List.foldlM_cons]
    cases f a b with
    | error e => rfl
    | ok a' => exact ih a'

lemma Fields.toOption_ofMember : (f : Fields) → (name : String) → (j : Json) → (draft : f.Draft) →
    (f.ofMember name j draft).toOption = f.put? fieldOf? name j draft
  | .nil, _, _, _ => rfl
  | .cons field p s rest, name, j, (value, others) => by
    rw [ofMember_cons, put?]
    split_ifs
    · rfl
    · exact toOption_map _ _
    · rw [toOption_map, rest.toOption_ofMember]

/-- A record is taken from the members of an object, field by field. -/
lemma toOption_ofJson_record {name : String} {f : Fields} (distinct : f.names.Nodup)
    (members : List (String × Json)) :
    ((Shape.record name f).ofJson (.object members)).toOption = f.gather? fieldOf? members := by
  rw [Shape.ofJson, ← Fields.foldlM_put? distinct]
  simp only [← Fields.toOption_ofMember]
  rw [← toOption_foldlM]
  cases members.foldlM (fun draft m => f.ofMember m.1 m.2 draft) f.draft with
  | error reason => rfl
  | ok draft =>
    simp only [bind, Except.bind, Except.toOption, Option.bind_some]
    cases f.complete draft <;> rfl

lemma Fields.gather?_cons_eq_some {slot : (p : Presence) → (s : Shape) → β → Option (p.Slot s.Val)}
    {name : String} {p : Presence} {s : Shape} {rest : Fields} {members : List (String × β)}
    {v : p.Slot s.Val} {others : rest.Slots} :
    (Fields.cons name p s rest).gather? slot members = some (v, others) ↔
      only? (p.absent? s.initial) (slot p s) (values name members) = some v ∧
        rest.gather? slot members = some others := by
  rw [gather?]
  cases only? (p.absent? s.initial) (slot p s) (values name members) <;>
    cases rest.gather? slot members <;> simp

/-- Members in order have different names, so at most one of them is found. -/
lemma values_of_pairwise {members : List (String × Json)} (ordered : members.Pairwise (·.1 < ·.1))
    (name : String) : values name members = (members.lookup name).toList := by
  induction members with
  | nil => rfl
  | cons m members ih =>
    obtain ⟨least, later⟩ := List.pairwise_cons.mp ordered
    rw [values_cons, List.lookup_cons]
    split_ifs with here
    · subst here
      have none : values m.1 members = [] := by
        refine List.eq_nil_iff_forall_not_mem.mpr fun t member => ?_
        exact String.lt_irrefl m.1 (least (m.1, t) (mem_values.mp member))
      rw [none, beq_self_eq_true]
      rfl
    · rw [ih later, beq_false_of_ne (Ne.symm here)]

end Records

/-- Under a name a document may hold a text, null, or nothing. -/
def MayHold (j : Json) (name : String) (value : Option String) : Prop :=
  match value with
  | some s => j.member? name = some (.text s)
  | none => j.member? name = none ∨ j.member? name = some .null

/-- What is found where a document may hold something is null or a text. -/
lemma MayHold.eq_null_or_text {j found : Json} {name : String} {value : Option String}
    (may : j.MayHold name value) (there : j.member? name = some found) :
    found = .null ∨ ∃ s, found = .text s := by
  cases value with
  | some s => exact .inr ⟨s, Option.some.inj (there.symm.trans may)⟩
  | none =>
    rcases may with absent | null
    · exact nomatch there.symm.trans absent
    · exact .inl (Option.some.inj (there.symm.trans null))

lemma exists_mayHold {j : Json} {name : String}
    (right : ∀ found, j.member? name = some found → found = .null ∨ ∃ s, found = .text s) :
    ∃ value, j.MayHold name value := by
  cases there : j.member? name with
  | none => exact ⟨none, .inl there⟩
  | some found =>
    rcases right found there with rfl | ⟨s, rfl⟩
    · exact ⟨none, .inr there⟩
    · exact ⟨some s, there⟩

lemma only?_required {members : List (String × Json)} (ordered : members.Pairwise (·.1 < ·.1))
    {name value : String} :
    only? (Presence.required.absent? Shape.text.initial) (fieldOf? .required .text)
        (values name members) = some value ↔
      (object members).member? name = some (.text value) := by
  rw [values_of_pairwise ordered, member?]
  rcases members.lookup name with - | (_ | _ | _ | _ | _ | _) <;>
    simp [only?, Presence.absent?, fieldOf?, slotOf, Shape.ofJson, refuseKind, Except.toOption]

lemma only?_omittable {members : List (String × Json)} (ordered : members.Pairwise (·.1 < ·.1))
    {name : String} {value : Option String} :
    only? (Presence.omittable.absent? Shape.text.initial) (fieldOf? .omittable .text)
        (values name members) = some value ↔
      (object members).MayHold name value := by
  rw [values_of_pairwise ordered]
  unfold MayHold member?
  dsimp only
  rcases members.lookup name with - | (_ | _ | _ | _ | _ | _) <;> cases value <;>
    simp [only?, Presence.absent?, fieldOf?, slotOf, Shape.ofJson, refuseKind, Except.toOption, Except.map]

end Json

namespace Account

/-! ### Keys in documents -/

/-- That a document is that of a key, whatever else it holds. -/
structure Key.IsIn (k : Key) (j : Json) : Prop where
  clientEmail : j.member? "client_email" = some (.text k.clientEmail)
  privateKeyId : j.member? "private_key_id" = some (.text k.privateKeyId)
  privateKey : j.member? "private_key" = some (.text k.privateKey)
  projectId : j.MayHold "project_id" k.projectId
  tokenUri : j.MayHold "token_uri" k.tokenUri
  universeDomain : j.MayHold "universe_domain" k.universeDomain

/-- What may be wrong with the document of a key. -/
inductive Key.IsWrong (j : Json) : Prop where
  /-- Something is missing that has to be there, or it is no text. -/
  | required {name : String} (known : name ∈ ["client_email", "private_key_id", "private_key"])
    (other : ∀ value, j.member? name ≠ some (.text value))
  /-- Something is there that may be missing, and it is neither a text nor null. -/
  | omittable {name : String} {found : Json} (known : name ∈ ["project_id", "token_uri", "universe_domain"])
    (there : j.member? name = some found) (null : found ≠ .null) (text : ∀ value, found ≠ .text value)

/-- A key is taken from an object that holds it, and from no other one. -/
lemma Key.ofJson_eq_ok_iff {members : List (String × Json)} (ordered : members.Pairwise (·.1 < ·.1))
    {k : Key} : Key.ofJson (.object members) = .ok k ↔ k.IsIn (.object members) := by
  have found : (Key.shape.ofJson (.object members)).toOption =
      some (k.clientEmail, k.privateKeyId, k.privateKey, k.projectId, k.tokenUri, k.universeDomain, ()) ↔
        k.IsIn (.object members) := by
    rw [Json.toOption_ofJson_record (by decide)]
    rw [Json.Fields.gather?_cons_eq_some, Json.only?_required ordered,
      Json.Fields.gather?_cons_eq_some, Json.only?_required ordered,
      Json.Fields.gather?_cons_eq_some, Json.only?_required ordered,
      Json.Fields.gather?_cons_eq_some, Json.only?_omittable ordered,
      Json.Fields.gather?_cons_eq_some, Json.only?_omittable ordered,
      Json.Fields.gather?_cons_eq_some, Json.only?_omittable ordered]
    exact ⟨fun ⟨email, id, key, project, uri, domain, _⟩ => ⟨email, id, key, project, uri, domain⟩,
      fun is => ⟨is.clientEmail, is.privateKeyId, is.privateKey, is.projectId, is.tokenUri, is.universeDomain,
        rfl⟩⟩
  rw [← found]
  unfold ofJson
  cases shape.ofJson (.object members) with
  | error reason => exact ⟨nofun, nofun⟩
  | ok v =>
    obtain ⟨email, id, key, project, uri, domain, ⟨⟩⟩ := v
    obtain ⟨email', id', key', project', uri', domain'⟩ := k
    simp [ofVal, Except.map, Except.toOption]

/-- Nothing is wrong with the document of a key. -/
lemma Key.IsWrong.not_isIn {j : Json} (wrong : Key.IsWrong j) (k : Key) : ¬k.IsIn j := by
  intro is
  cases wrong with
  | required known other =>
    simp only [List.mem_cons, List.not_mem_nil, or_false] at known
    rcases known with rfl | rfl | rfl
    · exact other _ is.clientEmail
    · exact other _ is.privateKeyId
    · exact other _ is.privateKey
  | omittable known there null text =>
    have differs {value : Option String} (may : j.MayHold _ value) : False :=
      (may.eq_null_or_text there).elim null fun is => is.elim text
    simp only [List.mem_cons, List.not_mem_nil, or_false] at known
    rcases known with rfl | rfl | rfl
    · exact differs is.projectId
    · exact differs is.tokenUri
    · exact differs is.universeDomain

/-- A document that nothing is wrong with is that of a key. -/
lemma Key.exists_isIn {j : Json} (right : ¬Key.IsWrong j) : ∃ k : Key, k.IsIn j := by
  have required {name : String} (known : name ∈ ["client_email", "private_key_id", "private_key"]) :
      ∃ value, j.member? name = some (.text value) := by
    by_contra other
    exact right (.required known (not_exists.mp other))
  have omittable {name : String} (known : name ∈ ["project_id", "token_uri", "universe_domain"]) :
      ∃ value, j.MayHold name value := by
    refine Json.exists_mayHold fun found there => ?_
    by_contra other
    obtain ⟨null, text⟩ := not_or.mp other
    exact right (.omittable known there null (not_exists.mp text))
  obtain ⟨clientEmail, email⟩ := @required "client_email" (by decide)
  obtain ⟨privateKeyId, id⟩ := @required "private_key_id" (by decide)
  obtain ⟨privateKey, key⟩ := @required "private_key" (by decide)
  obtain ⟨projectId, project⟩ := @omittable "project_id" (by decide)
  obtain ⟨tokenUri, uri⟩ := @omittable "token_uri" (by decide)
  obtain ⟨universeDomain, domain⟩ := @omittable "universe_domain" (by decide)
  exact ⟨{ clientEmail, privateKeyId, privateKey, projectId, tokenUri, universeDomain },
    email, id, key, project, uri, domain⟩

/-- Either a document is that of a key, or something is wrong with it. -/
lemma Key.isWrong_iff {j : Json} : Key.IsWrong j ↔ ∀ k : Key, ¬k.IsIn j := by
  refine ⟨fun wrong => wrong.not_isIn, fun no => ?_⟩
  by_contra right
  obtain ⟨k, is⟩ := exists_isIn right
  exact no k is

/-! ### Settings -/

/-- A call that settles something about an account. -/
inductive Setting where
  | scopes (scopes : List String)
  | subject (subject : String)
  | tokenUri (tokenUri : String)

namespace Setting

/-- The scopes that a call asks for. -/
def scopes? : Setting → Option (List String)
  | .scopes asked => some asked
  | _ => none

/-- The person that a call names. -/
def subject? : Setting → Option String
  | .subject person => some person
  | _ => none

/-- The endpoint that a call names. -/
def tokenUri? : Setting → Option String
  | .tokenUri endpoint => some endpoint
  | _ => none

end Setting

/-- What the last of the calls says that say anything. -/
def last? {α : Type} (say : Setting → Option α) (calls : List Setting) : Option α :=
  (calls.filterMap say).getLast?

/-- Does what a call asks for. -/
def Setup.set (s : Setup) : Setting → Setup
  | .scopes asked => s.withScopes asked
  | .subject person => s.withSubject person
  | .tokenUri endpoint => s.withTokenUri endpoint

lemma last?_cons {α : Type} (say : Setting → Option α) (call : Setting) (calls : List Setting) :
    last? say (call :: calls) = (last? say calls).or (say call) := by
  unfold last?
  rw [List.filterMap_cons]
  cases say call with
  | none => exact (Option.or_none).symm
  | some a =>
    dsimp only
    rw [List.getLast?_cons]
    cases (calls.filterMap say).getLast? <;> rfl

/-- Of several calls of one kind the last one counts. -/
lemma Setup.foldl_set (s : Setup) (calls : List Setting) :
    calls.foldl Setup.set s = {
      document := s.document
      scopes := (last? Setting.scopes? calls).getD s.scopes
      subject := (last? Setting.subject? calls).or s.subject
      tokenUri := (last? Setting.tokenUri? calls).or s.tokenUri } := by
  induction calls generalizing s with
  | nil => rfl
  | cons call calls ih =>
    rw [List.foldl_cons, ih, last?_cons, last?_cons, last?_cons]
    cases call with
    | scopes asked =>
      simp only [Setup.set, Setup.withScopes, Setting.scopes?, Setting.subject?, Setting.tokenUri?,
        Option.or_none]
      cases last? Setting.scopes? calls <;> rfl
    | subject person =>
      simp only [Setup.set, Setup.withSubject, Setting.scopes?, Setting.subject?, Setting.tokenUri?,
        Option.or_none, Option.or_assoc, Option.some_or]
    | tokenUri endpoint =>
      simp only [Setup.set, Setup.withTokenUri, Setting.scopes?, Setting.subject?, Setting.tokenUri?,
        Option.or_none, Option.or_assoc, Option.some_or]

/-! ### How an account is set up -/

/-- Sets up an account from a key file, with some calls in between. -/
def setUp (files : Files) (path : String) (calls : List Setting) : Except Error Source := do
  let document ← load files path
  (calls.foldl Setup.set { document }).build

/-- The kinds of errors that are told apart. -/
inductive Kind where
  | loading
  | parsing
  | unknownType
  | invalidKey
  | missingField
deriving DecidableEq

/-- The kind of an error. -/
def Error.kind : Error → Kind
  | .loading _ _ => .loading
  | .parsing _ => .parsing
  | .unknownType _ => .unknownType
  | .invalidKey _ => .invalidKey
  | .missingScopes => .missingField

/-- That a file holds a text, and the text is read as a document. -/
def Holds (files : Files) (path : String) (j : Json) : Prop :=
  ∃ text, files path = .ok (Utf8.ofString text) ∧ Json.parse (Utf8.ofString text) = .ok j

/-- How it ends to set up an account. -/
inductive Ends (files : Files) (path : String) (calls : List Setting) : Except Kind Source → Prop where
  /-- There is no file. -/
  | missing {fault : FileFault} (absent : files path = .error fault) : Ends files path calls (.error .loading)
  /-- The file holds no text. -/
  | notText {bytes : List UInt8} (present : files path = .ok bytes)
      (other : ∀ text, bytes ≠ Utf8.ofString text) : Ends files path calls (.error .loading)
  /-- The text is no document. -/
  | noDocument {text : String} (present : files path = .ok (Utf8.ofString text))
      (other : ∀ j, Json.parse (Utf8.ofString text) ≠ .ok j) : Ends files path calls (.error .parsing)
  /-- The document is no object with a text as its type. -/
  | untyped {j : Json} (holds : Holds files path j) (other : ∀ type, j.member? "type" ≠ some (.text type)) :
      Ends files path calls (.error .parsing)
  /-- The type is not that of service accounts. -/
  | foreign {j : Json} {type : String} (holds : Holds files path j)
      (typed : j.member? "type" = some (.text type)) (other : type ≠ "service_account") :
      Ends files path calls (.error .unknownType)
  /-- Something else is wrong with the document. -/
  | wrong {j : Json} (holds : Holds files path j) (typed : j.member? "type" = some (.text "service_account"))
      (wrong : Key.IsWrong j) : Ends files path calls (.error .parsing)
  /-- The private key cannot be used. -/
  | unusable {j : Json} {k : Key} (holds : Holds files path j)
      (typed : j.member? "type" = some (.text "service_account")) (is : k.IsIn j)
      (unusable : ∀ signingKey, RsaKey.ofPem k.privateKey ≠ .ok signingKey) :
      Ends files path calls (.error .invalidKey)
  /-- There are no scopes to ask for. -/
  | unscoped {j : Json} {k : Key} {signingKey : RsaKey} (holds : Holds files path j)
      (typed : j.member? "type" = some (.text "service_account")) (is : k.IsIn j)
      (usable : RsaKey.ofPem k.privateKey = .ok signingKey)
      (none : last? Setting.scopes? calls = none ∨ last? Setting.scopes? calls = some []) :
      Ends files path calls (.error .missingField)
  /-- The account is set up. -/
  | done {j : Json} {k : Key} {signingKey : RsaKey} {scopes : List String} (holds : Holds files path j)
      (typed : j.member? "type" = some (.text "service_account")) (is : k.IsIn j)
      (usable : RsaKey.ofPem k.privateKey = .ok signingKey)
      (asked : last? Setting.scopes? calls = some scopes) (some : scopes ≠ []) :
      Ends files path calls (.ok {
        key := k
        signingKey
        scopes
        subject := last? Setting.subject? calls
        tokenUri :=
          ((last? Setting.tokenUri? calls).or k.tokenUri).getD "https://oauth2.googleapis.com/token" })

section

variable {files : Files} {path : String} {calls : List Setting}

/-- A file that cannot be read is not loaded. -/
lemma load_of_missing {fault : FileFault} (absent : files path = .error fault) :
    load files path = .error (.loading path fault) := by
  unfold load Files.readText
  rw [absent]
  rfl

/-- A file that holds no text is not loaded. -/
lemma load_of_notText {bytes : List UInt8} (present : files path = .ok bytes)
    (other : ∀ text, bytes ≠ Utf8.ofString text) : load files path = .error (.loading path .notText) := by
  unfold load Files.readText
  rw [present]
  cases broken : Utf8.invalidIndex? bytes with
  | none =>
    obtain ⟨text, is⟩ := Utf8.invalidIndex?_eq_none_iff.mp broken
    exact absurd is (other text)
  | some index =>
    simp only [bind, Except.bind, broken]

/-- What is made of a text depends on whether it is a document. -/
lemma load_of_text {text : String} (present : files path = .ok (Utf8.ofString text)) :
    load files path = (Json.parse (Utf8.ofString text)).mapError fun e => .parsing (.text e) := by
  unfold load
  rw [Utf8.ofString, Files.readText_encode present]
  dsimp only
  cases Json.parse (Utf8.encode text.toList) <;> rfl

/-- A document that is typed is that of a key if it holds what a key needs. -/
lemma Holds.ofJson_eq_ok_iff {j : Json} (holds : Holds files path j) {name : String} {found : Json}
    (there : j.member? name = some found) {k : Key} : Key.ofJson j = .ok k ↔ k.IsIn j := by
  obtain ⟨text, -, read⟩ := holds
  cases j with
  | object members => exact Key.ofJson_eq_ok_iff (Json.pairwise_of_parse read)
  | null | bool | number | text | array => cases there

/-- An account is set up from the document that a file holds. -/
lemma setUp_of_holds {j : Json} (holds : Holds files path j) (calls : List Setting) :
    setUp files path calls = (Setup.build {
      document := j
      scopes := (last? Setting.scopes? calls).getD []
      subject := last? Setting.subject? calls
      tokenUri := last? Setting.tokenUri? calls }) := by
  obtain ⟨text, present, read⟩ := holds
  unfold setUp
  rw [load_of_text present, read]
  change (calls.foldl Setup.set { document := j }).build = _
  rw [Setup.foldl_set]
  simp only [Option.or_none]

/-- Without a text as its type nothing is set up. -/
lemma Setup.mapError_build_of_untyped {s : Setup}
    (other : ∀ type, s.document.member? "type" ≠ some (.text type)) :
    s.build.mapError Error.kind = .error .parsing := by
  unfold build
  split
  · rfl
  · exact absurd ‹_› (other _)
  · rfl

/-- Nothing is set up for another type. -/
lemma Setup.build_of_foreign {s : Setup} {type : String}
    (typed : s.document.member? "type" = some (.text type)) (other : type ≠ keyType) :
    s.build = .error (.unknownType type) := by
  unfold build
  rw [typed]
  exact if_pos other

/-- What is checked once the type is right. -/
lemma Setup.build_of_typed {s : Setup} (typed : s.document.member? "type" = some (.text keyType)) :
    s.build = (do
      let key ← (Key.ofJson s.document).mapError fun reason => .parsing (.shape reason)
      let signingKey ← (RsaKey.ofPem key.privateKey).mapError .invalidKey
      if s.scopes.isEmpty then .error .missingScopes
      else .ok {
        key
        signingKey
        scopes := s.scopes
        subject := s.subject
        tokenUri := (s.tokenUri.or key.tokenUri).getD defaultTokenUri }) := by
  unfold build
  rw [typed]
  dsimp only
  rw [if_neg (not_not_intro rfl)]
  cases Key.ofJson s.document with
  | error reason => rfl
  | ok key =>
    simp only [bind, Except.bind, Except.mapError]
    cases RsaKey.ofPem key.privateKey <;> rfl

/-- It ends in some way. -/
lemma exists_ends (files : Files) (path : String) (calls : List Setting) :
    ∃ result, Ends files path calls result := by
  cases present : files path with
  | error fault => exact ⟨_, .missing present⟩
  | ok bytes =>
    by_cases text : ∃ text, bytes = Utf8.ofString text
    case neg => exact ⟨_, .notText present (not_exists.mp text)⟩
    obtain ⟨text, rfl⟩ := text
    by_cases document : ∃ j, Json.parse (Utf8.ofString text) = .ok j
    case neg => exact ⟨_, .noDocument present (not_exists.mp document)⟩
    obtain ⟨j, read⟩ := document
    have holds : Holds files path j := ⟨text, present, read⟩
    by_cases typed : ∃ type, j.member? "type" = some (.text type)
    case neg => exact ⟨_, .untyped holds (not_exists.mp typed)⟩
    obtain ⟨type, typed⟩ := typed
    by_cases same : type = "service_account"
    case neg => exact ⟨_, .foreign holds typed same⟩
    subst same
    by_cases key : ∃ k : Key, k.IsIn j
    case neg => exact ⟨_, .wrong holds typed (Key.isWrong_iff.mpr (not_exists.mp key))⟩
    obtain ⟨k, is⟩ := key
    by_cases usable : ∃ signingKey, RsaKey.ofPem k.privateKey = .ok signingKey
    case neg => exact ⟨_, .unusable holds typed is (not_exists.mp usable)⟩
    obtain ⟨signingKey, usable⟩ := usable
    cases asked : last? Setting.scopes? calls with
    | none => exact ⟨_, .unscoped holds typed is usable (.inl asked)⟩
    | some scopes =>
      by_cases empty : scopes = []
      · exact ⟨_, .unscoped holds typed is usable (.inr (empty ▸ asked))⟩
      · exact ⟨_, .done holds typed is usable asked empty⟩

/-- It ends as the first thing demands that applies. -/
lemma Ends.setUp_eq {result : Except Kind Source} (ends : Ends files path calls result) :
    (setUp files path calls).mapError Error.kind = result := by
  have none_ok {ε α : Type} {x : Except ε α} (no : ∀ a, x ≠ .ok a) : ∃ e, x = .error e := by
    cases x with
    | error e => exact ⟨e, rfl⟩
    | ok a => exact absurd rfl (no a)
  cases ends with
  | missing absent =>
    unfold setUp
    rw [load_of_missing absent]
    rfl
  | notText present other =>
    unfold setUp
    rw [load_of_notText present other]
    rfl
  | noDocument present other =>
    obtain ⟨e, failed⟩ := none_ok other
    unfold setUp
    rw [load_of_text present, failed]
    rfl
  | untyped holds other =>
    rw [setUp_of_holds holds]
    exact Setup.mapError_build_of_untyped other
  | foreign holds typed other =>
    rw [setUp_of_holds holds, Setup.build_of_foreign typed other]
    rfl
  | wrong holds typed wrong =>
    obtain ⟨reason, failed⟩ := none_ok fun k read =>
      Key.isWrong_iff.mp wrong k ((holds.ofJson_eq_ok_iff typed).mp read)
    rw [setUp_of_holds holds, Setup.build_of_typed typed, failed]
    rfl
  | unusable holds typed is unusable =>
    obtain ⟨fault, failed⟩ := none_ok unusable
    rw [setUp_of_holds holds, Setup.build_of_typed typed, (holds.ofJson_eq_ok_iff typed).mpr is]
    simp only [bind, Except.bind, Except.mapError, failed, Error.kind]
  | unscoped holds typed is usable none =>
    have empty : ((last? Setting.scopes? calls).getD []).isEmpty = true := by
      rcases none with is | is <;> rw [is] <;> rfl
    rw [setUp_of_holds holds, Setup.build_of_typed typed, (holds.ofJson_eq_ok_iff typed).mpr is]
    simp only [bind, Except.bind, Except.mapError, usable, empty, if_true, Error.kind]
  | done holds typed is usable asked some =>
    have filled : ¬((last? Setting.scopes? calls).getD []).isEmpty = true := by
      rwa [asked, Option.getD_some, List.isEmpty_iff]
    rw [setUp_of_holds holds, Setup.build_of_typed typed, (holds.ofJson_eq_ok_iff typed).mpr is]
    simp only [bind, Except.bind, Except.mapError, usable, if_neg filled]
    rw [asked]
    rfl

lemma setUp_eq_iff_ends {result : Except Kind Source} :
    (setUp files path calls).mapError Error.kind = result ↔ Ends files path calls result := by
  refine ⟨fun is => ?_, Ends.setUp_eq⟩
  obtain ⟨result', ends⟩ := exists_ends files path calls
  exact is ▸ ends.setUp_eq ▸ ends

/-- The calls that settings make. -/
def callsFor (s : Settings) : List Setting :=
  [.scopes Directory.scopes, .subject s.adminEmail] ++ s.tokenUri.toList.map .tokenUri

/-- A run sets up its account from the key file, with the calls that its settings make. -/
lemma credentials_eq_setUp (s : Settings) (files : Files) :
    Run.credentials s files = (setUp files s.credentialsFile (callsFor s)).map Credentials.account := by
  have same (document : Json) : (callsFor s).foldl Setup.set { document } = Run.accountSetup s document := by
    unfold callsFor Run.accountSetup
    cases s.tokenUri <;> rfl
  unfold Run.credentials setUp
  simp only [same]
  cases load files s.credentialsFile with
  | error e => rfl
  | ok document =>
    simp only [bind, Except.bind]
    cases (Run.accountSetup s document).build <;> rfl

/-! ### What does not matter in a key file -/

/-- The names under which a key file is looked up. -/
def keyNames : List String :=
  ["type", "client_email", "private_key_id", "private_key", "project_id", "token_uri", "universe_domain"]

/-- That a file holds a text of an object with some members, in this order, and the text is read. -/
def HoldsObject (files : Files) (path : String) (ms : List (String × Json.Written)) : Prop :=
  ∃ text j, files path = .ok (Utf8.ofString text) ∧ (Json.Written.object ms).Writes (Utf8.ofString text) ∧
    Json.parse (Utf8.ofString text) = .ok j

variable {files' : Files} {path' : String} {ms ms' : List (String × Json.Written)}

/-- Of documents that hold the same under the names that matter, either both are those of a key or neither
is. -/
lemma Key.IsIn.congr {j j' : Json} (same : ∀ name ∈ keyNames, j.member? name = j'.member? name) {k : Key}
    (is : k.IsIn j) : k.IsIn j' := by
  have may {name : String} (known : name ∈ keyNames) {value : Option String} (may : j.MayHold name value) :
      j'.MayHold name value := by
    unfold Json.MayHold at may ⊢
    rwa [← same name known]
  exact {
    clientEmail := (same _ (by decide)).symm.trans is.clientEmail
    privateKeyId := (same _ (by decide)).symm.trans is.privateKeyId
    privateKey := (same _ (by decide)).symm.trans is.privateKey
    projectId := may (by decide) is.projectId
    tokenUri := may (by decide) is.tokenUri
    universeDomain := may (by decide) is.universeDomain }

/-- It ends alike for files whose documents hold the same under the names that matter. -/
lemma Ends.congr {j j' : Json} (holds : Holds files path j) (holds' : Holds files' path' j')
    (same : ∀ name ∈ keyNames, j.member? name = j'.member? name) {result : Except Kind Source}
    (ends : Ends files path calls result) : Ends files' path' calls result := by
  have loaded {i : Json} (other : Holds files path i) : i = j := by
    obtain ⟨text, present, read⟩ := holds
    obtain ⟨text', present', read'⟩ := other
    rw [Except.ok.inj (present.symm.trans present')] at read
    exact Except.ok.inj (read'.symm.trans read)
  have type := same "type" (by decide)
  cases ends with
  | missing absent =>
    obtain ⟨text, present, -⟩ := holds
    exact nomatch absent.symm.trans present
  | notText present other =>
    obtain ⟨text, present', -⟩ := holds
    exact absurd (Except.ok.inj (present.symm.trans present')) (other text)
  | noDocument present other =>
    obtain ⟨text, present', read⟩ := holds
    rw [Except.ok.inj (present.symm.trans present')] at other
    exact absurd read (other j)
  | untyped holds other =>
    obtain rfl := loaded holds
    exact .untyped holds' (type ▸ other)
  | foreign holds typed other =>
    obtain rfl := loaded holds
    exact .foreign holds' (type ▸ typed) other
  | wrong holds typed wrong =>
    obtain rfl := loaded holds
    refine .wrong holds' (type ▸ typed) (Key.isWrong_iff.mpr fun k is => ?_)
    exact Key.isWrong_iff.mp wrong k (is.congr fun name known => (same name known).symm)
  | unusable holds typed is unusable =>
    obtain rfl := loaded holds
    exact .unusable holds' (type ▸ typed) (is.congr same) unusable
  | unscoped holds typed is usable none =>
    obtain rfl := loaded holds
    exact .unscoped holds' (type ▸ typed) (is.congr same) usable none
  | done holds typed is usable asked some =>
    obtain rfl := loaded holds
    exact .done holds' (type ▸ typed) (is.congr same) usable asked some

/-- What a written object holds under a name is what its last member of this name holds. -/
lemma HoldsObject.exists_holds (written : HoldsObject files path ms) : ∃ j, Holds files path j ∧
    ∀ name, j.member? name =
      (Json.values name ms).getLast?.bind (Json.Written.document? (Json.maxLevels - 1)) := by
  obtain ⟨text, j, present, writes, read⟩ := written
  have document := Json.toOption_parse writes
  rw [read] at document
  exact ⟨j, ⟨text, present, read⟩, Json.member?_of_document? document.symm⟩

/-- An account is set up from a key file, with some calls in between, in just one of the ways that are listed,
and no request is made for it.  Files are taken alike that hold objects with the same last members of the
names that matter, whatever other members they have, and in whatever order. -/
theorem setUp_ends (files : Files) (path : String) (calls : List Setting) :
    (∀ result, (setUp files path calls).mapError Error.kind = result ↔ Ends files path calls result) ∧
      (∀ session : Session, ((Attempt.ofExcept (setUp files path calls)).runOn session).2 = session) ∧
      ∀ (files' : Files) (path' : String) (ms ms' : List (String × Json.Written)),
        HoldsObject files path ms → HoldsObject files' path' ms' →
        (∀ name ∈ keyNames, (Json.values name ms).getLast? = (Json.values name ms').getLast?) →
          (setUp files' path' calls).mapError Error.kind = (setUp files path calls).mapError Error.kind := by
  refine ⟨fun result => setUp_eq_iff_ends, fun session => by rw [Attempt.runOn_ofExcept], ?_⟩
  intro files' path' ms ms' written written' same
  obtain ⟨j, holds, found⟩ := written.exists_holds
  obtain ⟨j', holds', found'⟩ := written'.exists_holds
  refine setUp_eq_iff_ends.mpr ((setUp_eq_iff_ends.mp rfl).congr holds holds' fun name known => ?_)
  rw [found, found', same name known]

end

/-- A file that holds what is printed for an object of texts. -/
def printedFile (ms : List (String × String)) : Files :=
  fun _ => .ok (Utf8.ofString (Json.object (Json.texts ms)).print)

lemma holdsObject_printedFile (ms : List (String × String)) (path : String) :
    HoldsObject (printedFile ms) path (Json.writtenTexts ms) :=
  ⟨_, _, rfl, Json.writes_print_texts ms, Json.parse_ofString_print (Json.isReadable_texts ms)⟩

/-- The members of a key file with some private key. -/
def sampleMembers (privateKey : String) : List (String × String) :=
  [("client_email", "robot@example.com"), ("private_key", privateKey), ("private_key_id", "1"),
    ("type", "service_account")]

open Run in
/-- A key file, the same one from back to front and with a further member, and four calls. -/
theorem setUp_of_samples :
    let ms := sampleMembers (sampleRsaKey 7 5 6 5).text
    let ms' := ("comment", "none") :: ms.reverse
    let calls := [.scopes ["A"], .tokenUri "http://[::1]/token", .subject "admin@example.com",
      .scopes ["B", "C"]]
    HoldsObject (printedFile ms) "key.json" (Json.writtenTexts ms) ∧
      HoldsObject (printedFile ms') "other.json" (Json.writtenTexts ms') ∧
      (∀ name ∈ keyNames, (Json.values name (Json.writtenTexts ms)).getLast? =
        (Json.values name (Json.writtenTexts ms')).getLast?) ∧
      (setUp (printedFile ms) "key.json" calls).mapError Error.kind = .ok {
        key := sampleKey (sampleRsaKey 7 5 6 5)
        signingKey := sampleRsaKey 7 5 6 5
        scopes := ["B", "C"]
        subject := some "admin@example.com"
        tokenUri := "http://[::1]/token" } ∧
      (setUp (printedFile ms') "other.json" calls).mapError Error.kind =
        (setUp (printedFile ms) "key.json" calls).mapError Error.kind := by
  obtain ⟨consistent, adequate, short, -⟩ := isUsable_samples.1
  generalize sampleRsaKey 7 5 6 5 = k at *
  intro ms ms' calls
  have written := holdsObject_printedFile ms "key.json"
  have written' := holdsObject_printedFile ms' "other.json"
  have same : ∀ name ∈ keyNames, (Json.values name (Json.writtenTexts ms)).getLast? =
      (Json.values name (Json.writtenTexts ms')).getLast? := by
    simp only [keyNames, List.forall_mem_cons]
    exact ⟨rfl, rfl, rfl, rfl, rfl, rfl, rfl, List.forall_mem_nil _⟩
  refine ⟨written, written', same, ?_, (setUp_ends _ _ calls).2.2 _ _ _ _ written written' same⟩
  have holds : Holds (printedFile ms) "key.json" (sampleKey k).document := by
    have read := Json.parse_ofString_print (sampleKey k).isReadable_document
    rw [(sampleKey k).sorted_document] at read
    exact ⟨_, rfl, read⟩
  exact ((setUp_ends _ _ calls).1 _).mpr (.done holds rfl ⟨rfl, rfl, rfl, .inl rfl, .inl rfl, .inl rfl⟩
    (RsaKey.ofPem_text consistent adequate short) rfl (by decide))

end Account

end WorkspaceSchema
