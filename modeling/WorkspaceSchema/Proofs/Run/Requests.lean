import Mathlib.Tactic.Lemma
import WorkspaceSchema.Proofs.Directory.Client
import WorkspaceSchema.Run

/-!
# What a run asks for

A run asks for a token, then for the list of schemas, and then, if the schema is not in the list and
the run is in earnest, for its insertion.  This file names the two requests to the directory and says
what a run comes to by what they come to.
-/

namespace WorkspaceSchema

namespace Run

variable (s : Settings) (a : Account.Source)

/-- The client of the directory that a run asks. -/
def client : Directory.Client :=
  ⟨.account a, Directory.ClientSetup.trimSlashes s.endpoint, s.timeout⟩

/-- Where the schemas are. -/
def schemasUrl : String :=
  Directory.ClientSetup.trimSlashes s.endpoint ++ "/admin/directory/v1/customer/" ++
    Url.Percent.segment s.customerId ++ "/schemas"

/-- The body of the insertion. -/
def insertionBody : Http.Body :=
  .json (Saml.schema s.schemaName).print

/-- The request for the list of schemas. -/
def listing : Attempt Directory.Error SchemaList :=
  (client s a).execute .get (schemasUrl s) none SchemaList.parse

/-- The request to insert the schema. -/
def insertion : Attempt Directory.Error Schema :=
  (client s a).execute .post (schemasUrl s) (some (insertionBody s)) Schema.parse

/-- The session in which the list is asked for, after a token was obtained. -/
def beforeListing (b : Session) : Session :=
  (b.told (.authorized s.adminEmail)).told (.listing (schemasUrl s))

/-- The session in which the insertion is asked for, after a list was read. -/
def beforeInsertion (l : SchemaList) (b : Session) : Session :=
  (b.told (.listed l.schemas.length)).told (.inserting (schemasUrl s) s.schemaName)

/-- Whether a list lacks the schema. -/
def Lacks (l : SchemaList) : Prop :=
  s.schemaName ∉ l.schemas.map (·.schemaName)

instance (l : SchemaList) : Decidable (Lacks s l) :=
  inferInstanceAs (Decidable (_ ∉ _))

/-- What a run comes to after a list was read. -/
def afterListing (l : SchemaList) (b : Session) : Except Error Outcome × Session :=
  if Lacks s l then
    if s.dryRun then
      (.ok .dryRun,
        (b.told (.listed l.schemas.length)).told (.skipped s.schemaName s.customerId))
    else
      match (insertion s a).runOn (beforeInsertion s l b) with
      | (.error e, b') => (.error (.ofDirectory e), b')
      | (.ok created, b') =>
        (.ok (.created created), (b'.told (.inserted created.schemaId)).told
          (.created created.schemaName created.schemaId s.customerId))
  else
    (.ok .alreadyExists,
      (b.told (.listed l.schemas.length)).told (.present s.schemaName s.customerId))

/-- A list that does not lack the schema has one of its name. -/
lemma nameOccurs_eq_true_iff {l : SchemaList} :
    Schema.nameOccurs (Saml.schema s.schemaName).schemaName l.schemas = true ↔ ¬Lacks s l :=
  Schema.nameOccurs_eq_true_iff.trans not_not.symm

/-- What a run comes to after a token was obtained. -/
def afterToken (b : Session) : Except Error Outcome × Session :=
  match (listing s a).runOn (beforeListing s b) with
  | (.error e, b') => (.error (.ofDirectory e), b')
  | (.ok l, b') => afterListing s a l b'

/-- What a run does with its client comes to what its two requests come to. -/
lemma runOn_ensure (b : Session) :
    (Attempt.mapError Error.ofDirectory ((provisioner s).ensure (client s a).service
      (Saml.schema s.schemaName))).runOn (b.told (.authorized s.adminEmail)) = afterToken s a b := by
  have listed : ((client s a).listSchemas s.customerId).runOn (b.told (.authorized s.adminEmail)) =
      match (listing s a).runOn (beforeListing s b) with
      | (.error e, b') => (.error e, b')
      | (.ok l, b') => (.ok l.schemas, b'.told (.listed l.schemas.length)) :=
    Directory.Client.runOn_listSchemas _ _ _
  have inserted (b' : Session) :
      ((client s a).insertSchema s.customerId (Saml.schema s.schemaName)).runOn b' =
        match (insertion s a).runOn (b'.told (.inserting (schemasUrl s) s.schemaName)) with
        | (.error e, b'') => (.error e, b'')
        | (.ok created, b'') => (.ok created, b''.told (.inserted created.schemaId)) :=
    Directory.Client.runOn_insertSchema _ _ _ _
  unfold Provisioner.ensure Directory.Client.service provisioner afterToken
  dsimp only
  rw [Attempt.runOn_mapError, Attempt.runOn_bind, listed]
  rcases (listing s a).runOn (beforeListing s b) with ⟨e | l, b'⟩
  · rfl
  · dsimp only
    unfold afterListing
    by_cases lacks : Lacks s l
    · rw [if_neg (mt (nameOccurs_eq_true_iff s).mp (not_not.mpr lacks)), if_pos lacks]
      cases s.dryRun with
      | true => rfl
      | false =>
        simp only [Bool.false_eq_true, if_false]
        rw [Attempt.runOn_bind, inserted]
        unfold beforeInsertion
        rcases (insertion s a).runOn _ with ⟨e | created, b''⟩ <;> rfl
    · rw [if_pos ((nameOccurs_eq_true_iff s).mpr lacks), if_neg lacks]
      rfl

/-- Credentials are those of an account, if the key file can be loaded and the account set up. -/
lemma credentials_eq (files : Files) :
    credentials s files = match Account.load files s.credentialsFile with
      | .error e => .error e
      | .ok document => (accountSetup s document).build.map .account := by
  unfold credentials
  cases Account.load files s.credentialsFile with
  | error e => rfl
  | ok document =>
    change ((accountSetup s document).build >>= fun a => pure (Credentials.account a)) =
      (accountSetup s document).build.map .account
    cases (accountSetup s document).build <;> rfl

/-- There are no credentials only if the key file cannot be loaded or the account cannot be set up. -/
lemma credentials_eq_error_iff {files : Files} {e : Account.Error} :
    credentials s files = .error e ↔ Account.load files s.credentialsFile = .error e ∨
      ∃ document, Account.load files s.credentialsFile = .ok document ∧
        (accountSetup s document).build = .error e := by
  rw [credentials_eq]
  cases Account.load files s.credentialsFile with
  | error e' => simp
  | ok document => cases built : (accountSetup s document).build <;> simp [built, Except.map]

/-- All credentials of a run are those of an account. -/
lemma exists_account {files : Files} {c : Credentials} (setup : credentials s files = .ok c) :
    ∃ a, c = .account a := by
  rw [credentials_eq] at setup
  cases loaded : Account.load files s.credentialsFile with
  | error e =>
    rw [loaded] at setup
    cases setup
  | ok document =>
    rw [loaded] at setup
    dsimp only at setup
    cases built : (accountSetup s document).build with
    | error e =>
      rw [built] at setup
      cases setup
    | ok a =>
      rw [built] at setup
      exact ⟨a, (Except.ok.inj setup).symm⟩

/-- Without credentials nothing is done. -/
lemma runOn_provision_of_error {files : Files} {e : Account.Error}
    (broken : credentials s files = .error e) (b : Session) :
    (provision s files).runOn b = (.error (.credential e), b) := by
  unfold provision
  rw [Attempt.runOn_bind, broken]
  rfl

/-- What a run comes to, whatever time it takes. -/
lemma runOn_provision {files : Files} (setup : credentials s files = .ok (.account a)) (b : Session) :
    (provision s files).runOn b = match (Credentials.account a).token.runOn b with
      | (.error e, b') => (.error (.authorization e), b')
      | (.ok _, b') => afterToken s a b' := by
  unfold provision
  rw [setup, Attempt.runOn_bind, Attempt.runOn_mapError, Attempt.runOn_ofExcept]
  dsimp only [Except.mapError]
  rw [Attempt.runOn_bind, Attempt.runOn_mapError]
  rcases (Credentials.account a).token.runOn b with ⟨e | t, b'⟩
  · rfl
  · dsimp only [Except.mapError]
    rw [Attempt.runOn_bind, Attempt.runOn_tell, ← runOn_ensure]
    rfl

/-- A run that is too late leaves the same session behind. -/
lemma run_snd (files : Files) (b : Session) :
    (run s files b).2 = ((provision s files).runOn b).2 := by
  unfold run
  dsimp only
  split <;> rfl

end Run

end WorkspaceSchema
