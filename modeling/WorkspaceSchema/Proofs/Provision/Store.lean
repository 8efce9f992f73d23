import Mathlib.Data.List.Basic
import Mathlib.Tactic.Lemma
import WorkspaceSchema.Provision.Store

/-!
# Provisioning from a store, again and again

A provisioner looks at the schemas of its customer and inserts what is missing.  This file follows a
store through any sequence of such errands, each for a customer, a schema and a mode of its own, and
each with its own failures and its own reply to an insertion.

`perform_spec` says once how an errand may end and what it leaves behind.  An errand *insists* on a
name if it is in earnest and nothing is told to fail; these are the errands that count.  By induction
on the errands, a customer has a name in the end exactly if it had the name before or some errand
insisted on it, and what was appended has new names only.
-/

namespace WorkspaceSchema.Store

/-- A call of a provisioner, and what the store is told to do otherwise meanwhile. -/
structure Errand where
  provisioner : Provisioner
  schema : Schema
  script : Script := {}

/-- Runs an errand. -/
def perform (s : Store) (e : Errand) : Except Directory.Error Outcome × Store :=
  s.ensure e.script e.provisioner e.schema

/-- A store after some errands. -/
def performAll (s : Store) (es : List Errand) : Store :=
  es.foldl (fun s e => (s.perform e).2) s

/-- The names of the schemas of a customer. -/
def names (s : Store) (customer : String) : List String :=
  (s.schemas customer).map (·.schemaName)

/-- Whether an errand is about a name and a customer. -/
def Errand.concerns (e : Errand) (customer schemaName : String) : Bool :=
  e.provisioner.customer = customer && e.schema.schemaName = schemaName

/-- Whether an errand sees to it in earnest that the customer has the name, and meets no failure. -/
def Errand.insists (e : Errand) (customer schemaName : String) : Bool :=
  e.concerns customer schemaName && !e.provisioner.dryRun
    && e.script.failList.isNone && e.script.failInsert.isNone

/-- What it takes for an errand to insist on a name. -/
lemma Errand.insists_eq_true_iff {e : Errand} {k n : String} :
    e.insists k n = true ↔ e.provisioner.customer = k ∧ e.schema.schemaName = n ∧
      e.provisioner.dryRun = false ∧ e.script.failList = none ∧ e.script.failInsert = none := by
  simp [insists, concerns, and_assoc]

/-- A store that keeps what another one keeps, whatever both of them were asked and told. -/
structure Same (s t : Store) : Prop where
  customers : t.customers = s.customers
  taken : t.taken = s.taken

/-- Stores that keep the same have the same schemas for each customer. -/
lemma Same.schemas_eq {s t : Store} (h : Same s t) (customer : String) :
    t.schemas customer = s.schemas customer := by
  unfold schemas
  rw [h.customers]

/-! ### One errand -/

/-- How an errand ends, and the store that it leaves. -/
inductive Performance (s : Store) (e : Errand) : Except Directory.Error Outcome → Store → Prop where
  | listFailed {error : Directory.Error} {t : Store} (fails : e.script.failList = some error)
      (same : Same s t) : Performance s e (.error error) t
  | present {t : Store} (listed : e.script.failList = none)
      (occurs : e.schema.schemaName ∈ s.names e.provisioner.customer) (same : Same s t) :
      Performance s e (.ok .alreadyExists) t
  | skipped {t : Store} (listed : e.script.failList = none)
      (absent : e.schema.schemaName ∉ s.names e.provisioner.customer)
      (dry : e.provisioner.dryRun = true) (same : Same s t) : Performance s e (.ok .dryRun) t
  | insertFailed {error : Directory.Error} {t : Store} (listed : e.script.failList = none)
      (absent : e.schema.schemaName ∉ s.names e.provisioner.customer)
      (earnest : e.provisioner.dryRun = false) (fails : e.script.failInsert = some error)
      (same : Same s t) : Performance s e (.error error) t
  | created {t : Store} (listed : e.script.failList = none)
      (absent : e.schema.schemaName ∉ s.names e.provisioner.customer)
      (earnest : e.provisioner.dryRun = false) (inserted : e.script.failInsert = none)
      (same : Same (s.take e.provisioner.customer e.schema).2 t) :
      Performance s e (.ok (.created
        (e.script.reply.getD (s.take e.provisioner.customer e.schema).1))) t

/-- Every errand ends in one of these ways. -/
lemma perform_spec {s t : Store} {e : Errand} {result : Except Directory.Error Outcome}
    (h : s.perform e = (result, t)) : Performance s e result t := by
  suffices spec : Performance s e (s.perform e).1 (s.perform e).2 by
    rwa [h] at spec
  clear h
  obtain ⟨⟨customer, dryRun⟩, schema, ⟨failList, failInsert, reply⟩⟩ := e
  cases failList with
  | some error => exact .listFailed rfl ⟨rfl, rfl⟩
  | none =>
    have listed : s.perform ⟨⟨customer, dryRun⟩, schema, ⟨none, failInsert, reply⟩⟩ =
        StateT.run (ExceptT.run (if Schema.nameOccurs schema.schemaName (s.schemas customer) then do
            (service ⟨none, failInsert, reply⟩).tell (.present schema.schemaName customer)
            return Outcome.alreadyExists
          else if dryRun then do
            (service ⟨none, failInsert, reply⟩).tell (.skipped schema.schemaName customer)
            return Outcome.dryRun
          else do
            let created ← (service ⟨none, failInsert, reply⟩).insert customer schema
            (service ⟨none, failInsert, reply⟩).tell
              (.created created.schemaName created.schemaId customer)
            return Outcome.created created)) { s with calls := s.calls ++ [.list customer] } :=
      rfl
    rw [listed]
    split
    case isTrue occurs => exact .present rfl (Schema.nameOccurs_eq_true_iff.mp occurs) ⟨rfl, rfl⟩
    case isFalse absent =>
      have absent := mt Schema.nameOccurs_eq_true_iff.mpr absent
      cases dryRun with
      | true => exact .skipped rfl absent rfl ⟨rfl, rfl⟩
      | false =>
        cases failInsert with
        | some error => exact .insertFailed rfl absent rfl rfl ⟨rfl, rfl⟩
        | none => exact .created rfl absent rfl rfl ⟨rfl, rfl⟩

/-- An errand that insists on a name the customer lacks appends its schema, under some identifier;
any other errand leaves the schemas of the customer alone. -/
lemma schemas_perform (s : Store) (e : Errand) (k : String) :
    (e.insists k e.schema.schemaName = true ∧ e.schema.schemaName ∉ s.names k ∧
      ∃ identifier, (s.perform e).2.schemas k =
        s.schemas k ++ [{ e.schema with schemaId := some identifier }]) ∨
    ((e.insists k e.schema.schemaName = true → e.schema.schemaName ∈ s.names k) ∧
      (s.perform e).2.schemas k = s.schemas k) := by
  rcases performed : s.perform e with ⟨result, t⟩
  cases perform_spec performed with
  | listFailed fails same =>
    exact .inr ⟨by simp [Errand.insists_eq_true_iff, fails], same.schemas_eq k⟩
  | present listed occurs same =>
    refine .inr ⟨fun h => ?_, same.schemas_eq k⟩
    rwa [← (Errand.insists_eq_true_iff.mp h).1]
  | skipped listed absent dry same =>
    exact .inr ⟨by simp [Errand.insists_eq_true_iff, dry], same.schemas_eq k⟩
  | insertFailed listed absent earnest fails same =>
    exact .inr ⟨by simp [Errand.insists_eq_true_iff, fails], same.schemas_eq k⟩
  | created listed absent earnest inserted same =>
    rw [same.schemas_eq k, schemas_take]
    by_cases customer : k = e.provisioner.customer
    · subst customer
      have insists := Errand.insists_eq_true_iff.mpr ⟨rfl, rfl, earnest, listed, inserted⟩
      refine .inl ⟨insists, absent, ?_⟩
      rw [if_pos rfl]
      exact ⟨_, rfl⟩
    · refine .inr ⟨fun h => ?_, if_neg customer⟩
      exact absurd (Errand.insists_eq_true_iff.mp h).1.symm customer

/-- The names after an errand are those from before, and the name that it insists on. -/
lemma mem_names_perform (s : Store) (e : Errand) (k n : String) :
    n ∈ (s.perform e).2.names k ↔ n ∈ s.names k ∨ e.insists k n = true := by
  have name (h : e.insists k n = true) : e.schema.schemaName = n :=
    (Errand.insists_eq_true_iff.mp h).2.1
  unfold names
  rcases schemas_perform s e k with ⟨insists, absent, identifier, appended⟩ | ⟨idle, same⟩
  · rw [appended, List.map_append, List.mem_append]
    refine or_congr_right ⟨fun h => ?_, fun h => ?_⟩
    · rw [List.map_singleton, List.mem_singleton] at h
      rwa [h]
    · exact List.mem_singleton.mpr (name h).symm
  · rw [same]
    refine (or_iff_left_of_imp fun h => ?_).symm
    obtain rfl := name h
    exact idle h

/-- An errand appends a schema of a name exactly if it insists on the name and the customer lacks it. -/
lemma appends_iff (s : Store) (e : Errand) (k n : String) :
    (∃ schema, schema.schemaName = n ∧ (s.perform e).2.schemas k = s.schemas k ++ [schema]) ↔
      e.insists k n = true ∧ n ∉ s.names k := by
  constructor
  · rintro ⟨schema, rfl, appended⟩
    rcases schemas_perform s e k with ⟨insists, absent, identifier, first⟩ | ⟨_, same⟩
    · rw [first, List.append_cancel_left_eq, List.singleton_inj] at appended
      rw [← appended]
      exact ⟨insists, absent⟩
    · rw [same] at appended
      exact absurd appended (by simp)
  · rintro ⟨insists, absent⟩
    obtain rfl : e.schema.schemaName = n := (Errand.insists_eq_true_iff.mp insists).2.1
    rcases schemas_perform s e k with ⟨_, _, identifier, first⟩ | ⟨idle, _⟩
    · exact ⟨{ e.schema with schemaId := some identifier }, rfl, first⟩
    · exact absurd (idle insists) absent

/-- An errand that creates no schema leaves everything that is kept as it is. -/
lemma same_of_not_created {s : Store} {e : Errand}
    (h : ∀ reply, (s.perform e).1 ≠ .ok (.created reply)) : Same s (s.perform e).2 := by
  rcases performed : s.perform e with ⟨result, t⟩
  rw [performed] at h
  cases perform_spec performed with
  | listFailed fails same => exact same
  | present listed occurs same => exact same
  | skipped listed absent dry same => exact same
  | insertFailed listed absent earnest fails same => exact same
  | created => exact absurd rfl (h _)

/-- Where the customer has the name and the list does not fail, nothing is left to do. -/
lemma perform_of_mem {s : Store} {e : Errand} (listed : e.script.failList = none)
    (occurs : e.schema.schemaName ∈ s.names e.provisioner.customer) :
    (s.perform e).1 = .ok .alreadyExists := by
  rcases performed : s.perform e with ⟨result, t⟩
  cases perform_spec performed with
  | listFailed fails same => rw [listed] at fails; cases fails
  | present listed occurs same => rfl
  | skipped listed absent dry same => exact absurd occurs absent
  | insertFailed listed absent earnest fails same => exact absurd occurs absent
  | created listed absent => exact absurd occurs absent

/-- An errand that says that the schema exists now, or did before, is right. -/
lemma mem_names_of_done {s : Store} {e : Errand}
    (h : (s.perform e).1 = .ok .alreadyExists ∨ ∃ reply, (s.perform e).1 = .ok (.created reply)) :
    e.schema.schemaName ∈ (s.perform e).2.names e.provisioner.customer := by
  rw [mem_names_perform, Errand.insists_eq_true_iff]
  rcases performed : s.perform e with ⟨result, t⟩
  rw [performed] at h
  cases perform_spec performed with
  | listFailed fails same => simp at h
  | present listed occurs same => exact .inl occurs
  | skipped listed absent dry same => simp at h
  | insertFailed listed absent earnest fails same => simp at h
  | created listed absent earnest inserted same => exact .inr ⟨rfl, rfl, earnest, listed, inserted⟩

/-! ### Many errands -/

/-- Each schema of a list has a name that neither the old schemas have nor those before it. -/
def NewNames (old : List Schema) : List Schema → Prop
  | [] => True
  | schema :: rest =>
    schema.schemaName ∉ old.map (·.schemaName) ∧ NewNames (old ++ [schema]) rest

/-- Where only new names are appended, no name comes to occur twice. -/
lemma NewNames.count_le {old appended : List Schema} (h : NewNames old appended) (n : String) :
    ((old ++ appended).map (·.schemaName)).count n ≤ max ((old.map (·.schemaName)).count n) 1 := by
  induction appended generalizing old with
  | nil =>
    rw [List.append_nil]
    exact Nat.le_max_left _ _
  | cons schema rest ih =>
    obtain ⟨absent, later⟩ := h
    have first : ((old ++ [schema]).map (·.schemaName)).count n ≤
        max ((old.map (·.schemaName)).count n) 1 := by
      rw [List.map_append, List.count_append, List.map_singleton, List.count_singleton]
      by_cases same : schema.schemaName = n
      · rw [← same, List.count_eq_zero_of_not_mem absent]
        simp
      · rw [if_neg (by simpa using same), Nat.add_zero]
        exact Nat.le_max_left _ _
    have rest := ih later
    rw [List.append_assoc, List.singleton_append] at rest
    omega

/-- Errands append schemas with new names to those of a customer, each the schema of an errand for
that customer under some identifier. -/
lemma schemas_performAll (s : Store) (es : List Errand) (k : String) :
    ∃ appended, (s.performAll es).schemas k = s.schemas k ++ appended ∧
      NewNames (s.schemas k) appended ∧
      ∀ schema ∈ appended, ∃ e ∈ es, e.insists k schema.schemaName = true ∧
        ∃ identifier, schema = { e.schema with schemaId := some identifier } := by
  induction es generalizing s with
  | nil => exact ⟨[], (List.append_nil _).symm, trivial, by simp⟩
  | cons e es ih =>
    obtain ⟨appended, all, new, whence⟩ := ih (s.perform e).2
    have later : ∀ schema ∈ appended, ∃ e' ∈ e :: es, e'.insists k schema.schemaName = true ∧
        ∃ identifier, schema = { e'.schema with schemaId := some identifier } := by
      intro schema h
      obtain ⟨e', member, found⟩ := whence schema h
      exact ⟨e', List.mem_cons_of_mem e member, found⟩
    rcases schemas_perform s e k with ⟨insists, absent, identifier, first⟩ | ⟨_, same⟩
    · rw [first] at all new
      refine ⟨{ e.schema with schemaId := some identifier } :: appended, ?_, ⟨absent, new⟩, ?_⟩
      · rw [List.append_cons]
        exact all
      · intro schema h
        rcases List.mem_cons.mp h with rfl | h
        · exact ⟨e, List.mem_cons_self, insists, identifier, rfl⟩
        · exact later schema h
    · rw [same] at all new
      exact ⟨appended, all, new, later⟩

/-- In the end a customer has the names from before, and those that some errand insisted on. -/
lemma mem_names_performAll (s : Store) (es : List Errand) (k n : String) :
    n ∈ (s.performAll es).names k ↔ n ∈ s.names k ∨ ∃ e ∈ es, e.insists k n = true := by
  induction es generalizing s with
  | nil => simp [performAll]
  | cons e es ih =>
    have step := ih (s.perform e).2
    rw [mem_names_perform, or_assoc] at step
    simpa [performAll] using step

/-- Whatever errands are run, what a customer had stays and is followed by schemas with new names
only, so that no name comes to occur twice.  A name is appended by the first errand that insists on
it, if the customer lacks it, and by no other; so whether it is there in the end does not depend on
how this errand and those for other names and customers follow each other.  An errand that fails,
finds the name, or is a dry run changes nothing that is kept; and once an errand has found or created
its schema, every later one for it finds it. -/
theorem errands_append_new_names (s : Store) (es : List Errand) (k : String) :
    (∃ appended, (s.performAll es).schemas k = s.schemas k ++ appended ∧
      NewNames (s.schemas k) appended ∧
      (∀ schema ∈ appended, ∃ e ∈ es, e.insists k schema.schemaName = true ∧
        ∃ identifier, schema = { e.schema with schemaId := some identifier }) ∧
      ∀ n, ((s.performAll es).names k).count n ≤ max ((s.names k).count n) 1) ∧
    (∀ e n, (∃ schema, schema.schemaName = n ∧
        ((s.performAll es).perform e).2.schemas k = (s.performAll es).schemas k ++ [schema]) ↔
      e.insists k n = true ∧ n ∉ s.names k ∧ ∀ e' ∈ es, e'.insists k n = false) ∧
    (∀ es' n, (∀ e, e.concerns k n = true → (e ∈ es ↔ e ∈ es')) →
      (n ∈ (s.performAll es).names k ↔ n ∈ (s.performAll es').names k)) ∧
    (∀ e, (∀ reply, ((s.performAll es).perform e).1 ≠ .ok (.created reply)) →
      Same (s.performAll es) ((s.performAll es).perform e).2) ∧
    (∀ e later e', ((s.performAll es).perform e).1 = .ok .alreadyExists ∨
        (∃ reply, ((s.performAll es).perform e).1 = .ok (.created reply)) →
      e'.concerns e.provisioner.customer e.schema.schemaName = true → e'.script.failList = none →
      ((((s.performAll es).perform e).2.performAll later).perform e').1 = .ok .alreadyExists) := by
  refine ⟨?_, ?_, ?_, ?_, ?_⟩
  · obtain ⟨appended, all, new, whence⟩ := schemas_performAll s es k
    refine ⟨appended, all, new, whence, fun n => ?_⟩
    unfold names
    rw [all]
    exact new.count_le n
  · intro e n
    rw [appends_iff, mem_names_performAll]
    simp
  · intro es' n concerned
    rw [mem_names_performAll, mem_names_performAll]
    -- Only errands about the name and the customer insist, and both runs have the same of these.
    have about {e : Errand} (h : e.insists k n = true) : e.concerns k n = true := by
      obtain ⟨customer, name, _⟩ := Errand.insists_eq_true_iff.mp h
      simp [Errand.concerns, customer, name]
    refine or_congr_right ⟨?_, ?_⟩
    · rintro ⟨e, member, h⟩
      exact ⟨e, (concerned e (about h)).mp member, h⟩
    · rintro ⟨e, member, h⟩
      exact ⟨e, (concerned e (about h)).mpr member, h⟩
  · intro e idle
    exact same_of_not_created idle
  · intro e later e' done about listed
    obtain ⟨customer, name⟩ : e'.provisioner.customer = e.provisioner.customer ∧
        e'.schema.schemaName = e.schema.schemaName := by
      simpa [Errand.concerns] using about
    refine perform_of_mem listed ?_
    rw [mem_names_performAll, customer, name]
    exact .inl (mem_names_of_done done)

end WorkspaceSchema.Store
