import WorkspaceSchema.Proofs.CommandLine.Options
import WorkspaceSchema.Proofs.Program
import WorkspaceSchema.Proofs.Settings

/-!
# Options and variables

A parameter has one value from the options and the environment together (`provided?`).  Options are understood
exactly if they are different, all of these values pass their checks and the required ones are there, and the
settings are made of them field by field (`parse_eq_ok_iff`).  In `provided?` the options occur only through what is
found for a parameter, so their order makes no difference, and a variable occurs only where no option does.

Settings that were understood are looked through once more, before anything is done, and `options_decide` says what
comes of a command line in the end.
-/

namespace WorkspaceSchema.CommandLine

open LongOption

/-! ### The environment -/

/-- The value of a parameter: the one that options give, and else that of its variable. -/
def provided? (env : Environment) (os : List LongOption) (p : Parameter) : Option String :=
  (valueOf? os p).or (p.variableName?.bind env)

/-- What is given is what options and environment provide for each parameter, and passes its check. -/
structure IsProvided (env : Environment) (os : List LongOption) (given : Given) : Prop where
  values : ∀ p, given.lookup p = provided? env os p
  valid : ∀ p v, provided? env os p = some v → check p v = .ok ()

/-- Variables are taken if those of parameters that are not given have values that pass their checks. -/
lemma exists_readVariables {env : Environment} {ps : List Parameter} {given : Given}
    (valid : ∀ p ∈ ps, ∀ v, given.lookup p = none → p.variableName?.bind env = some v → check p v = .ok ()) :
    ∃ given', ps.foldlM (readVariable env) given = .ok given' := by
  induction ps generalizing given with
  | nil => exact ⟨given, rfl⟩
  | cons p ps ih =>
    have first : ∃ next, readVariable env given p = .ok next := by
      unfold readVariable
      cases has : given.has p with
      | true => exact ⟨given, rfl⟩
      | false =>
        rw [if_neg Bool.false_ne_true]
        cases value : p.variableName?.bind env with
        | none => exact ⟨given, rfl⟩
        | some v =>
          have checked := valid p List.mem_cons_self v (has_eq_false_iff.mp has) value
          dsimp only
          rw [checked]
          exact ⟨_, rfl⟩
    obtain ⟨next, read⟩ := first
    have kept := (readVariable_eq_ok read).1
    have later : ∀ q ∈ ps, ∀ v, next.lookup q = none → q.variableName?.bind env = some v → check q v = .ok () := by
      intro q member v absent value
      rw [kept, Option.or_eq_none_iff] at absent
      exact valid q (List.mem_cons_of_mem p member) v absent.1 value
    obtain ⟨given', rest⟩ := ih later
    refine ⟨given', ?_⟩
    rw [List.foldlM_cons, read]
    exact rest

/-- Environments that agree on the variables of all parameters that are not given are read alike. -/
lemma foldlM_readVariable_congr {env env' : Environment} {ps : List Parameter} {given : Given}
    (agree : ∀ p, given.lookup p = none → p.variableName?.bind env' = p.variableName?.bind env) :
    ps.foldlM (readVariable env') given = ps.foldlM (readVariable env) given := by
  induction ps generalizing given with
  | nil => rfl
  | cons p ps ih =>
    have first : readVariable env' given p = readVariable env given p := by
      unfold readVariable
      cases has : given.has p with
      | true => rfl
      | false => rw [agree p (has_eq_false_iff.mp has)]
    rw [List.foldlM_cons, List.foldlM_cons, first]
    cases read : readVariable env given p with
    | error stop => rfl
    | ok next =>
      refine ih fun q absent => agree q ?_
      rw [(readVariable_eq_ok read).1, Option.or_eq_none_iff] at absent
      exact absent.1

/-- What is given in all, by arguments and environment. -/
def gather (env : Environment) (arguments : List String) : Except Stop Given := do
  let given ← readArguments ⟨[], none⟩ arguments
  Parameter.all.foldlM (readVariable env) given

/-- The settings are made of what is given in all. -/
lemma parse_eq (env : Environment) (arguments : List String) :
    parse env arguments = gather env arguments >>= settings := by
  unfold parse gather
  cases readArguments ⟨[], none⟩ arguments <;> rfl

/-- There are no other parameters. -/
lemma mem_all (p : Parameter) : p ∈ Parameter.all := by
  cases p <;> decide

section Gather

variable {env : Environment} {os : List LongOption}

/-- Nothing is given before the first option. -/
lemma read_iff {given : Given} : readArguments ⟨[], none⟩ (os.map text) = .ok given ↔
    (os.map parameter).Nodup ∧ (∀ o ∈ os, check o.parameter o.value = .ok ()) ∧ given = listed os := by
  have new : ∀ o ∈ os, Given.has [] o.parameter = false := fun o _ => rfl
  rw [readArguments_texts_eq_ok_iff, List.nil_append, and_iff_right new]

/-- What is given in all has been provided, by different options. -/
lemma isProvided_of_gather {given : Given} (gathered : gather env (os.map text) = .ok given) :
    (os.map parameter).Nodup ∧ IsProvided env os given := by
  obtain ⟨first, read, completed⟩ := Except.exists_of_bind_eq_ok gathered
  obtain ⟨distinct, valid, rfl⟩ := read_iff.mp read
  obtain ⟨values, valid'⟩ := lookup_readVariables completed
  refine ⟨distinct, ?_⟩
  constructor
  · intro p
    rw [values, lookup_listed, if_pos (mem_all p)]
    rfl
  · intro p v provided
    rcases Option.or_eq_some_iff.mp provided with option | ⟨absent, set⟩
    · obtain ⟨o, member, rfl, rfl⟩ := (valueOf?_eq_some_iff distinct).mp option
      exact valid o member
    · rw [← lookup_listed] at absent
      exact valid' p (mem_all p) v absent set

/-- If everything that is provided passes its check, it is given in the end. -/
lemma exists_gather (distinct : (os.map parameter).Nodup)
    (valid : ∀ p v, provided? env os p = some v → check p v = .ok ()) :
    ∃ given, gather env (os.map text) = .ok given := by
  have options : ∀ o ∈ os, check o.parameter o.value = .ok () := by
    intro o member
    have found : valueOf? os o.parameter = some o.value :=
      (valueOf?_eq_some_iff distinct).mpr ⟨o, member, rfl, rfl⟩
    refine valid o.parameter o.value ?_
    rw [provided?, found, Option.some_or]
  have read := read_iff.mpr ⟨distinct, options, rfl⟩
  have others : ∀ p ∈ Parameter.all, ∀ v, (listed os).lookup p = none → p.variableName?.bind env = some v →
      check p v = .ok () := by
    intro p _ v absent set
    refine valid p v ?_
    rw [lookup_listed] at absent
    rw [provided?, absent, Option.none_or, set]
  obtain ⟨given, completed⟩ := exists_readVariables others
  refine ⟨given, ?_⟩
  rw [gather, read]
  exact completed

end Gather

/-! ### Settings -/

/-- Settings are made of what is given, parameter by parameter. -/
lemma settings_eq_ok_iff {given : Given} {s : Settings} : settings given = .ok s ↔
    given.value? .credentialsFile = some s.credentialsFile ∧ given.value? .adminEmail = some s.adminEmail ∧
      (given.value? .schemaName).getD "" = s.schemaName ∧ (given.value? .customerId).getD "" = s.customerId ∧
      given.flag .dryRun = s.dryRun ∧ given.duration .timeout = s.timeout ∧
      (given.value? .endpoint).getD "" = s.endpoint ∧ given.value? .tokenUri = s.tokenUri ∧
      given.flag .verbose = s.verbose := by
  obtain ⟨credentialsFile, adminEmail, schemaName, customerId, dryRun, timeout, endpoint, tokenUri, verbose⟩ := s
  unfold settings
  cases given.value? .credentialsFile with
  | none => simp
  | some file =>
    cases given.value? .adminEmail with
    | none => simp
    | some email => simp

/-- The timeout that holds if none is given is a duration. -/
lemma parse_default_timeout : Duration.parse "60s" = .ok (.ofSeconds 60) := by
  decide

/-- Settings that come from options and environment, field by field: each is what its option says, else what its
variable says, else its default. -/
structure ComesFrom (env : Environment) (os : List LongOption) (s : Settings) : Prop where
  credentialsFile : (valueOf? os .credentialsFile).or (env "GOOGLE_CREDENTIALS_FILE_PATH") = some s.credentialsFile
  credentialsFile_named : s.credentialsFile ≠ ""
  adminEmail : (valueOf? os .adminEmail).or (env "GOOGLE_ADMIN_PRINCIPAL_EMAIL") = some s.adminEmail
  schemaName : ((valueOf? os .schemaName).or (env "GOOGLE_SCHEMA_NAME")).getD "AWS_SAML" = s.schemaName
  customerId : ((valueOf? os .customerId).or (env "GOOGLE_CUSTOMER_ID")).getD "my_customer" = s.customerId
  dryRun : ((valueOf? os .dryRun).or (env "DRYRUN")).getD "false" = if s.dryRun then "true" else "false"
  timeout : Duration.parse (((valueOf? os .timeout).or (env "PROVISION_TIMEOUT")).getD "60s") = .ok s.timeout
  endpoint : ((valueOf? os .endpoint).or (env "GOOGLE_DIRECTORY_ENDPOINT")).getD "https://admin.googleapis.com" =
    s.endpoint
  tokenUri : (valueOf? os .tokenUri).or (env "GOOGLE_TOKEN_URI") = s.tokenUri
  verbose : LongOption.verbose ∈ os ↔ s.verbose = true

section Settings

variable {env : Environment} {os : List LongOption}

/-- There is one option only that asks for more events. -/
lemma eq_verbose {o : LongOption} (is : o.parameter = .verbose) : o = .verbose := by
  cases o with
  | valued p takes value =>
    have other : p = .verbose := is
    subst other
    cases takes
  | dryRun => cases is
  | verbose => rfl

/-- More events are asked for by the option alone. -/
lemma provided?_verbose (distinct : (os.map parameter).Nodup) {v : String} :
    provided? env os .verbose = some v ↔ LongOption.verbose ∈ os ∧ v = "true" := by
  have alone : provided? env os .verbose = valueOf? os .verbose := Option.or_none
  rw [alone, valueOf?_eq_some_iff distinct]
  constructor
  · rintro ⟨o, member, is, rfl⟩
    obtain rfl := eq_verbose is
    exact ⟨member, rfl⟩
  · rintro ⟨member, rfl⟩
    exact ⟨_, member, rfl, rfl⟩

/-- Settings come from values that pass their checks. -/
lemma ComesFrom.valid {s : Settings} (comes : ComesFrom env os s) (distinct : (os.map parameter).Nodup) :
    ∀ p v, provided? env os p = some v → check p v = .ok () := by
  intro p v provided
  cases p with
  | credentialsFile =>
    have same : v = s.credentialsFile := Option.some.inj (provided.symm.trans comes.credentialsFile)
    rw [check_credentialsFile_iff, same]
    exact comes.credentialsFile_named
  | dryRun =>
    have value := comes.dryRun
    change (provided? env os .dryRun).getD "false" = _ at value
    rw [provided, Option.getD_some] at value
    rw [check_dryRun_iff, value]
    cases s.dryRun <;> simp
  | timeout =>
    have value := comes.timeout
    change Duration.parse ((provided? env os .timeout).getD "60s") = _ at value
    rw [provided, Option.getD_some] at value
    exact check_timeout_iff.mpr ⟨_, value⟩
  | verbose =>
    obtain ⟨-, rfl⟩ := (provided?_verbose distinct).mp provided
    rfl
  | adminEmail | schemaName | customerId | endpoint | tokenUri | help | version => rfl

namespace IsProvided

variable {given : Given} (h : IsProvided env os given)
include h

/-- A parameter that has a default has a value in any case. -/
lemma getD_value? {p : Parameter} {v : String} (default : p.default? = some v) :
    (given.value? p).getD "" = (provided? env os p).getD v := by
  rw [Given.value?, h.values, default]
  cases provided? env os p <;> rfl

/-- A parameter that has none has a value if one is provided. -/
lemma value?_eq {p : Parameter} (default : p.default? = none) : given.value? p = provided? env os p := by
  rw [Given.value?, h.values, default, Option.or_none]

/-- A dry run is asked for in so many words. -/
lemma flag_dryRun_eq_iff {b : Bool} : given.flag .dryRun = b ↔
    (provided? env os .dryRun).getD "false" = if b then "true" else "false" := by
  rw [Given.flag, h.values]
  cases provided : provided? env os .dryRun with
  | none => cases b <;> simp
  | some v =>
    rcases check_dryRun_iff.mp (h.valid _ _ provided) with rfl | rfl <;> cases b <;> simp

/-- More events are asked for by an option. -/
lemma flag_verbose_eq_iff (distinct : (os.map parameter).Nodup) {b : Bool} :
    given.flag .verbose = b ↔ (LongOption.verbose ∈ os ↔ b = true) := by
  have asked : given.flag .verbose = true ↔ LongOption.verbose ∈ os := by
    rw [Given.flag, h.values, decide_eq_true_iff, provided?_verbose distinct]
    exact and_iff_left rfl
  rw [← asked, Bool.eq_iff_iff]

/-- The timeout is what the provided text says. -/
lemma duration_timeout_eq_iff {d : Duration} : given.duration .timeout = d ↔
    Duration.parse ((provided? env os .timeout).getD "60s") = .ok d := by
  have text : given.value? .timeout = some ((provided? env os .timeout).getD "60s") := by
    have default : Parameter.timeout.default? = some "60s" := rfl
    rw [Given.value?, h.values, default]
    cases provided? env os .timeout <;> rfl
  have parsed : ∃ d, Duration.parse ((provided? env os .timeout).getD "60s") = .ok d := by
    cases provided : provided? env os .timeout with
    | none => exact ⟨_, parse_default_timeout⟩
    | some v => exact check_timeout_iff.mp (h.valid _ _ provided)
  obtain ⟨d', parsed⟩ := parsed
  have duration : given.duration .timeout = d' := by
    rw [Given.duration, text, Option.map_some, parsed]
  rw [duration, parsed, Except.ok.injEq]

/-- Settings are made of what is given exactly if they come from what was provided. -/
lemma settings_eq_ok_iff_comesFrom (distinct : (os.map parameter).Nodup) {s : Settings} :
    settings given = .ok s ↔ ComesFrom env os s := by
  have named (v : String) (provided : provided? env os .credentialsFile = some v) : v ≠ "" :=
    check_credentialsFile_iff.mp (h.valid _ v provided)
  rw [settings_eq_ok_iff, h.value?_eq rfl, h.value?_eq rfl, h.getD_value? rfl, h.getD_value? rfl,
    h.flag_dryRun_eq_iff, h.duration_timeout_eq_iff, h.getD_value? rfl, h.value?_eq rfl,
    h.flag_verbose_eq_iff distinct]
  constructor
  · rintro ⟨file, email, schema, customer, dryRun, timeout, endpoint, uri, verbose⟩
    exact ⟨file, named _ file, email, schema, customer, dryRun, timeout, endpoint, uri, verbose⟩
  · intro comes
    exact ⟨comes.credentialsFile, comes.adminEmail, comes.schemaName, comes.customerId, comes.dryRun,
      comes.timeout, comes.endpoint, comes.tokenUri, comes.verbose⟩

end IsProvided

/-- A command line of options is understood exactly as settings that come from the options and the environment, if
the options are different. -/
lemma parse_eq_ok_iff {s : Settings} :
    parse env (os.map text) = .ok s ↔ (os.map parameter).Nodup ∧ ComesFrom env os s := by
  rw [parse_eq]
  constructor
  · intro parsed
    obtain ⟨given, gathered, made⟩ := Except.exists_of_bind_eq_ok parsed
    obtain ⟨distinct, provided⟩ := isProvided_of_gather gathered
    exact ⟨distinct, (provided.settings_eq_ok_iff_comesFrom distinct).mp made⟩
  · rintro ⟨distinct, comes⟩
    obtain ⟨given, gathered⟩ := exists_gather distinct (comes.valid distinct)
    obtain ⟨-, provided⟩ := isProvided_of_gather gathered
    rw [gathered]
    exact (provided.settings_eq_ok_iff_comesFrom distinct).mpr comes

/-- Settings come from different options in whatever order these stand. -/
lemma ComesFrom.of_perm {os' : List LongOption} {s : Settings} (perm : os.Perm os')
    (distinct : (os.map parameter).Nodup) (comes : ComesFrom env os s) : ComesFrom env os' s := by
  have value : valueOf? os = valueOf? os' := funext (valueOf?_eq_of_perm perm distinct)
  obtain ⟨file, named, email, schema, customer, dryRun, timeout, endpoint, uri, verbose⟩ := comes
  rw [value] at file email schema customer dryRun timeout endpoint uri
  rw [perm.mem_iff] at verbose
  exact ⟨file, named, email, schema, customer, dryRun, timeout, endpoint, uri, verbose⟩

/-- Options that are understood in one order are understood in every order, as the same settings. -/
lemma parse_of_perm {os' : List LongOption} {s : Settings} (perm : os.Perm os')
    (parsed : parse env (os.map text) = .ok s) : parse env (os'.map text) = .ok s := by
  obtain ⟨distinct, comes⟩ := parse_eq_ok_iff.mp parsed
  have distinct' : (os'.map parameter).Nodup := (perm.map parameter).nodup distinct
  exact parse_eq_ok_iff.mpr ⟨distinct', comes.of_perm perm distinct⟩

/-- The variable of a parameter that an option gives is not looked at. -/
lemma parse_congr {env' : Environment}
    (agree : ∀ p, p ∉ os.map parameter → p.variableName?.bind env' = p.variableName?.bind env) :
    parse env' (os.map text) = parse env (os.map text) := by
  rw [parse_eq, parse_eq]
  have same : gather env' (os.map text) = gather env (os.map text) := by
    unfold gather
    cases read : readArguments ⟨[], none⟩ (os.map text) with
    | error stop => rfl
    | ok given =>
      obtain ⟨-, -, rfl⟩ := read_iff.mp read
      refine foldlM_readVariable_congr fun p absent => agree p ?_
      rw [lookup_listed] at absent
      exact valueOf?_eq_none_iff.mp absent
  rw [same]

end Settings

/-! ### What options decide -/

/-- A command line of options is understood as the same settings in every order of the options, and exactly as
settings that come from options and environment, if no two options are for one parameter.  The variables of
parameters that options give have no influence, whatever they are.  Without a key file or an administrator, given one
way or the other, the command line is not understood.  If it is, the program gets to its run exactly if the settings
make sense, and does nothing otherwise. -/
theorem options_decide (env : Environment) (os : List LongOption) :
    (∀ os', os.Perm os' → ∀ s, parse env (os.map text) = .ok s ↔ parse env (os'.map text) = .ok s) ∧
      (∀ s, parse env (os.map text) = .ok s ↔ (os.map parameter).Nodup ∧ ComesFrom env os s) ∧
      (∀ env' : Environment, (∀ p, p ∉ os.map parameter → ∀ v, p.variableName? = some v → env' v = env v) →
        parse env' (os.map text) = parse env (os.map text)) ∧
      (.credentialsFile ∉ os.map parameter ∧ env "GOOGLE_CREDENTIALS_FILE_PATH" = none ∨
          .adminEmail ∉ os.map parameter ∧ env "GOOGLE_ADMIN_PRINCIPAL_EMAIL" = none →
        ∀ s, parse env (os.map text) ≠ .ok s) ∧
      ∀ s files b, parse env (os.map text) = .ok s →
        (Program.run env (os.map text) files b = Program.execute s files b ↔ s.IsSensible) ∧
        (¬s.IsSensible → (Program.run env (os.map text) files b).2 = b) := by
  refine ⟨?_, ?_, ?_, ?_, ?_⟩
  · intro os' perm s
    exact ⟨parse_of_perm perm, parse_of_perm perm.symm⟩
  · intro s
    exact parse_eq_ok_iff
  · intro env' agree
    apply parse_congr
    intro p absent
    cases named : p.variableName? with
    | none => rfl
    | some v => exact agree p absent v named
  · intro missing s parsed
    obtain ⟨-, comes⟩ := parse_eq_ok_iff.mp parsed
    rcases missing with ⟨absent, unset⟩ | ⟨absent, unset⟩
    · have file := comes.credentialsFile
      rw [valueOf?_eq_none_iff.mpr absent, unset] at file
      cases file
    · have email := comes.adminEmail
      rw [valueOf?_eq_none_iff.mpr absent, unset] at email
      cases email
  · intro s files b parsed
    have running := Program.run_eq_execute_iff env (os.map text) files b parsed
    rw [ne_eq, Settings.fault?_eq_none_iff] at running
    exact running

/-- An environment that names the administrator, and says nothing that can be understood about a dry run. -/
def sampleEnvironment : Environment := fun name =>
  if name = "GOOGLE_ADMIN_PRINCIPAL_EMAIL" then some "admin@example.com"
  else if name = "DRYRUN" then some "perhaps"
  else none

/-- Some options, the key file last. -/
def sampleOptions : List LongOption :=
  [.valued .timeout rfl "5s", .dryRun, .valued .credentialsFile rfl "key.json"]

/-- The administrator comes from the environment, which is not asked about the dry run, and the order of the options
does not matter. -/
theorem options_decide_sample :
    ∃ s, s.adminEmail = "admin@example.com" ∧ s.dryRun = true ∧
      parse sampleEnvironment (sampleOptions.map text) = .ok s ∧
      parse sampleEnvironment (sampleOptions.reverse.map text) = .ok s ∧
      ∀ files b, Program.run sampleEnvironment (sampleOptions.map text) files b = Program.execute s files b := by
  have distinct : (sampleOptions.map parameter).Nodup := by decide
  obtain ⟨order, comes, -, -, runs⟩ := options_decide sampleEnvironment sampleOptions
  have parsed : parse sampleEnvironment (sampleOptions.map text) = .ok
      { credentialsFile := "key.json", adminEmail := "admin@example.com", dryRun := true,
        timeout := .ofSeconds 5 } := by
    rw [comes]
    refine ⟨distinct, ?_⟩
    constructor <;> decide
  have sensible : Settings.IsSensible
      { credentialsFile := "key.json", adminEmail := "admin@example.com", dryRun := true,
        timeout := .ofSeconds 5 } := by
    refine ⟨by decide, by decide, by decide, by decide, .inr ⟨"admin.googleapis.com", by decide⟩⟩
  refine ⟨_, rfl, rfl, parsed, (order _ (List.reverse_perm _).symm _).mp parsed, ?_⟩
  intro files b
  exact (runs _ files b parsed).1.mpr sensible

end WorkspaceSchema.CommandLine
