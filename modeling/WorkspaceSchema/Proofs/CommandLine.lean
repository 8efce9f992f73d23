import Mathlib.Data.List.Basic
import Mathlib.Tactic.Lemma
import WorkspaceSchema.CommandLine

/-!
# What a command line gives

Reading a command line only ever adds to what has been given: a parameter keeps the value that it was
given first, and a flag is given by nothing but its name.  `Extends` says this of any part of the
reading, so that what holds after one argument holds at the end.

The environment is asked afterwards, for what was not given.  `lookup_readVariables` says what each
parameter comes to then.  From both follows what it takes for a run to be a dry run
(`dryRun_of_parse`).
-/

namespace WorkspaceSchema

/-- What follows a success goes on from its value. -/
lemma Except.exists_of_bind_eq_ok {ε α β : Type} {x : Except ε α} {f : α → Except ε β} {b : β}
    (h : (x >>= f) = .ok b) : ∃ a, x = .ok a ∧ f a = .ok b := by
  cases x with
  | error e => cases h
  | ok a => exact ⟨a, rfl, h⟩

/-- Only a success is a success under a function. -/
lemma Except.exists_of_map_eq_ok {ε α β : Type} {x : Except ε α} {f : α → β} {b : β}
    (h : x.map f = .ok b) : ∃ a, x = .ok a ∧ f a = b := by
  cases x with
  | error e => cases h
  | ok a => exact ⟨a, rfl, Except.ok.inj h⟩

namespace CommandLine

/-! ### One argument -/

/-- What has been given is still given, and every flag that has come in is set. -/
structure Extends (given given' : Given) : Prop where
  kept : ∀ p v, given.lookup p = some v → given'.lookup p = some v
  flags : ∀ p v, p.takesValue = false → given'.lookup p = some v →
    given.lookup p = some v ∨ v = "true"

namespace Extends

variable {given given' given'' : Given}

/-- Nothing may come in. -/
lemma refl (given : Given) : Extends given given :=
  ⟨fun _ _ h => h, fun _ _ _ h => .inl h⟩

/-- More may come in later. -/
lemma trans (h : Extends given given') (h' : Extends given' given'') : Extends given given'' := by
  refine ⟨fun p v found => h'.kept p v (h.kept p v found), fun p v flag found => ?_⟩
  rcases h'.flags p v flag found with before | set
  · exact h.flags p v flag before
  · exact .inr set

end Extends

/-- A parameter that was given before has its value. -/
lemma has_eq_false_iff {given : Given} {p : Parameter} :
    given.has p = false ↔ given.lookup p = none := by
  unfold Given.has
  rw [Option.isSome_eq_false_iff, Option.isNone_iff_eq_none]

/-- A parameter that is accepted was not given before, and comes last. -/
lemma accept_eq_ok {given given' : Given} {p : Parameter} {value : Option String}
    (h : accept given p value = .ok given') :
    given.lookup p = none ∧ ∃ v, given' = given ++ [(p, v)] ∧ (p.takesValue = false → v = "true") := by
  unfold accept at h
  rcases takes : p.takesValue with _ | _
  · rw [takes] at h
    dsimp only at h
    cases has : given.has p with
    | true =>
      rw [has] at h
      cases h
    | false =>
      rw [has] at h
      exact ⟨has_eq_false_iff.mp has, "true", (Except.ok.inj h).symm, fun _ => rfl⟩
  · rw [takes] at h
    rcases value with _ | v
    · cases h
    · dsimp only at h
      cases has : given.has p with
      | true =>
        rw [has] at h
        cases h
      | false =>
        rw [has] at h
        obtain ⟨-, -, rfl⟩ := Except.exists_of_map_eq_ok h
        exact ⟨has_eq_false_iff.mp has, v, rfl, fun flag => nomatch flag⟩

/-- What is given last is found if nothing else was given for the parameter. -/
lemma lookup_concat (given : Given) (p q : Parameter) (v : String) :
    (given ++ [(p, v)]).lookup q = (given.lookup q).or (if q = p then some v else none) := by
  rw [List.lookup_append]
  congr 1
  by_cases same : q = p
  · subst same
    simp
  · rw [if_neg same, List.lookup_cons, beq_eq_false_iff_ne.mpr same]
    rfl

/-- Accepting a parameter extends what has been given. -/
lemma extends_of_accept {given given' : Given} {p : Parameter} {value : Option String}
    (h : accept given p value = .ok given') : Extends given given' := by
  obtain ⟨-, v, rfl, set⟩ := accept_eq_ok h
  refine ⟨fun q w found => ?_, fun q w flag found => ?_⟩
  · rw [lookup_concat, found, Option.some_or]
  · rw [lookup_concat, Option.or_eq_some_iff] at found
    rcases found with before | ⟨-, last⟩
    · exact .inl before
    · split at last
      next same =>
        subst same
        exact .inr ((Option.some.inj last).symm.trans (set flag))
      next => cases last

/-- So does accepting the parameter that has been waiting. -/
lemma extends_of_settle {progress : Progress} {given : Given} (h : settle progress = .ok given) :
    Extends progress.given given := by
  unfold settle at h
  split at h
  · rw [Except.ok.inj h]
    exact .refl _
  · exact extends_of_accept h

/-- So does a flag. -/
lemma extends_of_readFlag {progress progress' : Progress} {p : Parameter} {long : Bool}
    (h : readFlag progress p long = .ok progress') : Extends progress.given progress'.given := by
  unfold readFlag at h
  obtain ⟨given, settled, h⟩ := Except.exists_of_bind_eq_ok h
  split at h
  · cases h
  · cases h
  · obtain ⟨given', accepted, h⟩ := Except.exists_of_bind_eq_ok h
    rw [← Except.ok.inj h]
    exact (extends_of_settle settled).trans (extends_of_accept accepted)

/-- So does a long name. -/
lemma extends_of_readName {progress progress' : Progress} {name : String} {value : Option String}
    (h : readName progress name value = .ok progress') :
    Extends progress.given progress'.given := by
  unfold readName at h
  split at h
  · cases h
  · split at h
    · obtain ⟨given, settled, h⟩ := Except.exists_of_bind_eq_ok h
      refine (extends_of_settle settled).trans ?_
      split at h
      · obtain ⟨given', accepted, h⟩ := Except.exists_of_bind_eq_ok h
        rw [← Except.ok.inj h]
        exact extends_of_accept accepted
      · rw [← Except.ok.inj h]
        exact .refl _
    · split at h
      · exact extends_of_readFlag h
      · cases h

/-- So do short names. -/
lemma extends_of_readLetters {letters : List Char} {progress progress' : Progress}
    (h : readLetters progress letters = .ok progress') : Extends progress.given progress'.given := by
  induction letters generalizing progress with
  | nil =>
    rw [← Except.ok.inj h]
    exact .refl _
  | cons letter rest ih =>
    unfold readLetters at h
    split at h
    · cases h
    · obtain ⟨next, read, h⟩ := Except.exists_of_bind_eq_ok h
      exact (extends_of_readFlag read).trans (ih h)

/-- Whatever an argument is, it extends what has been given. -/
lemma extends_of_readArgument {progress progress' : Progress} {argument : String}
    (h : readArgument progress argument = .ok progress') :
    Extends progress.given progress'.given := by
  unfold readArgument at h
  split at h
  · exact extends_of_readName h
  · exact extends_of_readLetters h
  · unfold readWord at h
    split at h
    · rw [← Except.ok.inj h]
      exact .refl _
    · cases h

/-- The name of a dry run gives it. -/
lemma lookup_dryRun_of_readArgument {progress progress' : Progress}
    (h : readArgument progress "--dry-run" = .ok progress') :
    progress'.given.lookup .dryRun = some "true" := by
  change (do
    let given ← settle progress
    let given ← accept given .dryRun none
    return Progress.mk given none) = .ok progress' at h
  obtain ⟨given, -, h⟩ := Except.exists_of_bind_eq_ok h
  obtain ⟨given', accepted, h⟩ := Except.exists_of_bind_eq_ok h
  obtain ⟨absent, v, rfl, set⟩ := accept_eq_ok accepted
  rw [← Except.ok.inj h, lookup_concat, absent, set rfl]
  rfl

/-! ### All arguments -/

/-- The arguments extend what has been given. -/
lemma extends_of_readArguments {arguments : List String} {progress : Progress} {given : Given}
    (h : readArguments progress arguments = .ok given) : Extends progress.given given := by
  induction arguments generalizing progress with
  | nil => exact extends_of_settle h
  | cons argument rest ih =>
    unfold readArguments at h
    split at h
    · split at h
      · exact extends_of_settle h
      · cases h
    · obtain ⟨next, read, h⟩ := Except.exists_of_bind_eq_ok h
      exact (extends_of_readArgument read).trans (ih h)

/-- A dry run is given if its name is among the arguments. -/
lemma lookup_dryRun_of_readArguments {arguments : List String} {progress : Progress} {given : Given}
    (h : readArguments progress arguments = .ok given) (named : "--dry-run" ∈ arguments) :
    given.lookup .dryRun = some "true" := by
  induction arguments generalizing progress with
  | nil => cases named
  | cons argument rest ih =>
    unfold readArguments at h
    split at h
    next last =>
      -- Nothing may stand behind two dashes, and so neither may the name.
      subst last
      rcases List.mem_cons.mp named with same | later
      · exact absurd same (by decide)
      · cases rest with
        | nil => cases later
        | cons other rest => cases h
    next =>
      obtain ⟨next, read, others⟩ := Except.exists_of_bind_eq_ok h
      rcases List.mem_cons.mp named with rfl | later
      · exact (extends_of_readArguments others).kept _ _ (lookup_dryRun_of_readArgument read)
      · exact ih others later

/-! ### The environment -/

/-- A parameter that is not given takes its value from the environment, if that is one for it, and all
others stay as they are. -/
lemma readVariable_eq_ok {env : Environment} {given given' : Given} {p : Parameter}
    (h : readVariable env given p = .ok given') :
    (∀ q, given'.lookup q = (given.lookup q).or (if q = p then p.variableName?.bind env else none)) ∧
      ∀ v, given.lookup p = none → p.variableName?.bind env = some v → check p v = .ok () := by
  unfold readVariable at h
  cases has : given.has p with
  | true =>
    rw [has, if_pos rfl] at h
    obtain ⟨v, found⟩ := Option.isSome_iff_exists.mp has
    refine ⟨fun q => ?_, fun w absent => ?_⟩
    · rw [← Except.ok.inj h]
      by_cases same : q = p
      · rw [same, found, Option.some_or]
      · rw [if_neg same, Option.or_none]
    · rw [found] at absent
      cases absent
  | false =>
    rw [has, if_neg Bool.false_ne_true] at h
    cases value : p.variableName?.bind env with
    | none =>
      rw [value] at h
      refine ⟨fun q => ?_, fun w _ set => nomatch set⟩
      rw [← Except.ok.inj h, ite_self, Option.or_none]
    | some v =>
      rw [value] at h
      obtain ⟨⟨⟩, checked, rfl⟩ := Except.exists_of_map_eq_ok h
      refine ⟨fun q => lookup_concat given p q v, fun w _ set => ?_⟩
      rw [← Option.some.inj set]
      exact checked

/-- What is not given is taken from the environment, where it has to be a value for its parameter. -/
lemma lookup_readVariables {env : Environment} {ps : List Parameter} {given given' : Given}
    (h : ps.foldlM (readVariable env) given = .ok given') :
    (∀ q, given'.lookup q =
      (given.lookup q).or (if q ∈ ps then q.variableName?.bind env else none)) ∧
      ∀ q ∈ ps, ∀ v, given.lookup q = none → q.variableName?.bind env = some v →
        check q v = .ok () := by
  induction ps generalizing given with
  | nil =>
    rw [← Except.ok.inj h]
    simp
  | cons p ps ih =>
    rw [List.foldlM_cons] at h
    obtain ⟨next, read, h⟩ := Except.exists_of_bind_eq_ok h
    obtain ⟨first, valid⟩ := readVariable_eq_ok read
    obtain ⟨others, allValid⟩ := ih h
    refine ⟨fun q => ?_, fun q member v absent set => ?_⟩
    · rw [others, first, Option.or_assoc]
      congr 1
      by_cases same : q = p
      · subst same
        cases value : q.variableName?.bind env <;> simp
      · simp [same]
    · by_cases same : q = p
      · subst same
        exact valid v absent set
      · refine allValid q ((List.mem_cons.mp member).resolve_left same) v ?_ set
        rw [first, absent, if_neg same]
        rfl

/-! ### Checks -/

/-- A flag has one of two values. -/
lemma check_dryRun_iff {v : String} : check .dryRun v = .ok () ↔ v = "true" ∨ v = "false" := by
  unfold check
  dsimp only
  split
  next empty => simp [empty]
  next =>
    split
    next listed => simpa [Refusal.flagValues] using listed
    next other => simpa [Refusal.flagValues] using other

/-- A file has a name. -/
lemma check_credentialsFile_iff {v : String} : check .credentialsFile v = .ok () ↔ v ≠ "" := by
  unfold check
  dsimp only
  split
  next empty => simp [empty]
  next named => simp [named]

/-- A timeout is a duration. -/
lemma check_timeout_iff {v : String} : check .timeout v = .ok () ↔ ∃ d, Duration.parse v = .ok d := by
  unfold check
  dsimp only
  cases Duration.parse v with
  | error fault => simp
  | ok d => simp

/-! ### Settings -/

/-- Settings are those of a dry run if one is given. -/
lemma dryRun_of_settings {given : Given} {s : Settings} (h : settings given = .ok s) :
    s.dryRun = given.flag .dryRun := by
  unfold settings at h
  split at h
  · rw [← Except.ok.inj h]
  · cases h

/-- A command line that is understood asks for a dry run if it names one, or if the environment says
anything about it but that it is none. -/
lemma dryRun_of_parse {env : Environment} {arguments : List String} {s : Settings}
    (h : parse env arguments = .ok s)
    (asked : "--dry-run" ∈ arguments ∨ ∃ v, env "DRYRUN" = some v ∧ v ≠ "false") :
    s.dryRun = true := by
  unfold parse at h
  obtain ⟨given, read, h⟩ := Except.exists_of_bind_eq_ok h
  obtain ⟨given', completed, h⟩ := Except.exists_of_bind_eq_ok h
  obtain ⟨values, valid⟩ := lookup_readVariables completed
  have value : given'.lookup .dryRun = (given.lookup .dryRun).or (env "DRYRUN") := values .dryRun
  have set : given'.lookup .dryRun = some "true" := by
    rw [value]
    cases found : given.lookup .dryRun with
    | some v =>
      rcases (extends_of_readArguments read).flags .dryRun v rfl found with before | rfl
      · cases before
      · rfl
    | none =>
      rcases asked with named | ⟨v, inEnv, other⟩
      · rw [lookup_dryRun_of_readArguments read named] at found
        cases found
      · have checked : check .dryRun v = .ok () := valid .dryRun (by decide) v found inEnv
        rw [inEnv, Option.none_or]
        rw [(check_dryRun_iff.mp checked).resolve_right other]
  rw [dryRun_of_settings h, Given.flag, set]
  rfl

end CommandLine

end WorkspaceSchema
