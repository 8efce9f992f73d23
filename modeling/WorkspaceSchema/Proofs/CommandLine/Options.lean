import Mathlib.Data.List.Perm.Basic
import WorkspaceSchema.Proofs.CommandLine

/-!
# Long options

A command line may be a list of long options, each with its value attached.  One option after another is then
checked and put behind those given before (`readArgument_text`), so that the reading comes to an end exactly if no
two of them are for one parameter and every value passes its check, and what is given then is the list itself
(`readArguments_texts_eq_ok_iff`).

What different options give for a parameter (`LongOption.valueOf?`) does not depend on their order.
-/

namespace WorkspaceSchema.CommandLine

/-! ### Options -/

/-- An option in its long form, with the value attached if it takes one. -/
inductive LongOption where
  | valued (p : Parameter) (takes : p.takesValue = true) (value : String)
  | dryRun
  | verbose
deriving DecidableEq

namespace LongOption

/-- The parameter that is given. -/
def parameter : LongOption → Parameter
  | valued p _ _ => p
  | dryRun => .dryRun
  | verbose => .verbose

/-- The value that is given. -/
def value : LongOption → String
  | valued _ _ value => value
  | dryRun => "true"
  | verbose => "true"

/-- The option as it stands on a command line. -/
def text : LongOption → String
  | valued p _ value => "--" ++ p.name ++ "=" ++ value
  | dryRun => "--dry-run"
  | verbose => "--verbose"

/-- The value that options give for a parameter, if one of them does. -/
def valueOf? (os : List LongOption) (p : Parameter) : Option String :=
  (os.find? (·.parameter = p)).map value

/-- The parameters of options with their values. -/
def listed (os : List LongOption) : Given :=
  os.map fun o => (o.parameter, o.value)

end LongOption

open LongOption

/-- The long name of a parameter is found. -/
lemma ofName?_name (p : Parameter) : Parameter.ofName? p.name = some p := by
  cases p <;> decide

/-- There is no equals sign in a long name. -/
lemma equals_notMem_name (p : Parameter) : '=' ∉ p.name.toList := by
  cases p <;> decide

/-- A text is cut behind a name without equals signs. -/
lemma cutEquals_append {name : List Char} (plain : '=' ∉ name) (rest : List Char) :
    cutEquals (name ++ '=' :: rest) = (name, some rest) := by
  induction name with
  | nil => rfl
  | cons c name ih =>
    rw [List.mem_cons, not_or] at plain
    obtain ⟨other, later⟩ := plain
    rw [List.cons_append, cutEquals, if_neg (Ne.symm other), ih later]

/-- What begins with two dashes is a long name, with the value behind the equals sign. -/
lemma readArgument_of_long {argument : String} {rest : List Char} (long : argument.toList = '-' :: '-' :: rest)
    (progress : Progress) : readArgument progress argument =
      readName progress (String.ofList (cutEquals rest).1) ((cutEquals rest).2.map String.ofList) := by
  unfold readArgument
  rw [long]
  rfl

/-- A parameter is taken up with a value: no second time, and otherwise if the value passes its check, and then it
comes last. -/
def take (given : Given) (p : Parameter) (value : String) : Except Stop Progress :=
  if given.has p then .error (.refused (.repeated p))
  else (check p value).map fun _ => ⟨given ++ [(p, value)], none⟩

/-- A long name is taken up with its value. -/
lemma readName_eq_take {p : Parameter} (takes : p.takesValue = true) (given : Given) (value : String) :
    readName ⟨given, none⟩ p.name (some value) = take given p value := by
  have settled : settle ⟨given, none⟩ = .ok given := rfl
  unfold readName
  rw [ofName?_name]
  dsimp only
  rw [if_pos takes, settled]
  simp only [bind, Except.bind]
  unfold accept take
  rw [takes]
  dsimp only
  cases given.has p with
  | true => rfl
  | false => cases check p value <;> rfl

/-- A flag is taken up as true. -/
lemma readFlag_eq_take {p : Parameter} (flag : p = .dryRun ∨ p = .verbose) (given : Given) :
    readFlag ⟨given, none⟩ p true = take given p "true" := by
  have settled : settle ⟨given, none⟩ = .ok given := rfl
  have valid : check p "true" = .ok () := by
    rcases flag with rfl | rfl <;> rfl
  unfold readFlag take
  rw [settled, valid]
  simp only [bind, Except.bind]
  unfold accept
  rcases flag with rfl | rfl <;> cases given.has _ <;> rfl

/-- An option is taken up. -/
lemma readArgument_text (given : Given) (o : LongOption) :
    readArgument ⟨given, none⟩ o.text = take given o.parameter o.value := by
  cases o with
  | valued p takes value =>
    have long : (LongOption.valued p takes value).text.toList =
        '-' :: '-' :: (p.name.toList ++ '=' :: value.toList) := by
      unfold LongOption.text
      simp
    rw [readArgument_of_long long, cutEquals_append (equals_notMem_name p), Option.map_some,
      String.ofList_toList, String.ofList_toList]
    exact readName_eq_take takes given value
  | dryRun => exact readFlag_eq_take (.inl rfl) given
  | verbose => exact readFlag_eq_take (.inr rfl) given

/-- No option is a lone pair of dashes. -/
lemma text_ne (o : LongOption) : o.text ≠ "--" := by
  cases o with
  | valued p takes value =>
    intro same
    have same := congrArg String.toList same
    unfold LongOption.text at same
    simp at same
  | dryRun => decide
  | verbose => decide

/-- One argument is read after another. -/
lemma readArguments_cons {argument : String} (other : argument ≠ "--") (progress : Progress)
    (arguments : List String) : readArguments progress (argument :: arguments) =
      readArgument progress argument >>= fun next => readArguments next arguments := by
  rw [readArguments.eq_def]
  exact if_neg other

/-- What is given last is given, and nothing else is besides what was given before. -/
lemma has_concat_eq_false_iff {given : Given} {p q : Parameter} {v : String} :
    Given.has (given ++ [(p, v)]) q = false ↔ given.has q = false ∧ q ≠ p := by
  rw [has_eq_false_iff, has_eq_false_iff, lookup_concat, Option.or_eq_none_iff]
  by_cases same : q = p <;> simp [same]

/-- Options are read to the end exactly if they are for different parameters, none of which was given before, and all
of their values pass their checks.  Then they are what is given. -/
lemma readArguments_texts_eq_ok_iff {given given' : Given} {os : List LongOption} :
    readArguments ⟨given, none⟩ (os.map text) = .ok given' ↔
      (os.map parameter).Nodup ∧ (∀ o ∈ os, given.has o.parameter = false) ∧
        (∀ o ∈ os, check o.parameter o.value = .ok ()) ∧ given' = given ++ listed os := by
  induction os generalizing given with
  | nil =>
    have nothing : readArguments ⟨given, none⟩ ([].map text) = .ok given := rfl
    rw [nothing]
    simpa [listed] using eq_comm
  | cons o os ih =>
    rw [List.map_cons, readArguments_cons (text_ne o), readArgument_text]
    unfold take
    cases has : given.has o.parameter with
    | true =>
      refine iff_of_false (fun h => nomatch h) ?_
      rintro ⟨-, new, -⟩
      cases has.symm.trans (new o List.mem_cons_self)
    | false =>
      rw [if_neg Bool.false_ne_true]
      cases checked : check o.parameter o.value with
      | error stop =>
        refine iff_of_false (fun h => nomatch h) ?_
        rintro ⟨-, -, valid, -⟩
        cases checked.symm.trans (valid o List.mem_cons_self)
      | ok u =>
        have whole : given ++ listed (o :: os) = given ++ [(o.parameter, o.value)] ++ listed os := by
          rw [listed, listed, List.map_cons, List.append_assoc, List.singleton_append]
        change readArguments ⟨given ++ [(o.parameter, o.value)], none⟩ (os.map text) = .ok given' ↔ _
        rw [ih, whole, List.map_cons, List.nodup_cons, List.forall_mem_cons, List.forall_mem_cons]
        constructor
        · rintro ⟨distinct, new, valid, rfl⟩
          have other : o.parameter ∉ os.map parameter := by
            intro member
            obtain ⟨o', among, same⟩ := List.mem_map.mp member
            exact (has_concat_eq_false_iff.mp (new o' among)).2 same
          have before : ∀ o' ∈ os, given.has o'.parameter = false :=
            fun o' among => (has_concat_eq_false_iff.mp (new o' among)).1
          exact ⟨⟨other, distinct⟩, ⟨has, before⟩, ⟨checked, valid⟩, rfl⟩
        · rintro ⟨⟨other, distinct⟩, ⟨-, before⟩, ⟨-, valid⟩, rfl⟩
          refine ⟨distinct, ?_, valid, rfl⟩
          intro o' among
          have differ : o'.parameter ≠ o.parameter := fun same => other (same ▸ List.mem_map_of_mem among)
          exact has_concat_eq_false_iff.mpr ⟨before o' among, differ⟩

/-! ### What options give -/

/-- Of different options, one that gives a parameter is found for it. -/
lemma valueOf?_eq_some_iff {os : List LongOption} (distinct : (os.map parameter).Nodup) {p : Parameter}
    {v : String} : valueOf? os p = some v ↔ ∃ o ∈ os, o.parameter = p ∧ o.value = v := by
  induction os with
  | nil => simp [valueOf?]
  | cons o os ih =>
    rw [List.map_cons, List.nodup_cons] at distinct
    obtain ⟨other, distinct⟩ := distinct
    have later := ih distinct
    unfold valueOf? at later ⊢
    by_cases same : o.parameter = p
    · have only : ∀ o' ∈ os, o'.parameter ≠ p := by
        intro o' member found
        exact other (same.trans found.symm ▸ List.mem_map_of_mem member)
      rw [List.find?_cons_of_pos (by simpa using same)]
      constructor
      · intro found
        exact ⟨o, List.mem_cons_self, same, Option.some.inj found⟩
      · rintro ⟨o', member, found, rfl⟩
        rcases List.mem_cons.mp member with rfl | member
        · rfl
        · exact absurd found (only o' member)
    · rw [List.find?_cons_of_neg (by simpa using same), later]
      constructor
      · rintro ⟨o', member, found⟩
        exact ⟨o', List.mem_cons_of_mem o member, found⟩
      · rintro ⟨o', member, found⟩
        rcases List.mem_cons.mp member with rfl | member
        · exact absurd found.1 same
        · exact ⟨o', member, found⟩

/-- The order of different options makes no difference to what they give. -/
lemma valueOf?_eq_of_perm {os os' : List LongOption} (perm : os.Perm os') (distinct : (os.map parameter).Nodup)
    (p : Parameter) : valueOf? os p = valueOf? os' p := by
  have distinct' : (os'.map parameter).Nodup := (perm.map parameter).nodup distinct
  apply Option.ext
  intro v
  rw [valueOf?_eq_some_iff distinct, valueOf?_eq_some_iff distinct']
  simp only [perm.mem_iff]

/-- Nothing is found for a parameter exactly if no option gives it. -/
lemma valueOf?_eq_none_iff {os : List LongOption} {p : Parameter} :
    valueOf? os p = none ↔ p ∉ os.map parameter := by
  unfold valueOf?
  rw [Option.map_eq_none_iff, List.find?_eq_none]
  simp

/-- What options give is looked up in their list. -/
lemma lookup_listed (os : List LongOption) (p : Parameter) : (listed os).lookup p = valueOf? os p := by
  induction os with
  | nil => rfl
  | cons o os ih =>
    unfold listed valueOf? at ih ⊢
    rw [List.map_cons, List.lookup_cons]
    by_cases same : o.parameter = p
    · rw [List.find?_cons_of_pos (by simpa using same), same, beq_self_eq_true]
      rfl
    · rw [List.find?_cons_of_neg (by simpa using same), beq_eq_false_iff_ne.mpr (Ne.symm same)]
      exact ih

end WorkspaceSchema.CommandLine
