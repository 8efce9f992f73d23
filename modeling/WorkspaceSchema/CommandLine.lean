import WorkspaceSchema.CommandLine.Refusal
import WorkspaceSchema.Text.Blank

/-!
# The command line

A command line is read from left to right.  A parameter that takes a value may wait for it; the value
is checked when the next parameter comes, or at the end.  A parameter that is not given is taken from
its environment variable, and else from its default.

Asking for help or for the version stops the reading, and so does the first fault.
-/

namespace WorkspaceSchema.CommandLine

/-- Why the reading stops. -/
inductive Stop where
  | help (long : Bool)
  | version
  | refused (r : Refusal)
deriving DecidableEq, Repr

/-- The parameters given so far with their values, in their order. -/
abbrev Given : Type :=
  List (Parameter × String)

/-- Whether a parameter has been given. -/
def Given.has (given : Given) (p : Parameter) : Bool :=
  (given.lookup p).isSome

/-- The parameters given so far, and one that waits for its value or has not been checked. -/
structure Progress where
  given : Given
  pending : Option (Parameter × Option String)
deriving DecidableEq, Repr

/-- Checks the value of a parameter. -/
def check (p : Parameter) (value : String) : Except Stop Unit :=
  match p with
  | .credentialsFile => if value = "" then .error (.refused (.valueMissing p)) else .ok ()
  | .dryRun | .verbose =>
    if value = "" then .error (.refused (.valueMissing p))
    else if Refusal.flagValues.contains value then .ok ()
    else .error (.refused (.invalidFlag p value))
  | .timeout =>
    match Duration.parse value with
    | .ok _ => .ok ()
    | .error fault => .error (.refused (.invalidDuration p value fault))
  | _ => .ok ()

/-- Accepts a parameter that has been read with the value it has, if any. -/
def accept (given : Given) (p : Parameter) (value : Option String) : Except Stop Given :=
  match p.takesValue, value with
  | true, none => .error (.refused (.valueMissing p))
  | true, some value =>
    if given.has p then .error (.refused (.repeated p))
    else (check p value).map fun _ => given ++ [(p, value)]
  | false, _ =>
    if given.has p then .error (.refused (.repeated p)) else .ok (given ++ [(p, "true")])

/-- Accepts the parameter that has been waiting. -/
def settle (progress : Progress) : Except Stop Given :=
  match progress.pending with
  | none => .ok progress.given
  | some (p, value) => accept progress.given p value

/-- The parameters that have been used: a pending value counts, right or wrong, unless it is a second
one, which takes the first one with it. -/
def Progress.used (progress : Progress) : List Parameter :=
  let given := progress.given.map (·.1)
  match progress.pending with
  | some (p, some _) => if given.contains p then given.filter (· ≠ p) else given ++ [p]
  | _ => given

/-- Refuses an argument that is none. -/
def unknown {α : Type} (argument : String) : Except Stop α :=
  .error (.refused (.unknown argument []))

/-- Refuses a long name that is none. -/
def unknownName {α : Type} (progress : Progress) (name : String) : Except Stop α :=
  .error (.refused (.unknown ("--" ++ name) progress.used))

/-- Takes up a flag; `long` says by which of its names. -/
def readFlag (progress : Progress) (p : Parameter) (long : Bool) : Except Stop Progress := do
  let given ← settle progress
  match p with
  | .help => .error (.help long)
  | .version => .error .version
  | _ => return ⟨← accept given p none, none⟩

/-- Takes up a long name with the value that is attached to it, if any. -/
def readName (progress : Progress) (name : String) (value : Option String) : Except Stop Progress :=
  match Parameter.ofName? name with
  | none => unknownName progress name
  | some p =>
    if p.takesValue then do
      let given ← settle progress
      match value with
      | some _ => return ⟨← accept given p value, none⟩
      | none => return ⟨given, some (p, none)⟩
    else
      match value with
      | none => readFlag progress p true
      | some value => .error (.refused (.superfluousValue p value (progress.given.map (·.1))))

/-- Takes up short names. -/
def readLetters (progress : Progress) : List Char → Except Stop Progress
  | [] => .ok progress
  | letter :: rest =>
    match Parameter.ofLetter? letter with
    | none => unknown ("-" ++ String.ofList [letter])
    | some p => do readLetters (← readFlag progress p false) rest

/-- Cuts a text at its first equals sign. -/
def cutEquals : List Char → List Char × Option (List Char)
  | [] => ([], none)
  | c :: rest =>
    if c = '=' then ([], some rest)
    else
      let (before, after) := cutEquals rest
      (c :: before, after)

/-- Takes up a word: a value that is waited for. -/
def readWord (progress : Progress) (word : String) : Except Stop Progress :=
  match progress.pending with
  | some (p, none) => .ok ⟨progress.given, some (p, some word)⟩
  | _ => unknown word

/-- Takes up an argument. -/
def readArgument (progress : Progress) (argument : String) : Except Stop Progress :=
  match argument.toList with
  | '-' :: '-' :: rest =>
    let (name, value) := cutEquals rest
    readName progress (String.ofList name) (value.map String.ofList)
  | '-' :: letter :: letters => readLetters progress (letter :: letters)
  | _ => readWord progress argument

/-- Reads the arguments.  After a lone `--` there may be none. -/
def readArguments (progress : Progress) : List String → Except Stop Given
  | [] => settle progress
  | argument :: rest =>
    if argument = "--" then
      match rest with
      | [] => settle progress
      | other :: _ => unknown other
    else do readArguments (← readArgument progress argument) rest

/-- Takes a parameter from the environment if it has not been given. -/
def readVariable (env : Environment) (given : Given) (p : Parameter) : Except Stop Given :=
  if given.has p then .ok given
  else
    match p.variableName?.bind env with
    | none => .ok given
    | some value => (check p value).map fun _ => given ++ [(p, value)]

/-- The value of a parameter: the one given, or else its default. -/
def Given.value? (given : Given) (p : Parameter) : Option String :=
  (given.lookup p).or p.default?

/-- Whether a flag has been given. -/
def Given.flag (given : Given) (p : Parameter) : Bool :=
  given.lookup p = some "true"

/-- The duration that a parameter gives. -/
def Given.duration (given : Given) (p : Parameter) : Duration :=
  match (given.value? p).map Duration.parse with
  | some (.ok d) => d
  | _ => ⟨0⟩

/-- The settings that are given. -/
def settings (given : Given) : Except Stop Settings :=
  match given.value? .credentialsFile, given.value? .adminEmail with
  | some credentialsFile, some adminEmail =>
    .ok {
      credentialsFile
      adminEmail
      schemaName := (given.value? .schemaName).getD ""
      customerId := (given.value? .customerId).getD ""
      dryRun := given.flag .dryRun
      timeout := given.duration .timeout
      endpoint := (given.value? .endpoint).getD ""
      tokenUri := given.value? .tokenUri
      verbose := given.flag .verbose }
  | _, _ =>
    let missing := Parameter.required.filter (!given.has ·)
    .error (.refused (.missing missing (given.map (·.1))))

/-- Reads a command line, without the name of the program. -/
def parse (env : Environment) (arguments : List String) : Except Stop Settings := do
  let given ← readArguments ⟨[], none⟩ arguments
  let given ← Parameter.all.foldlM (readVariable env) given
  settings given

/-- What is printed when the reading stops. -/
def Stop.render (env : Environment) : Stop → String
  | .help true => longHelp env
  | .help false => shortHelp env
  | .version => versionText
  | .refused r => r.render

/-- The part of a list before the first two line feeds in a row. -/
def beforeEmptyLine : List Char → List Char
  | [] => []
  | '\n' :: '\n' :: _ => []
  | c :: rest => c :: beforeEmptyLine rest

/-- The first paragraph of what is printed, without blanks at its end. -/
def Stop.firstParagraph (env : Environment) (s : Stop) : String :=
  String.ofList (Text.trimEnd (beforeEmptyLine (s.render env).toList))

end WorkspaceSchema.CommandLine
