import WorkspaceSchema.CommandLine
import WorkspaceSchema.Run

/-!
# The program

The program reads its command line, checks the settings, runs, and tells how it went: the result on
the error stream, among the events of the run, and the exit code.  An error is printed with
everything that stands below it.
-/

namespace WorkspaceSchema.Program

/-- What the program leaves behind. -/
structure Output where
  exitCode : Nat
  stdout : String := ""
  stderr : List String := []
deriving DecidableEq, Repr

/-- The lines of a text. -/
def lines (cs : List Char) : List (List Char) :=
  match cs with
  | [] => [[]]
  | c :: rest =>
    match lines rest with
    | [] => [[]]
    | line :: others => if c = '\n' then [] :: line :: others else (c :: line) :: others

/-- The lines of a text that ends with a line feed or without. -/
def textLines (s : String) : List String :=
  let all := (lines s.toList).map String.ofList
  if all.getLast? = some "" then all.dropLast else all

/-- A cause, with `first` before its first line and `later` before the others. -/
def causeLines (first later : String) (text : String) : List String :=
  match (lines text.toList).map String.ofList with
  | [] => []
  | line :: others => (first ++ line) :: others.map (later ++ ·)

/-- Causes with their numbers. -/
def numberedCauses (n : Nat) : List String → List String
  | [] => []
  | cause :: rest =>
    let number := Nat.toDigits 10 n
    let head := String.ofList (List.replicate (5 - number.length) ' ' ++ number) ++ ": "
    causeLines head "       " cause ++ numberedCauses (n + 1) rest

/-- An error with everything below it.  A single cause has no number. -/
def errorLines (message : String) (causes : List String) : List String :=
  causeLines "Error: " "" message
    ++ (match causes with
      | [] => []
      | [cause] => "" :: "Caused by:" :: causeLines "    " "    " cause
      | _ => "" :: "Caused by:" :: numberedCauses 0 causes)

/-- A line that the program itself tells. -/
def info (message : String) : String :=
  "INFO " ++ "gsuite_create_schema: " ++ message

/-- The last lines of a run that succeeded. -/
def outcomeLines (s : Settings) : Outcome → List String
  | .created schema =>
    [info ("created schema " ++ schema.schemaName ++ " schema_id=" ++ Text.quotedOption schema.schemaId),
     info "DONE"]
  | .alreadyExists => [info ("schema " ++ s.schemaName ++ " already exists"), info "DONE"]
  | .dryRun => [info ("dry-run: schema " ++ s.schemaName ++ " not created"), info "DONE"]

/-- The events that are shown. -/
def shown (s : Settings) (log : List LogEvent) : List String :=
  (log.filter fun e => s.verbose || e.level ≠ .debug).map LogEvent.render

/-- Runs with settings that make sense. -/
def execute (s : Settings) (files : Files) (session : Session) : Output × Session :=
  let (result, after) := Run.run s files session
  let events := info ("Configuration: " ++ s.describe) :: shown s (after.log.drop session.log.length)
  match result with
  | .ok outcome => ({ exitCode := 0, stderr := events ++ outcomeLines s outcome }, after)
  | .error e => ({ exitCode := 1, stderr := events ++ errorLines e.message e.causes }, after)

/-- The whole program. -/
def run (env : CommandLine.Environment) (arguments : List String) (files : Files)
    (session : Session) : Output × Session :=
  match CommandLine.parse env arguments with
  | .error stop =>
    match stop with
    | .refused r => ({ exitCode := 2, stderr := textLines r.render }, session)
    | _ => ({ exitCode := 0, stdout := stop.render env }, session)
  | .ok s =>
    match s.fault? with
    | some fault => ({ exitCode := 1, stderr := errorLines fault.message [] }, session)
    | none => execute s files session

end WorkspaceSchema.Program
