import WorkspaceSchema.CommandLine.Help
import WorkspaceSchema.Duration.Parser

/-!
# Refusals of the command line

Why a command line is not understood.  A refusal says what is wrong, and may show how the program is
called with the parameters that were used.
-/

namespace WorkspaceSchema.CommandLine

/-- Why a command line is not understood. -/
inductive Refusal where
  /-- An argument that is none. -/
  | unknown (argument : String) (used : List Parameter)
  /-- A parameter without its value. -/
  | valueMissing (p : Parameter)
  /-- A flag that is neither true nor false. -/
  | invalidFlag (p : Parameter) (value : String)
  /-- A duration that is none. -/
  | invalidDuration (p : Parameter) (value : String) (fault : Duration.Fault)
  /-- A flag with a value, after other parameters. -/
  | superfluousValue (p : Parameter) (value : String) (used : List Parameter)
  /-- A parameter that was given before. -/
  | repeated (p : Parameter)
  /-- Parameters that have to be given. -/
  | missing (ps : List Parameter) (used : List Parameter)
deriving DecidableEq, Repr

namespace Refusal

/-- The values of a flag. -/
def flagValues : List String := ["true", "false"]

/-- The values of a flag in words. -/
def flagValuesText : String := "\n  [possible values: true, false]"

/-- What is wrong. -/
def message : Refusal → String
  | .unknown argument _ => "error: unexpected argument '" ++ argument ++ "' found"
  | .valueMissing p =>
    "error: a value is required for '" ++ p.form ++ "' but none was supplied"
      ++ (if p.takesValue then "" else flagValuesText)
  | .invalidFlag p value => "error: invalid value '" ++ value ++ "' for '" ++ p.form ++ "'" ++ flagValuesText
  | .invalidDuration p value fault =>
    "error: invalid value '" ++ value ++ "' for '" ++ p.form ++ "': " ++ fault.message
  | .superfluousValue p value _ =>
    "error: unexpected value '" ++ value ++ "' for '" ++ p.form ++ "' found; no more were expected"
  | .repeated p => "error: the argument '" ++ p.form ++ "' cannot be used multiple times"
  | .missing ps _ =>
    "error: the following required arguments were not provided:"
      ++ String.join (ps.map ("\n  " ++ ·.form))

/-- How the program is called. -/
def usage? : Refusal → Option String
  | .unknown _ used => some (usageOf used)
  | .superfluousValue p _ used => some (if used.isEmpty then usageOf [p] else usageAmong p)
  | .repeated _ => some (usageOf [])
  | .missing _ used => some (usageOf (if used.isEmpty then Parameter.required else used))
  | _ => none

/-- The whole text of a refusal. -/
def render (r : Refusal) : String :=
  r.message
    ++ (match r.usage? with
      | none => ""
      | some usage => "\n\n" ++ usage)
    ++ "\n\nFor more information, try '--help'.\n"

end Refusal

end WorkspaceSchema.CommandLine
