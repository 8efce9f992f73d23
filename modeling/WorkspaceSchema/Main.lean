import WorkspaceSchema.Program

/-!
# The executable

The command line on the real environment and the real files.  No host can be reached from here, so a
run ends where it first needs one.
-/

open WorkspaceSchema

/-- The values of the environment variables that parameters may come from. -/
def readEnvironment : IO CommandLine.Environment := do
  let names := Parameter.all.filterMap Parameter.variableName?
  let values ← names.mapM fun name => do
    return (name, ← IO.getEnv name)
  return fun name => (values.lookup name).join

/-- The fault that the system has a number for. -/
def faultOf (code : UInt32) (reason : String) : FileFault :=
  match code.toNat with
  | 2 => .notFound
  | 20 => .notADirectory
  | 21 => .isADirectory
  | 36 => .nameTooLong
  | code => .refused reason code

/-- The fault behind an error of the system. -/
def faultOfError : IO.Error → FileFault
  | .noFileOrDirectory _ code reason | .interrupted _ code reason => faultOf code reason
  | .invalidArgument _ code reason | .permissionDenied _ code reason | .resourceExhausted _ code reason
  | .inappropriateType _ code reason | .noSuchThing _ code reason | .alreadyExists _ code reason =>
    faultOf code reason
  | .otherError code reason | .resourceBusy code reason | .resourceVanished code reason
  | .unsupportedOperation code reason | .hardwareFault code reason | .unsatisfiedConstraints code reason
  | .illegalOperation code reason | .protocolError code reason | .timeExpired code reason =>
    faultOf code reason
  | .unexpectedEof => .refused "unexpected end of file" 0
  | .userError reason => .refused reason 0

/-- Reads the file at a path. -/
def readFile (path : String) : IO (Except FileFault (List UInt8)) := do
  if path.toList.contains '\x00' then return .error .nulInName
  try
    let bytes ← IO.FS.readBinFile path
    return .ok bytes.toList
  catch error => return .error (faultOfError error)

/-- The path of the key file that a command line names. -/
def keyPath (env : CommandLine.Environment) (arguments : List String) : String :=
  match CommandLine.parse env arguments with
  | .ok s => s.credentialsFile
  | .error _ => ""

/-- Runs the program. -/
def main (arguments : List String) : IO UInt32 := do
  let env ← readEnvironment
  let content ← readFile (keyPath env arguments)
  let session : Session := { clock := ⟨0, 1⟩, network := { reachable := false, replies := [] } }
  let output := (Program.run env arguments (fun _ => content) session).1
  IO.print output.stdout
  output.stderr.forM IO.eprintln
  return UInt32.ofNat output.exitCode
