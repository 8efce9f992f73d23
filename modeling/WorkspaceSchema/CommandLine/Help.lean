import WorkspaceSchema.CommandLine.Parameter

/-!
# Help

What the program says about itself and its parameters, in short and at length.  The environment
variables are shown with their values.
-/

namespace WorkspaceSchema.CommandLine

/-- The environment: the values of variables. -/
abbrev Environment : Type :=
  String → Option String

/-- The name of the program. -/
def programName : String := "gsuite-create-schema"

/-- The name of the program with its version. -/
def versionText : String := programName ++ " 0.1.0\n"

/-- What the program does, in a line. -/
def summary : String :=
  "Create the AWS SAML custom user schema in a Google Workspace domain"

/-- What the program does, in full. -/
def description : String :=
  "This program creates the custom user schema used by the AWS SAML application in a Google Workspace "
    ++ "domain. The schema is only created if no schema with the same name exists."

/-- The parameters of a call, the required ones first. -/
def usageOf (used : List Parameter) : String :=
  "Usage: " ++ programName
    ++ (if used.isEmpty then " [OPTIONS]" else "")
    ++ String.join ((Parameter.required ++ used.filter (!·.isRequired)).map (" " ++ ·.form))

/-- The parameters of the settings, as alternatives. -/
def alternatives : String :=
  "<" ++ "|".intercalate (Parameter.ofSettings.map (·.form)) ++ ">"

/-- A parameter of a call, with the parameters of the settings as alternatives. -/
def usageAmong (p : Parameter) : String :=
  "Usage: " ++ programName
    ++ (if Parameter.ofSettings.contains p then "" else " " ++ p.form)
    ++ " " ++ alternatives

/-- What a parameter is, in paragraphs.  The first one does for the summary, without its stop. -/
def paragraphs (short : Bool) : Parameter → List String
  | .credentialsFile =>
    ["The service account key file, in JSON format.",
     "The service account must have domain-wide delegation enabled for the "
       ++ "`admin.directory.userschema` and `admin.directory.user` scopes."]
  | .adminEmail => ["The administrator impersonated by the service account"]
  | .schemaName => ["The name of the custom schema"]
  | .customerId =>
    ["The Google Workspace customer ID.",
     "The default, `my_customer`, is the account of the administrator."]
  | .dryRun => ["Check for the schema without creating it"]
  | .timeout => ["The deadline for the complete provisioning run"]
  | .endpoint => ["The Admin SDK endpoint"]
  | .tokenUri => ["Override the token endpoint in the service account key"]
  | .verbose => ["Log at DEBUG level"]
  | .help => [if short then "Print help (see more with '--help')" else "Print help (see a summary with '-h')"]
  | .version => ["Print version"]

/-- Where the value of a parameter may come from. -/
def sources (env : Environment) (p : Parameter) : List String :=
  (match p.variableName? with
    | none => []
    | some v => ["[env: " ++ v ++ "=" ++ (env v).getD "" ++ "]"])
  ++ (match p.default? with
    | none => []
    | some value => ["[default: " ++ value ++ "]"])

/-- The line that names a parameter. -/
def heading (p : Parameter) : String :=
  (match p.letter? with
    | none => "      "
    | some letter => "  -" ++ String.ofList [letter] ++ ", ")
  ++ p.form

/-- A text without the stop at its end. -/
def withoutStop (s : String) : String :=
  match s.toList.getLast? with
  | some '.' => String.ofList s.toList.dropLast
  | _ => s

/-- The margin of what is said about a parameter. -/
def margin : String := "          "

/-- What is said about a parameter, every line of it behind the margin. -/
def indented (s : String) : String :=
  String.ofList (s.toList.flatMap fun c => if c = '\n' then c :: margin.toList else [c])

/-- A parameter in the summary. -/
def shortEntry (env : Environment) (p : Parameter) : String :=
  heading p ++ indented ("\n"
    ++ " ".intercalate (((paragraphs true p).take 1).map withoutStop ++ sources env p)) ++ "\n"

/-- A parameter in the full help. -/
def longEntry (env : Environment) (p : Parameter) : String :=
  let details := match sources env p with
    | [] => []
    | lines => ["\n".intercalate lines]
  heading p ++ indented ("\n" ++ "\n\n".intercalate (paragraphs false p ++ details)) ++ "\n"

/-- The help in short. -/
def shortHelp (env : Environment) : String :=
  summary ++ "\n\n" ++ usageOf [] ++ "\n\nOptions:\n" ++ String.join (Parameter.all.map (shortEntry env))

/-- The help at length. -/
def longHelp (env : Environment) : String :=
  description ++ "\n\n" ++ usageOf [] ++ "\n\nOptions:\n"
    ++ "\n".intercalate (Parameter.all.map (longEntry env))

end WorkspaceSchema.CommandLine
