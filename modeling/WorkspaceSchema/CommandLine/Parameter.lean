import WorkspaceSchema.Settings

/-!
# Parameters of the command line

The parameters that the program understands, in the order in which they are listed.  Most of them
may be given by an environment variable instead.
-/

namespace WorkspaceSchema

/-- A parameter. -/
inductive Parameter where
  | credentialsFile
  | adminEmail
  | schemaName
  | customerId
  | dryRun
  | timeout
  | endpoint
  | tokenUri
  | verbose
  | help
  | version
deriving DecidableEq, Repr

namespace Parameter

/-- All parameters. -/
def all : List Parameter :=
  [.credentialsFile, .adminEmail, .schemaName, .customerId, .dryRun, .timeout, .endpoint, .tokenUri,
   .verbose, .help, .version]

/-- The long name. -/
def name : Parameter → String
  | .credentialsFile => "credentials-file"
  | .adminEmail => "admin-email"
  | .schemaName => "schema-name"
  | .customerId => "customer-id"
  | .dryRun => "dry-run"
  | .timeout => "timeout"
  | .endpoint => "endpoint"
  | .tokenUri => "token-uri"
  | .verbose => "verbose"
  | .help => "help"
  | .version => "version"

/-- The short name. -/
def letter? : Parameter → Option Char
  | .verbose => some 'v'
  | .help => some 'h'
  | .version => some 'V'
  | _ => none

/-- What stands for the value; nothing if the parameter is a flag. -/
def placeholder? : Parameter → Option String
  | .credentialsFile => some "CREDENTIALS_FILE"
  | .adminEmail => some "ADMIN_EMAIL"
  | .schemaName => some "SCHEMA_NAME"
  | .customerId => some "CUSTOMER_ID"
  | .timeout => some "TIMEOUT"
  | .endpoint => some "ENDPOINT"
  | .tokenUri => some "TOKEN_URI"
  | _ => none

/-- The environment variable that may give the parameter. -/
def variableName? : Parameter → Option String
  | .credentialsFile => some "GOOGLE_CREDENTIALS_FILE_PATH"
  | .adminEmail => some "GOOGLE_ADMIN_PRINCIPAL_EMAIL"
  | .schemaName => some "GOOGLE_SCHEMA_NAME"
  | .customerId => some "GOOGLE_CUSTOMER_ID"
  | .dryRun => some "DRYRUN"
  | .timeout => some "PROVISION_TIMEOUT"
  | .endpoint => some "GOOGLE_DIRECTORY_ENDPOINT"
  | .tokenUri => some "GOOGLE_TOKEN_URI"
  | _ => none

/-- The value that is taken when none is given. -/
def default? : Parameter → Option String
  | .schemaName => some Saml.defaultName
  | .customerId => some Directory.defaultCustomer
  | .timeout => some "60s"
  | .endpoint => some Directory.defaultEndpoint
  | _ => none

/-- Whether the parameter has to be given. -/
def isRequired (p : Parameter) : Bool :=
  p = .credentialsFile || p = .adminEmail

/-- Whether the parameter takes a value. -/
def takesValue (p : Parameter) : Bool :=
  p.placeholder?.isSome

/-- The parameters that have to be given. -/
def required : List Parameter :=
  all.filter isRequired

/-- The parameters that the settings are made of. -/
def ofSettings : List Parameter :=
  all.filter fun p => p ≠ .help && p ≠ .version

/-- The parameter of a long name. -/
def ofName? (name : String) : Option Parameter :=
  all.find? (·.name = name)

/-- The parameter of a short name. -/
def ofLetter? (letter : Char) : Option Parameter :=
  all.find? (·.letter? = some letter)

/-- How the parameter is given. -/
def form (p : Parameter) : String :=
  "--" ++ p.name
    ++ (match p.placeholder? with
      | none => ""
      | some placeholder => " <" ++ placeholder ++ ">")

end Parameter

end WorkspaceSchema
