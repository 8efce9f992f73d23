import WorkspaceSchema.Directory.Client
import WorkspaceSchema.Schema.Saml

/-!
# Settings of a run

What a run is asked to do, and the checks that it makes sense before anything is done.
-/

namespace WorkspaceSchema

/-- What a run is asked to do. -/
structure Settings where
  credentialsFile : String
  adminEmail : String
  schemaName : String := Saml.defaultName
  customerId : String := Directory.defaultCustomer
  dryRun : Bool := false
  timeout : Duration := .ofSeconds 60
  endpoint : String := Directory.defaultEndpoint
  tokenUri : Option String := none
  verbose : Bool := false
deriving DecidableEq, Repr

namespace Settings

/-- Why settings make no sense. -/
inductive Fault where
  | adminEmail (email : String)
  | schemaName
  | customerId
  | timeout
  | endpoint (text : String)
deriving DecidableEq, Repr

/-- A fault in words. -/
def Fault.message : Fault → String
  | .adminEmail email => "invalid admin email `" ++ email ++ "`, expected an email address"
  | .schemaName => "the schema name cannot be empty"
  | .customerId => "the customer ID cannot be empty"
  | .timeout => "invalid timeout, should be > 0"
  | .endpoint text => "invalid endpoint `" ++ text ++ "`, expected a HTTP URL"

/-- Whether a text begins like a URL of the web. -/
def looksLikeWebUrl (s : String) : Bool :=
  "http://".toList.isPrefixOf s.toList || "https://".toList.isPrefixOf s.toList

/-- The first thing wrong with settings. -/
def fault? (s : Settings) : Option Fault :=
  if !s.adminEmail.toList.contains '@' then some (.adminEmail s.adminEmail)
  else if s.schemaName = "" then some .schemaName
  else if s.customerId = "" then some .customerId
  else if s.timeout.isZero then some .timeout
  else if !looksLikeWebUrl s.endpoint then some (.endpoint s.endpoint)
  else none

/-- A flag in words. -/
def describeFlag (b : Bool) : String :=
  if b then "true" else "false"

/-- Settings in words. -/
def describe (s : Settings) : String :=
  "Args \x7b credentials_file: " ++ Text.quoted s.credentialsFile
    ++ ", admin_email: " ++ Text.quoted s.adminEmail
    ++ ", schema_name: " ++ Text.quoted s.schemaName
    ++ ", customer_id: " ++ Text.quoted s.customerId
    ++ ", dry_run: " ++ describeFlag s.dryRun
    ++ ", timeout: " ++ s.timeout.describe
    ++ ", endpoint: " ++ Text.quoted s.endpoint
    ++ ", token_uri: " ++ Text.quotedOption s.tokenUri
    ++ ", verbose: " ++ describeFlag s.verbose ++ " \x7d"

end Settings

end WorkspaceSchema
