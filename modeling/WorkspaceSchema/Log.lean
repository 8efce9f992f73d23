import WorkspaceSchema.Text.Quoted

/-!
# Log events

What a run tells about its progress.  An event is a line with a level, the part of the program it
comes from, a message, and named values.
-/

namespace WorkspaceSchema

/-- How much an event matters. -/
inductive LogLevel where
  | debug
  | info
  | warn
deriving DecidableEq, Repr

/-- The name of a level. -/
def LogLevel.name : LogLevel → String
  | .debug => "DEBUG"
  | .info => "INFO"
  | .warn => "WARN"

/-- An event. -/
inductive LogEvent where
  /-- A token has been had for an administrator. -/
  | authorized (adminEmail : String)
  /-- The schemas of a customer are asked for. -/
  | listing (url : String)
  /-- So many schemas were listed. -/
  | listed (count : Nat)
  /-- A schema is sent. -/
  | inserting (url : String) (schemaName : String)
  /-- A schema was taken, under an identifier. -/
  | inserted (schemaId : Option String)
  /-- A request was refused. -/
  | refused (status : Nat)
  /-- A schema is there already. -/
  | present (schemaName customer : String)
  /-- A schema is missing, and will not be made. -/
  | skipped (schemaName customer : String)
  /-- A schema has been made. -/
  | created (schemaName : String) (schemaId : Option String) (customer : String)
deriving DecidableEq, Repr

namespace LogEvent

/-- How much an event matters. -/
def level : LogEvent → LogLevel
  | .present _ _ => .info
  | .created _ _ _ => .info
  | .skipped _ _ => .warn
  | _ => .debug

/-- The part of the program an event comes from. -/
def origin : LogEvent → String
  | .authorized _ => "gsuite_create_schema::app"
  | .present _ _ => "gsuite_directory::provisioner"
  | .created _ _ _ => "gsuite_directory::provisioner"
  | .skipped _ _ => "gsuite_directory::provisioner"
  | _ => "gsuite_directory::client"

/-- The message of an event. -/
def message : LogEvent → String
  | .authorized _ => "obtained delegated access token"
  | .listing _ => "listing custom schemas"
  | .listed _ => "listed custom schemas"
  | .inserting _ _ => "inserting custom schema"
  | .inserted _ => "inserted custom schema"
  | .refused _ => "the Directory API returned an error"
  | .present _ _ => "custom schema already exists"
  | .skipped _ _ => "custom schema is missing, dry-run mode skips its creation"
  | .created _ _ _ => "custom schema created"

/-- The named values of an event. -/
def values : LogEvent → List (String × String)
  | .authorized email => [("admin_email", email)]
  | .listing url => [("method", Text.quoted "GET"), ("url", url)]
  | .listed count => [("count", String.ofList (Nat.toDigits 10 count))]
  | .inserting url name => [("method", Text.quoted "POST"), ("url", url), ("schema_name", name)]
  | .inserted schemaId => [("schema_id", Text.quotedOption schemaId)]
  | .refused status => [("status_code", String.ofList (Nat.toDigits 10 status))]
  | .present name customer => [("schema_name", name), ("customer_id", customer)]
  | .skipped name customer => [("schema_name", name), ("customer_id", customer)]
  | .created name schemaId customer =>
    [("schema_name", name), ("schema_id", Text.quotedOption schemaId), ("customer_id", customer)]

/-- An event as a line. -/
def render (e : LogEvent) : String :=
  e.level.name ++ " " ++ e.origin ++ ": " ++ e.message
    ++ String.join (e.values.map fun v => " " ++ v.1 ++ "=" ++ v.2)

end LogEvent

end WorkspaceSchema
