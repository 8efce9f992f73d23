import WorkspaceSchema.Credentials
import WorkspaceSchema.Directory.Error
import WorkspaceSchema.Duration
import WorkspaceSchema.Schema

/-!
# The client of a directory

A client knows where the directory is, how long to wait for it, and where tokens come from.  It
lists the schemas of a customer and inserts new ones.  A request is sent only when there is a token
to send with it.
-/

namespace WorkspaceSchema.Directory

/-- Where the directory is unless another place is given. -/
def defaultEndpoint : String := "https://admin.googleapis.com"

/-- The customer that the administrator belongs to. -/
def defaultCustomer : String := "my_customer"

/-- The permission to change schemas. -/
def userSchemaScope : String := "https://www.googleapis.com/auth/admin.directory.userschema"

/-- The permission to change users. -/
def userScope : String := "https://www.googleapis.com/auth/admin.directory.user"

/-- The permissions that are asked for. -/
def scopes : List String := [userSchemaScope, userScope]

/-- A client. -/
structure Client where
  credentials : Credentials
  endpoint : String
  timeout : Duration
deriving DecidableEq

/-! ### Setting up a client -/

/-- The settings of a client. -/
structure ClientSetup where
  credentials : Option Credentials := none
  endpoint : String := defaultEndpoint
  timeout : Duration := .ofSeconds 30

namespace ClientSetup

/-- A text without the slashes at its end. -/
def trimSlashes (s : String) : String :=
  String.ofList (s.toList.reverse.dropWhile (· = '/')).reverse

theorem dropWhile_dropWhile {α : Type} (p : α → Bool) (l : List α) :
    (l.dropWhile p).dropWhile p = l.dropWhile p := by
  induction l with
  | nil => rfl
  | cons a l ih => by_cases h : p a <;> simp [h, ih]

/-- Nothing is left to trim from a trimmed text. -/
theorem trimSlashes_trimSlashes (s : String) : trimSlashes (trimSlashes s) = trimSlashes s := by
  simp [trimSlashes, dropWhile_dropWhile]

/-- Takes tokens from these credentials. -/
def withCredentials (c : ClientSetup) (credentials : Credentials) : ClientSetup :=
  { c with credentials := some credentials }

/-- Asks the directory at this place. -/
def withEndpoint (c : ClientSetup) (endpoint : String) : ClientSetup :=
  { c with endpoint := trimSlashes endpoint }

/-- Waits that long. -/
def withTimeout (c : ClientSetup) (timeout : Duration) : ClientSetup :=
  { c with timeout }

/-- The settings in words. -/
def describe (c : ClientSetup) : String :=
  "ClientBuilder \x7b credentials: "
    ++ (match c.credentials with
      | none => "None"
      | some credentials => "Some(" ++ credentials.describe ++ ")")
    ++ ", endpoint: " ++ Text.quoted c.endpoint
    ++ ", timeout: " ++ c.timeout.describe ++ " \x7d"

/-- The client, if it has credentials. -/
def build? (c : ClientSetup) : Option Client :=
  c.credentials.map fun credentials => ⟨credentials, c.endpoint, c.timeout⟩

/-- What is said when there are no credentials. -/
def missingCredentials : String :=
  "the Directory API requires delegated credentials, none were configured"

end ClientSetup

/-! ### Requests -/

namespace Client

/-- Where the schemas of a customer are, whatever the customer is called. -/
def schemasUrl (c : Client) (customer : String) : String :=
  c.endpoint ++ "/admin/directory/v1/customer/" ++ Url.Percent.segment customer ++ "/schemas"

/-- What sends the requests. -/
def transport (c : Client) : Http.Client :=
  ⟨if c.timeout.isZero then .none else .limited⟩

/-- Sends a request, and reads the response with `read`. -/
def execute {α : Type} (c : Client) (method : Http.Method) (url : String)
    (body : Option Http.Body) (read : List UInt8 → Except Json.Error α) : Attempt Error α := do
  let headers ← Attempt.mapError Error.authentication c.credentials.headers
  let response ← Attempt.mapError Error.ofFailure
    (Attempt.onNetwork (c.transport.send method url headers body))
  if response.isSuccess then
    match response.bytes with
    | .error f => throw (Error.ofFailure f)
    | .ok bytes =>
      match read bytes with
      | .ok a => return a
      | .error e => throw (.deserialization e.message)
  else
    match response.bytes with
    | .error f => throw (Error.ofFailure f)
    | .ok _ =>
      Attempt.tell (.refused response.status)
      throw (Error.ofResponse response)

/-- The schemas of a customer. -/
def listSchemas (c : Client) (customer : String) : Attempt Error (List Schema) := do
  let url := c.schemasUrl customer
  Attempt.tell (.listing url)
  let response ← c.execute .get url none SchemaList.parse
  Attempt.tell (.listed response.schemas.length)
  return response.schemas

/-- Inserts a schema for a customer, and answers with the schema as the directory keeps it. -/
def insertSchema (c : Client) (customer : String) (schema : Schema) : Attempt Error Schema := do
  let url := c.schemasUrl customer
  Attempt.tell (.inserting url schema.schemaName)
  let response ← c.execute .post url (some (.json schema.print)) Schema.parse
  Attempt.tell (.inserted response.schemaId)
  return response

end Client

end WorkspaceSchema.Directory
