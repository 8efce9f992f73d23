import WorkspaceSchema.Json.Shape.Document
import WorkspaceSchema.Json.Shape.Reader
import WorkspaceSchema.Text.Quoted

/-!
# Service account keys

The key file of a service account names the account and holds its private key.  The private key
appears in no text about the key.
-/

namespace WorkspaceSchema.Account

/-- The key of a service account. -/
structure Key where
  clientEmail : String := ""
  privateKeyId : String := ""
  privateKey : String := ""
  projectId : Option String := none
  tokenUri : Option String := none
  universeDomain : Option String := none
deriving DecidableEq, Inhabited

namespace Key

/-- The shape of a key. -/
@[reducible] def shape : Json.Shape :=
  .record "ServiceAccountKey"
    (.cons "client_email" .required .text
    (.cons "private_key_id" .required .text
    (.cons "private_key" .required .text
    (.cons "project_id" .omittable .text
    (.cons "token_uri" .omittable .text
    (.cons "universe_domain" .omittable .text .nil))))))

/-- The key that a value of the shape describes. -/
def ofVal : shape.Val → Key
  | (clientEmail, privateKeyId, privateKey, projectId, tokenUri, universeDomain, ()) =>
    { clientEmail, privateKeyId, privateKey, projectId, tokenUri, universeDomain }

/-- Reads a key. -/
def parse (bytes : List UInt8) : Except Json.Error Key :=
  (shape.parse bytes).map ofVal

/-- Takes a key from a document. -/
def ofJson (j : Json) : Except Json.Reason Key :=
  (shape.ofJson j).map ofVal

/-- What stands for a secret in a text. -/
def censored : String := "[censored]"

/-- A key in words, without the private key. -/
def describe (k : Key) : String :=
  "ServiceAccountKey \x7b client_email: " ++ Text.quoted k.clientEmail
    ++ ", private_key_id: " ++ Text.quoted k.privateKeyId
    ++ ", private_key: " ++ Text.quoted censored
    ++ ", project_id: " ++ Text.quotedOption k.projectId
    ++ ", token_uri: " ++ Text.quotedOption k.tokenUri
    ++ ", universe_domain: " ++ Text.quotedOption k.universeDomain ++ " \x7d"

end Key

end WorkspaceSchema.Account
