import WorkspaceSchema.Schema

/-!
# The schema of the single sign-on application

The application reads two custom fields of a user: the roles the user may take, of which there may
be several, and how long a session lasts.
-/

namespace WorkspaceSchema.Saml

/-- The name of the schema unless another one is asked for. -/
def defaultName : String := "AWS_SAML"

/-- The name of the field that holds the roles. -/
def roleField : String := "IAM_Role"

/-- The name of the field that holds the length of a session. -/
def sessionDurationField : String := "SessionDuration"

/-- The schema, under a given name that it also displays. -/
def schema (schemaName : String) : Schema where
  schemaName
  displayName := some schemaName
  fields :=
    [{ fieldName := roleField, fieldType := .string, displayName := some "Role", multiValued := true },
     { fieldName := sessionDurationField, fieldType := .int64,
       displayName := some sessionDurationField, multiValued := false }]

end WorkspaceSchema.Saml
