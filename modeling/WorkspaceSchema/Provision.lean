import WorkspaceSchema.Directory.Client

/-!
# Provisioning

To provision a schema is to see to it that a customer has a schema of its name: the schemas are
listed, and the schema is inserted unless one of its name is among them.  A dry run goes as far as
the list and says what it would do.

The service that lists and inserts is a parameter, so that the same rule works on a directory in the
network and on a store in memory.
-/

namespace WorkspaceSchema

/-- How provisioning ended. -/
inductive Outcome where
  | created (schema : Schema)
  | alreadyExists
  | dryRun
deriving DecidableEq

/-- What lists and inserts the schemas of customers, and hears about it. -/
structure SchemaService (m : Type → Type) where
  list : (customer : String) → m (List Schema)
  insert : (customer : String) → Schema → m Schema
  tell : LogEvent → m Unit

/-- For whom schemas are provided, and whether in earnest. -/
structure Provisioner where
  customer : String := Directory.defaultCustomer
  dryRun : Bool := false
deriving DecidableEq, Repr

/-- Whether a schema of this name is in a list. -/
def Schema.nameOccurs (schemaName : String) (existing : List Schema) : Bool :=
  existing.any (·.schemaName = schemaName)

theorem Schema.nameOccurs_eq_true_iff {schemaName : String} {existing : List Schema} :
    nameOccurs schemaName existing = true ↔ schemaName ∈ existing.map (·.schemaName) := by
  simp [nameOccurs]

namespace Provisioner

/-- Sees to it that the customer has a schema of the name of `schema`. -/
def ensure {m : Type → Type} [Monad m] (p : Provisioner) (service : SchemaService m)
    (schema : Schema) : m Outcome := do
  let existing ← service.list p.customer
  if Schema.nameOccurs schema.schemaName existing then
    service.tell (.present schema.schemaName p.customer)
    return .alreadyExists
  else if p.dryRun then
    service.tell (.skipped schema.schemaName p.customer)
    return .dryRun
  else
    let created ← service.insert p.customer schema
    service.tell (.created created.schemaName created.schemaId p.customer)
    return .created created

end Provisioner

/-- The directory that a client asks. -/
def Directory.Client.service (c : Directory.Client) : SchemaService (Attempt Directory.Error) where
  list := c.listSchemas
  insert := c.insertSchema
  tell := Attempt.tell

end WorkspaceSchema
