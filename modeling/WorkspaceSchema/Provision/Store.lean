import WorkspaceSchema.Provision

/-!
# A store in memory

A store keeps the schemas of customers and gives each schema it takes a fresh identifier.  It
remembers what it was asked.  A step of work with it may be told to fail, or to answer an insertion
with another schema than the one it keeps.
-/

namespace WorkspaceSchema

/-- What a store was asked. -/
inductive Store.Call where
  | list (customer : String)
  | insert (customer : String) (schema : Schema)
deriving DecidableEq

/-- The schemas of customers. -/
structure Store where
  customers : List (String × List Schema) := []
  /-- How many schemas were taken. -/
  taken : Nat := 0
  /-- What the store was asked, the latest last. -/
  calls : List Store.Call := []
  /-- The events told, the latest last. -/
  log : List LogEvent := []
deriving DecidableEq

namespace Store

/-- What a store is told to do otherwise than it would. -/
structure Script where
  failList : Option Directory.Error := none
  failInsert : Option Directory.Error := none
  reply : Option Schema := none

/-- The schemas of a customer. -/
def schemas (s : Store) (customer : String) : List Schema :=
  (s.customers.lookup customer).getD []

/-- Appends a schema to those of a customer. -/
def append (customer : String) (schema : Schema) :
    List (String × List Schema) → List (String × List Schema)
  | [] => [(customer, [schema])]
  | (other, kept) :: rest =>
    if other = customer then (other, kept ++ [schema]) :: rest
    else (other, kept) :: append customer schema rest

theorem lookup_append (k customer : String) (schema : Schema) (all : List (String × List Schema)) :
    (append customer schema all).lookup k =
      if k = customer then some ((all.lookup customer).getD [] ++ [schema]) else all.lookup k := by
  induction all with
  | nil => grind [append]
  | cons m rest ih => grind [append]

/-- Takes a schema under a fresh identifier. -/
def take (s : Store) (customer : String) (schema : Schema) : Schema × Store :=
  let kept := { schema with schemaId := some ("id-" ++ String.ofList (Nat.toDigits 10 (s.taken + 1))) }
  (kept, { s with customers := append customer kept s.customers, taken := s.taken + 1 })

/-- A schema that is taken comes last among those of its customer, and nothing else changes. -/
theorem schemas_take (s : Store) (k customer : String) (schema : Schema) :
    (s.take customer schema).2.schemas k =
      if k = customer then s.schemas customer ++ [(s.take customer schema).1] else s.schemas k := by
  unfold take schemas
  rw [lookup_append]
  split <;> simp

/-- The store as a service that follows a script. -/
def service (script : Script) : SchemaService (ExceptT Directory.Error (StateM Store)) where
  list customer := do
    modify fun s => { s with calls := s.calls ++ [.list customer] }
    match script.failList with
    | some e => throw e
    | none => return (← get).schemas customer
  insert customer schema := do
    modify fun s => { s with calls := s.calls ++ [.insert customer schema] }
    match script.failInsert with
    | some e => throw e
    | none =>
      let (kept, s) := (← get).take customer schema
      set s
      return script.reply.getD kept
  tell e := modify fun s => { s with log := s.log ++ [e] }

/-- Provides a schema from a store. -/
def ensure (s : Store) (script : Script) (p : Provisioner) (schema : Schema) :
    Except Directory.Error Outcome × Store :=
  StateT.run (ExceptT.run (p.ensure (service script) schema)) s

end Store

end WorkspaceSchema
