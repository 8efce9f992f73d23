import Mathlib.Tactic.Lemma
import WorkspaceSchema.Provision.Store

/-!
# What a provisioner says to a service

A provisioner works with a service of any kind.  Here nobody is at the other end yet: a `Dialogue` is
the call that comes next and what follows from each answer to it, whatever the answer may be.  Someone
else gives the answers, one at a time, and may do something else between two of them.

`Provisioner.ensure_dialogue` spells out what a provisioner has to say: it asks for the list, and for the
insertion only if it is in earnest and the name was not in the list.
-/

namespace WorkspaceSchema

/-- What a call is answered with, if all goes well. -/
def Store.Call.Answer : Store.Call → Type
  | .list _ => List Schema
  | .insert _ _ => Schema

/-- What is still to be said to a service. -/
inductive Dialogue (α : Type) : Type where
  | done (result : Except Directory.Error α)
  | asks (call : Store.Call) (next : Except Directory.Error call.Answer → Dialogue α)

namespace Dialogue

/-- Goes on after a dialogue that ends well. -/
def andThen {α β : Type} : Dialogue α → (α → Dialogue β) → Dialogue β
  | .done (.ok a), f => f a
  | .done (.error e), _ => .done (.error e)
  | .asks call next, f => .asks call fun answer => (next answer).andThen f

instance : Monad Dialogue where
  pure a := .done (.ok a)
  bind := andThen

/-- The service at the other end of a dialogue.  Events are told to nobody. -/
def service : SchemaService Dialogue where
  list customer := .asks (.list customer) .done
  insert customer schema := .asks (.insert customer schema) .done
  tell _ := .done (.ok ())

/-- Has a dialogue with a service that may fail. -/
def perform {m : Type → Type} [Monad m] {α : Type} (service : SchemaService (ExceptT Directory.Error m)) :
    Dialogue α → ExceptT Directory.Error m α
  | .done result => .mk (pure result)
  | .asks (.list customer) next => .mk do
    let answer ← (service.list customer).run
    ((next answer).perform service).run
  | .asks (.insert customer schema) next => .mk do
    let answer ← (service.insert customer schema).run
    ((next answer).perform service).run

/-- Whether a dialogue is over after so many answers, whatever they are. -/
def Within {α : Type} : Nat → Dialogue α → Prop
  | _, .done _ => True
  | 0, .asks _ _ => False
  | n + 1, .asks _ next => ∀ answer, (next answer).Within n

/-- More answers do no harm. -/
lemma Within.mono {α : Type} {d : Dialogue α} {n m : Nat} (within : d.Within n) (more : n ≤ m) :
    d.Within m := by
  induction d generalizing n m with
  | done result => cases m <;> trivial
  | asks call next ih =>
    cases n with
    | zero => exact within.elim
    | succ n =>
      cases m with
      | zero => exact (Nat.not_succ_le_zero n more).elim
      | succ m => exact fun answer => ih answer (within answer) (Nat.le_of_succ_le_succ more)

/-- A dialogue that takes no more answers is over. -/
lemma Within.exists_done {α : Type} {d : Dialogue α} (within : d.Within 0) :
    ∃ result, d = .done result := by
  cases d with
  | done result => exact ⟨result, rfl⟩
  | asks call next => exact within.elim

end Dialogue

namespace Provisioner

variable (p : Provisioner) (schema : Schema)

/-- How a dialogue ends after the insertion. -/
def afterInsertion : Except Directory.Error Schema → Dialogue Outcome
  | .error e => .done (.error e)
  | .ok created => .done (.ok (.created created))

/-- How a dialogue goes on after the list. -/
def afterList : Except Directory.Error (List Schema) → Dialogue Outcome
  | .error e => .done (.error e)
  | .ok existing =>
    if schema.schemaName ∈ existing.map (·.schemaName) then .done (.ok .alreadyExists)
    else if p.dryRun then .done (.ok .dryRun)
    else .asks (.insert p.customer schema) afterInsertion

/-- A provisioner asks for the list first, and then perhaps for the insertion. -/
theorem ensure_dialogue :
    p.ensure Dialogue.service schema = .asks (.list p.customer) (p.afterList schema) := by
  change Dialogue.asks (.list p.customer) _ = _
  congr 1
  funext answer
  cases answer with
  | error e => rfl
  | ok existing =>
    change (if Schema.nameOccurs schema.schemaName existing then _ else _) = ite _ _ _
    by_cases occurs : schema.schemaName ∈ existing.map (·.schemaName)
    · rw [if_pos (Schema.nameOccurs_eq_true_iff.mpr occurs), if_pos occurs]
      rfl
    · rw [if_neg (mt Schema.nameOccurs_eq_true_iff.mp occurs), if_neg occurs]
      cases p.dryRun with
      | true => rfl
      | false =>
        change Dialogue.asks (.insert p.customer schema) _ = .asks (.insert p.customer schema) _
        congr 1
        funext answer
        cases answer <;> rfl

/-- A provisioner does with a service what it has to say to it, apart from the events. -/
theorem perform_ensure_dialogue {m : Type → Type} [Monad m] [LawfulMonad m]
    {service : SchemaService (ExceptT Directory.Error m)} (silent : ∀ event, service.tell event = pure ()) :
    (p.ensure Dialogue.service schema).perform service = p.ensure service schema := by
  rw [ensure_dialogue]
  refine ExceptT.ext ?_
  unfold ensure
  rw [ExceptT.run_bind]
  refine bind_congr fun answer => ?_
  cases answer with
  | error e => rfl
  | ok existing =>
    change ExceptT.run (Dialogue.perform service (ite _ _ (ite _ _ _))) = ExceptT.run (ite _ _ _)
    simp only [silent, pure_bind]
    by_cases occurs : schema.schemaName ∈ existing.map (·.schemaName)
    · rw [if_pos occurs, if_pos (Schema.nameOccurs_eq_true_iff.mpr occurs)]
      rfl
    · rw [if_neg occurs, if_neg (mt Schema.nameOccurs_eq_true_iff.mp occurs)]
      split
      · rfl
      · refine bind_congr fun answer => ?_
        cases answer <;> rfl

/-- Two answers are enough for any dialogue of a provisioner. -/
lemma within_ensure_dialogue : (p.ensure Dialogue.service schema).Within 2 := by
  rw [ensure_dialogue]
  intro answer
  cases answer with
  | error e => trivial
  | ok existing =>
    change Dialogue.Within 1 (ite _ _ (ite _ _ _))
    split
    · trivial
    · split
      · trivial
      · intro answer
        cases answer <;> trivial

end Provisioner

end WorkspaceSchema
