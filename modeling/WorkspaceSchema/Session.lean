import WorkspaceSchema.Http.Client
import WorkspaceSchema.Log
import WorkspaceSchema.Token

/-!
# Sessions

A session is what requests have in common: the clock and the network they use, the token that was
last had, and the events told so far.  An `Attempt` works on a session and may fail; a failure keeps
what was done to the session before it.
-/

namespace WorkspaceSchema

/-- The state that requests share. -/
structure Session where
  clock : Clock
  network : Http.Network
  /-- The token that was last had. -/
  token : Option Token := none
  /-- The events told, the latest last. -/
  log : List LogEvent := []
deriving DecidableEq, Repr

/-- A session in which one more event is told. -/
def Session.told (s : Session) (e : LogEvent) : Session :=
  { s with log := s.log ++ [e] }

section Told

variable (s : Session) (e : LogEvent)

@[simp] theorem Session.told_clock : (s.told e).clock = s.clock :=
  rfl

@[simp] theorem Session.told_network : (s.told e).network = s.network :=
  rfl

@[simp] theorem Session.told_token : (s.told e).token = s.token :=
  rfl

end Told

/-- A computation on a session that may fail. -/
abbrev Attempt (ε α : Type) : Type :=
  ExceptT ε (StateM Session) α

namespace Attempt

/-- Runs an attempt on a session. -/
def runOn {ε α : Type} (a : Attempt ε α) (s : Session) : Except ε α × Session :=
  StateT.run (ExceptT.run a) s

/-- Tells an event. -/
def tell {ε : Type} (e : LogEvent) : Attempt ε Unit :=
  modify (·.told e)

/-- The readings of the clocks. -/
def now {ε : Type} : Attempt ε Clock := do
  return (← get).clock

/-- Works on the network. -/
def onNetwork {ε α : Type} (f : Http.Network → Except ε α × Http.Network) : Attempt ε α := do
  let s ← get
  let (result, network) := f s.network
  set { s with network }
  match result with
  | .ok a => return a
  | .error e => throw e

/-- Turns the errors of an attempt into errors of another kind. -/
def mapError {ε δ α : Type} (f : ε → δ) (a : Attempt ε α) : Attempt δ α :=
  ExceptT.adapt f a

/-- Fails with the error of a result. -/
def ofExcept {ε α : Type} (result : Except ε α) : Attempt ε α :=
  match result with
  | .ok a => return a
  | .error e => throw e

/-! ### What attempts come to -/

section RunOn

variable {ε δ α β : Type}

@[simp] theorem runOn_pure (a : α) (s : Session) : (pure a : Attempt ε α).runOn s = (.ok a, s) :=
  rfl

@[simp] theorem runOn_throw (e : ε) (s : Session) :
    (throw e : Attempt ε α).runOn s = (.error e, s) :=
  rfl

@[simp] theorem runOn_get (s : Session) : (get : Attempt ε Session).runOn s = (.ok s, s) :=
  rfl

@[simp] theorem runOn_modify (f : Session → Session) (s : Session) :
    (modify f : Attempt ε Unit).runOn s = (.ok (), f s) :=
  rfl

/-- What follows an attempt goes on where the attempt ended, unless the attempt failed. -/
theorem runOn_bind (a : Attempt ε α) (f : α → Attempt ε β) (s : Session) :
    (a >>= f).runOn s = match a.runOn s with
      | (.ok x, s') => (f x).runOn s'
      | (.error e, s') => (.error e, s') := by
  unfold runOn
  rw [ExceptT.run_bind, StateT.run_bind]
  rcases StateT.run (ExceptT.run a) s with ⟨_ | _, s'⟩ <;> rfl

@[simp] theorem runOn_tell (e : LogEvent) (s : Session) :
    (tell e : Attempt ε Unit).runOn s = (.ok (), s.told e) :=
  rfl

@[simp] theorem runOn_now (s : Session) : (now : Attempt ε Clock).runOn s = (.ok s.clock, s) :=
  rfl

@[simp] theorem runOn_ofExcept (r : Except ε α) (s : Session) : (ofExcept r).runOn s = (r, s) := by
  cases r <;> rfl

@[simp] theorem runOn_mapError (f : ε → δ) (a : Attempt ε α) (s : Session) :
    (mapError f a).runOn s = ((a.runOn s).1.mapError f, (a.runOn s).2) :=
  rfl

/-- Work on the network leaves everything else in a session as it is. -/
@[simp] theorem runOn_onNetwork (f : Http.Network → Except ε α × Http.Network) (s : Session) :
    (onNetwork f).runOn s = ((f s.network).1, { s with network := (f s.network).2 }) := by
  unfold onNetwork
  rw [runOn_bind, runOn_get]
  dsimp only
  rcases f s.network with ⟨_ | _, n⟩ <;> rfl

end RunOn

end Attempt

end WorkspaceSchema
