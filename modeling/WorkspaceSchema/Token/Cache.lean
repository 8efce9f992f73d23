import WorkspaceSchema.Session

/-!
# Holding on to a token

Tokens are fetched rarely: the token that was last had is handed out again until shortly before it
expires.  A failed fetch changes nothing.

What holds on to the token is a parameter, so that the same rule works on a session and on a cache
that stands alone.
-/

namespace WorkspaceSchema

namespace Token

/-- A token that expires within so many seconds is not handed out again. -/
def refreshMargin : Nat := 10

/-- The token held, if it may be handed out again. -/
def reusable? (now : Clock) (held : Option Token) : Option Token :=
  held.filter fun t => !t.expiresWithin refreshMargin now

/-- The token held, or else a fetched one. -/
def obtain {m : Type → Type} [Monad m] (now : Clock) (held : Option Token) (fetch : m Token) :
    m Token :=
  match reusable? now held with
  | some t => pure t
  | none => fetch

/-- What holds on to a token, and the clock that the token is judged by. -/
structure Holder (m : Type → Type) where
  now : m Clock
  held : m (Option Token)
  hold : Token → m Unit

/-- The token held, or else a fetched one, which is held from then on. -/
def Holder.token {m : Type → Type} [Monad m] (h : Holder m) (fetch : m Token) : m Token := do
  let t ← obtain (← h.now) (← h.held) fetch
  h.hold t
  return t

end Token

/-- A session holds on to a token. -/
def Session.holder {ε : Type} : Token.Holder (Attempt ε) where
  now := Attempt.now
  held := return (← get).token
  hold t := modify fun s => { s with token := some t }

/-- The token of a session, fetched if need be, and held from then on. -/
def Attempt.cached {ε : Type} (fetch : Attempt ε Token) : Attempt ε Token :=
  Session.holder.token fetch

namespace Token

/-- A token that is handed out again is the one held. -/
theorem reusable?_eq_some {now : Clock} {held : Option Token} {t : Token} :
    reusable? now held = some t ↔ held = some t ∧ t.expiresWithin refreshMargin now = false := by
  simp [reusable?, Option.filter_eq_some_iff]

/-- No token is handed out again if none is held, or one that expires soon. -/
theorem reusable?_eq_none {now : Clock} {held : Option Token} :
    reusable? now held = none ↔
      held = none ∨ ∃ t, held = some t ∧ t.expiresWithin refreshMargin now = true := by
  cases held with
  | none => simp [reusable?]
  | some t => simp [reusable?, Option.filter]

end Token

/-- A token that may be handed out again is had without a change; another one is fetched, and held
if that succeeds. -/
theorem Attempt.runOn_cached {ε : Type} (fetch : Attempt ε Token) (s : Session) :
    (cached fetch).runOn s = match Token.reusable? s.clock s.token with
      | some t => (.ok t, s)
      | none => match fetch.runOn s with
        | (.ok t, s') => (.ok t, { s' with token := some t })
        | (.error e, s') => (.error e, s') := by
  unfold cached Token.Holder.token Token.obtain Session.holder
  simp only [runOn_bind, runOn_now, runOn_get, runOn_pure]
  cases h : Token.reusable? s.clock s.token with
  | none =>
    dsimp only
    rcases fetch.runOn s with ⟨_ | _, s'⟩ <;> rfl
  | some t =>
    have held : s.token = some t := (Token.reusable?_eq_some.mp h).1
    obtain ⟨clock, network, token, log⟩ := s
    subst held
    rfl

end WorkspaceSchema
