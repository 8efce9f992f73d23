import Mathlib.Tactic.Lemma
import WorkspaceSchema.Token.Cache

/-!
# Runs of a token cache

A cache stands between those who ask for tokens and the provider that mints them.  This file follows
a cache that stands alone, beside a provider of any kind, through any sequence of requests and moves
of the clock.

The provider is a function on its surroundings, which hold the clock and whatever else it remembers;
its answer may depend on everything that happened before, and asking it may take time.  The cache
notes each answer, so that what the provider was asked can be told from the notes.

The invariant is that the token held is the token of the latest answer that was one.  From it follows
when a cache asks its provider, what it hands out when it does not, and what becomes of errors.
-/

namespace WorkspaceSchema.Token

/-- What lies outside a cache: the clock, and the state of the provider. -/
structure Surroundings (σ : Type) where
  clock : Clock
  state : σ

/-- What mints tokens, or fails. -/
abbrev Provider (σ ε : Type) : Type :=
  Surroundings σ → Except ε Token × Surroundings σ

/-- A cache that stands alone. -/
structure Cache (σ ε : Type) where
  around : Surroundings σ
  held : Option Token := none
  /-- What the provider answered, the latest last. -/
  answers : List (Except ε Token) := []

namespace Cache

variable {σ ε : Type}

/-- A cache holds on to its token. -/
def holder : Holder (ExceptT ε (StateM (Cache σ ε))) where
  now := return (← get).around.clock
  held := return (← get).held
  hold t := modify fun c => { c with held := some t }

/-- Asks the provider, and notes its answer. -/
def consult (p : Provider σ ε) : ExceptT ε (StateM (Cache σ ε)) Token := do
  let c ← get
  let (answer, around) := p c.around
  set { c with around, answers := c.answers ++ [answer] }
  match answer with
  | .ok t => return t
  | .error e => throw e

/-- Asks a cache for a token. -/
def token (p : Provider σ ε) (c : Cache σ ε) : Except ε Token × Cache σ ε :=
  StateT.run (ExceptT.run (holder.token (consult p))) c

/-- What happens to a cache: it is asked for a token, or time passes, in either direction. -/
inductive Step where
  | token
  | advance (seconds : Int)

/-- A cache after one step. -/
def step (p : Provider σ ε) (c : Cache σ ε) : Step → Cache σ ε
  | .token => (c.token p).2
  | .advance seconds => { c with around.clock := c.around.clock.advance seconds }

/-- A cache after some steps. -/
def run (p : Provider σ ε) (c : Cache σ ε) (steps : List Step) : Cache σ ε :=
  steps.foldl (step p) c

/-- The token of the latest answer that was one. -/
def lastToken? (answers : List (Except ε Token)) : Option Token :=
  (answers.filterMap Except.toOption).getLast?

/-! ### One request -/

/-- A cache hands out the token it holds, or else asks its provider once. -/
lemma token_eq (p : Provider σ ε) (c : Cache σ ε) :
    c.token p = match reusable? c.around.clock c.held with
      | some t => (.ok t, c)
      | none => ((p c.around).1,
          { around := (p c.around).2
            held := (p c.around).1.toOption.or c.held
            answers := c.answers ++ [(p c.around).1] }) := by
  unfold token Holder.token obtain
  change StateT.run (ExceptT.run ((match reusable? c.around.clock c.held with
    | some t => pure t
    | none => consult p) >>= fun t => do holder.hold t; return t)) c = _
  cases h : reusable? c.around.clock c.held with
  | some t =>
    obtain ⟨around, held, answers⟩ := c
    obtain rfl : held = some t := (reusable?_eq_some.mp h).1
    rfl
  | none =>
    change StateT.run (ExceptT.run ((match p c.around with
      | (answer, around) => do
        set { c with around, answers := c.answers ++ [answer] }
        match answer with
        | .ok t => return t
        | .error e => throw e) >>= fun t => do holder.hold t; return t)) c = _
    rcases p c.around with ⟨_ | _, around⟩ <;> rfl

/-- A new answer counts if it is a token. -/
lemma lastToken?_concat (answers : List (Except ε Token)) (a : Except ε Token) :
    lastToken? (answers ++ [a]) = a.toOption.or (lastToken? answers) := by
  cases a with
  | error e => simp [lastToken?, Except.toOption]
  | ok t => simp [lastToken?, Except.toOption]

/-! ### Runs -/

/-- No step makes a cache hold another token than that of the latest answer that was one. -/
lemma held_step (p : Provider σ ε) {c : Cache σ ε} (h : c.held = lastToken? c.answers) (s : Step) :
    (step p c s).held = lastToken? (step p c s).answers := by
  cases s with
  | advance seconds => exact h
  | token =>
    unfold step
    rw [token_eq]
    cases reusable? c.around.clock c.held with
    | some t => exact h
    | none =>
      dsimp only
      rw [lastToken?_concat, h]

/-- A cache holds the token of the latest answer that was one. -/
lemma held_run (p : Provider σ ε) {c : Cache σ ε} (h : c.held = lastToken? c.answers)
    (steps : List Step) : (run p c steps).held = lastToken? (run p c steps).answers := by
  induction steps generalizing c with
  | nil => exact h
  | cons s steps ih => exact ih (held_step p h s)

/-- After any run, a request asks the provider at most once, and exactly if no token was minted yet
or the latest one expires within ten seconds or beyond what the clock can count.  What is handed out
is what the provider has just minted, or the latest token, which then lives on after ten seconds.  An
error is that of the provider, just asked, and changes nothing about the token held. -/
theorem token_after_run (p : Provider σ ε) (around : Surroundings σ) (steps : List Step) :
    let c := run p { around } steps
    let (result, after) := c.token p
    let soon := c.around.clock.steady + 10
    ∃ asked : List (Except ε Token), after.answers = c.answers ++ asked ∧
      (asked = [] ∨ asked = [(p c.around).1]) ∧
      (∀ t, result = .ok t → asked = [.ok t] ∨ asked = [] ∧ lastToken? c.answers = some t ∧
        (t.expiresAt = none ∨ ∃ expiry, t.expiresAt = some expiry ∧
          soon ≤ Clock.latest ∧ soon < expiry)) ∧
      (asked ≠ [] ↔ lastToken? c.answers = none ∨ ∃ t expiry, lastToken? c.answers = some t ∧
        t.expiresAt = some expiry ∧ (Clock.latest < soon ∨ expiry ≤ soon)) ∧
      (∀ e, .error e ∈ asked → result = .error e ∧ after.held = c.held) ∧
      (∀ e, result = .error e → .error e ∈ asked) := by
  intro c
  have held : c.held = lastToken? c.answers := held_run p rfl steps
  -- The provider is asked exactly if the latest token may not be handed out again.
  have due : reusable? c.around.clock c.held = none ↔
      lastToken? c.answers = none ∨ ∃ t expiry, lastToken? c.answers = some t ∧
        t.expiresAt = some expiry ∧ (Clock.latest < c.around.clock.steady + 10 ∨
          expiry ≤ c.around.clock.steady + 10) := by
    rw [reusable?_eq_none, held]
    simp only [expiresWithin_eq_true_iff, exists_and_left]
    rfl
  rw [token_eq]
  cases h : reusable? c.around.clock c.held with
  | some t =>
    obtain ⟨last, lives⟩ := reusable?_eq_some.mp h
    rw [held] at last
    refine ⟨[], (List.append_nil _).symm, .inl rfl, ?_, ?_, by simp, by simp⟩
    · intro t' ht
      obtain rfl : t = t' := Except.ok.inj ht
      exact .inr ⟨rfl, last, expiresWithin_eq_false_iff.mp lives⟩
    · rw [← due, h]
      simp
  | none =>
    refine ⟨[(p c.around).1], rfl, .inr rfl, ?_, ?_, ?_, ?_⟩
    · intro t ht
      exact .inl (by rw [← ht])
    · exact iff_of_true (List.cons_ne_nil _ _) (due.mp h)
    · intro e he
      have failed : (p c.around).1 = .error e := (List.mem_singleton.mp he).symm
      exact ⟨failed, by rw [failed]; rfl⟩
    · intro e he
      exact List.mem_singleton.mpr he.symm

end Cache

end WorkspaceSchema.Token
