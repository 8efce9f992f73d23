import WorkspaceSchema.Credentials
import WorkspaceSchema.Proofs.Http.Order

/-!
# Asking an account for a token

A service account asks the token endpoint with one order, always the same as long as the clock stands
still.  `runOn_fetch` and `runOn_token` say what asking does to a session: either nothing, because a
token is held that may be handed out again or because the key does not sign, or the one order, and the
token that it brings is held from then on.  `exists_renews` puts the same in terms of the renewal that
asking takes, if it takes one.  Headers are made of the token had, and nothing more is sent for them.
-/

namespace WorkspaceSchema

namespace Account.Source

variable (a : Source)

/-- The order for a token. -/
def order (form : Http.Body) : Http.Order :=
  ⟨⟨.endless⟩, .post, a.tokenUri, [], some form⟩

/-- An order for a token sends a form and no document. -/
lemma body_order_ne {now : Clock} {form : Http.Body} (made : a.form? now = some form) (text : String) :
    (a.order form).body ≠ some (.json text) := by
  obtain ⟨statement, -, rfl⟩ := Option.map_eq_some_iff.mp made
  intro same
  cases same

/-- The token that came back for an order, at some time. -/
def granted (now : Clock) (answer : Except Http.Failure Http.Response) : Except Token.Error Token :=
  match answer with
  | .error failure => .error ⟨true, .failure failure⟩
  | .ok response => Token.ofResponse a.tokenUri response now

/-- An exchange that brought a token. -/
def Grants (now : Clock) (e : Http.Exchange) (t : Token) : Prop :=
  ∃ response, e.answer = .ok response ∧ Token.ofResponse a.tokenUri response now = .ok t

/-- What came back is a token exactly if the exchange brought it. -/
lemma granted_eq_ok_iff {now : Clock} {e : Http.Exchange} {t : Token} :
    a.granted now e.answer = .ok t ↔ a.Grants now e t := by
  unfold granted Grants
  cases e.answer <;> simp

/-- The token that the last of some exchanges brought, if it brought one. -/
def lastToken? (now : Clock) (asked : List Http.Exchange) : Option Token :=
  asked.getLast?.bind fun e => (a.granted now e.answer).toOption

/-- Only the last exchange counts. -/
lemma lastToken?_concat (now : Clock) (asked : List Http.Exchange) (e : Http.Exchange) :
    a.lastToken? now (asked ++ [e]) = (a.granted now e.answer).toOption := by
  unfold lastToken?
  rw [List.getLast?_concat]
  rfl

/-- The last of some exchanges granted the token that it brought. -/
lemma grants_of_lastToken? {now : Clock} {asked : List Http.Exchange} {e : Http.Exchange} {t : Token}
    (last : a.lastToken? now (asked ++ [e]) = some t) : a.Grants now e t := by
  rw [lastToken?_concat] at last
  refine a.granted_eq_ok_iff.mp ?_
  cases granted : a.granted now e.answer with
  | error error =>
    rw [granted] at last
    cases last
  | ok t' =>
    rw [granted] at last
    exact congrArg _ (Option.some.inj last)

/-- An account asks with one order, unless its key does not sign. -/
lemma runOn_fetch (b : Session) :
    a.fetch.runOn b = match a.form? b.clock with
      | none => (.error ⟨false, .signing⟩, b)
      | some form => (a.granted b.clock ((a.order form).answer b.network),
          { b with network := (a.order form).after b.network }) := by
  unfold fetch
  rw [Attempt.runOn_bind, Attempt.runOn_now]
  dsimp only
  cases a.form? b.clock with
  | none => rfl
  | some form =>
    dsimp only
    rw [Attempt.runOn_bind, Attempt.runOn_mapError, Attempt.runOn_onNetwork]
    unfold granted order Http.Order.answer Http.Order.after
    dsimp only
    rcases Http.Client.send _ _ _ _ _ b.network with ⟨failure | response, n⟩
    · rfl
    · exact Attempt.runOn_ofExcept _ _

/-! ### Renewals -/

/-- The token that an exchange brought, if there was one that brought one. -/
def grant? (now : Clock) (renewal : Option Http.Exchange) : Option Token :=
  renewal.bind fun e => (a.granted now e.answer).toOption

/-- What asking for a token comes to, `held` being the token that was granted last. -/
def tokenFrom (now : Clock) (held : Option Token) (renewal : Option Http.Exchange) :
    Except Token.Error Token :=
  match Token.reusable? now held with
  | some t => .ok t
  | none =>
    match renewal with
    | some e => a.granted now e.answer
    | none => .error ⟨false, .signing⟩

/-- When a new token is asked for, and how. -/
structure Renews (now : Clock) (held : Option Token) (renewal : Option Http.Exchange) : Prop where
  due : renewal.isSome = true ↔
    Token.reusable? now held = none ∧ (a.form? now).isSome = true
  order : ∀ e ∈ renewal, ∃ form, a.form? now = some form ∧ e.order = a.order form

variable {a : Source} {now : Clock} {held : Option Token} {renewal : Option Http.Exchange} {t : Token}

/-- A token that is had is the one granted last.  It was granted just now, or it lives on. -/
lemma Renews.of_tokenFrom (h : a.Renews now held renewal) (had : a.tokenFrom now held renewal = .ok t) :
    (a.grant? now renewal).or held = some t ∧
      (a.grant? now renewal = some t ∨ t.expiresWithin Token.refreshMargin now = false) := by
  unfold tokenFrom at had
  cases reusable : Token.reusable? now held with
  | some t' =>
    rw [reusable] at had
    obtain rfl : t' = t := Except.ok.inj had
    have none : renewal = none := by
      rw [← Option.not_isSome_iff_eq_none, h.due, reusable]
      rintro ⟨⟨⟩, -⟩
    obtain ⟨same, lives⟩ := Token.reusable?_eq_some.mp reusable
    rw [none]
    exact ⟨same, .inr lives⟩
  | none =>
    rw [reusable] at had
    cases renewal with
    | none => cases had
    | some e =>
      have granted : a.grant? now (some e) = some t := by
        change (a.granted now e.answer).toOption = some t
        rw [show a.granted now e.answer = .ok t from had]
        rfl
      rw [granted]
      exact ⟨rfl, .inl rfl⟩

end Account.Source

namespace Credentials

variable (a : Account.Source)

/-- A token that may be handed out again is had without a change.  Otherwise there is one order, unless
the key does not sign, and what it brings is held. -/
lemma runOn_token (b : Session) :
    (account a).token.runOn b = match Token.reusable? b.clock b.token with
      | some t => (.ok t, b)
      | none => match a.form? b.clock with
        | none => (.error ⟨false, .signing⟩, b)
        | some form => (a.granted b.clock ((a.order form).answer b.network),
            { b with
              network := (a.order form).after b.network
              token :=
                (a.granted b.clock ((a.order form).answer b.network)).toOption.or b.token }) := by
  unfold token
  dsimp only
  rw [Attempt.runOn_cached]
  cases Token.reusable? b.clock b.token with
  | some t => rfl
  | none =>
    dsimp only
    rw [a.runOn_fetch]
    cases a.form? b.clock with
    | none => rfl
    | some form =>
      dsimp only
      cases a.granted b.clock ((a.order form).answer b.network) <;> rfl

/-- Asking leaves everything as it is, and gives a token, exactly if the token is held and may be handed out
again. -/
lemma runOn_token_eq_self_iff {b : Session} {t : Token} :
    (account a).token.runOn b = (.ok t, b) ↔ Token.reusable? b.clock b.token = some t := by
  rw [runOn_token]
  cases Token.reusable? b.clock b.token with
  | some t' => simp
  | none =>
    refine iff_of_false ?_ nofun
    dsimp only
    cases a.form? b.clock with
    | none => exact nofun
    | some form =>
      dsimp only
      intro same
      obtain ⟨granted, unchanged⟩ := Prod.mk.inj same
      cases came : (a.order form).answer b.network with
      | error failure =>
        rw [came] at granted
        cases granted
      | ok response =>
        exact (a.order form).after_ne_of_answer b.network came (congrArg Session.network unchanged)

/-- Asking for a token takes one exchange if it is due, and what it brings is held. -/
lemma exists_renews (b : Session) :
    ∃ renewal, a.Renews b.clock b.token renewal ∧
      Http.Carries b.network renewal.toList ((account a).token.runOn b).2.network ∧
      ((account a).token.runOn b).2.clock = b.clock ∧
      ((account a).token.runOn b).1 = a.tokenFrom b.clock b.token renewal ∧
      ((account a).token.runOn b).2.token = (a.grant? b.clock renewal).or b.token := by
  rw [runOn_token]
  unfold Account.Source.tokenFrom
  cases reusable : Token.reusable? b.clock b.token with
  | some t =>
    exact ⟨none, ⟨by simp [reusable], by simp⟩, .nil _, rfl, rfl, rfl⟩
  | none =>
    cases form : a.form? b.clock with
    | none => exact ⟨none, ⟨by simp [form], by simp⟩, .nil _, rfl, rfl, rfl⟩
    | some form' =>
      refine ⟨some ((a.order form').exchange b.network), ⟨by simp [reusable, form], ?_⟩, .single _ _, rfl, rfl,
        rfl⟩
      intro e member
      obtain rfl := Option.some.inj member
      exact ⟨form', form, rfl⟩

/-- A token takes some exchanges, if any. -/
lemma exists_carries_token (b : Session) :
    ∃ es, Http.Carries b.network es ((account a).token.runOn b).2.network := by
  obtain ⟨renewal, -, carries, -⟩ := exists_renews a b
  exact ⟨_, carries⟩

/-- Some tokens cannot be written in a header. -/
lemma exists_bearer {t : Token} :
    (∃ headers, bearer t = .ok headers) ↔ t.headerValue?.isSome = true := by
  unfold bearer
  cases t.headerValue? <;> simp

/-- Headers are made of the token had. -/
lemma runOn_headers (c : Credentials) (b : Session) :
    c.headers.runOn b = ((c.token.runOn b).1.bind bearer, (c.token.runOn b).2) := by
  unfold headers
  rw [Attempt.runOn_bind]
  rcases c.token.runOn b with ⟨e | t, b'⟩
  · rfl
  · exact Attempt.runOn_ofExcept _ _

/-- Headers take one exchange or none, whatever the credentials are, and no document is sent for them. -/
lemma exists_carries_headers (c : Credentials) (b : Session) :
    ∃ renewal : Option Http.Exchange, Http.Carries b.network renewal.toList (c.headers.runOn b).2.network ∧
      ∀ e ∈ renewal, ∀ text, e.order.body ≠ some (.json text) := by
  rw [runOn_headers]
  cases c with
  | static => exact ⟨none, .nil _, by simp⟩
  | failing transient => exact ⟨none, .nil _, by simp⟩
  | account a =>
    obtain ⟨renewal, renews, carries, -⟩ := exists_renews a b
    refine ⟨renewal, carries, fun e member text => ?_⟩
    obtain ⟨form, made, order⟩ := renews.order e member
    rw [order]
    exact a.body_order_ne made text

/-- No token is had only if none is held that may be handed out again, and fetching one fails. -/
lemma runOn_token_eq_error_iff {b b' : Session} {e : Token.Error} :
    (account a).token.runOn b = (.error e, b') ↔
      (b.token = none ∨ ∃ t, b.token = some t ∧
        t.expiresWithin Token.refreshMargin b.clock = true) ∧ a.fetch.runOn b = (.error e, b') := by
  rw [← Token.reusable?_eq_none]
  unfold token
  dsimp only
  rw [Attempt.runOn_cached]
  cases Token.reusable? b.clock b.token with
  | some t => simp
  | none => rcases a.fetch.runOn b with ⟨e' | t, b''⟩ <;> simp

/-- There are no headers only if there is no token, or one that no header can carry. -/
lemma runOn_headers_eq_error_iff (c : Credentials) {b b' : Session} {e : Token.Error} :
    c.headers.runOn b = (.error e, b') ↔ c.token.runOn b = (.error e, b') ∨
      ∃ t, c.token.runOn b = (.ok t, b') ∧ t.headerValue? = none ∧ e = ⟨false, .header⟩ := by
  rw [runOn_headers]
  rcases c.token.runOn b with ⟨e' | t, b''⟩
  · simp [Except.bind]
  · unfold bearer
    cases value : t.headerValue? with
    | none => simp [Except.bind, value, and_comm, eq_comm]
    | some value => simp [Except.bind, value]

/-- Where the key signs and the token that was last asked for is held, headers take one exchange if
that token is due, and otherwise none.  They are made of the token that was asked for last then, and it
is held. -/
lemma exists_renewal {b : Session} {t : Token} {form : Http.Body} {asked : List Http.Exchange}
    (signs : a.form? b.clock = some form) (last : a.lastToken? b.clock asked = some t)
    (held : b.token = some t) :
    ∃ renewal : Option Http.Exchange,
      Http.Carries b.network renewal.toList ((account a).headers.runOn b).2.network ∧
      ((account a).headers.runOn b).2.clock = b.clock ∧
      (∀ e ∈ renewal, e.order = a.order form) ∧
      (renewal.isSome = true ↔ t.expiresWithin Token.refreshMargin b.clock = true) ∧
      (∀ headers, ((account a).headers.runOn b).1 = .ok headers ↔
        ∃ t', a.lastToken? b.clock (asked ++ renewal.toList) = some t' ∧ bearer t' = .ok headers) ∧
      ∀ t', a.lastToken? b.clock (asked ++ renewal.toList) = some t' →
        ((account a).headers.runOn b).2.token = some t' := by
  obtain ⟨renewal, renews, carries, clock, had, holds⟩ := exists_renews a b
  have due : renewal.isSome = true ↔ t.expiresWithin Token.refreshMargin b.clock = true := by
    rw [renews.due, Token.reusable?_eq_none, held, signs]
    simp
  -- What asking comes to is what the last request for a token brought.
  have latest : a.lastToken? b.clock (asked ++ renewal.toList) =
      (a.tokenFrom b.clock b.token renewal).toOption := by
    unfold Account.Source.tokenFrom
    cases renewal with
    | none =>
      have lives : t.expiresWithin Token.refreshMargin b.clock = false := by
        simpa using due
      rw [Token.reusable?_eq_some.mpr ⟨held, lives⟩, Option.toList_none, List.append_nil, last]
      rfl
    | some e =>
      rw [(renews.due.mp rfl).1, Option.toList_some, a.lastToken?_concat]
  rw [runOn_headers, had]
  refine ⟨renewal, carries, clock, ?order, due, ?headers, ?held⟩
  case order =>
    intro e member
    obtain ⟨form', signs', order⟩ := renews.order e member
    obtain rfl := Option.some.inj (signs.symm.trans signs')
    exact order
  case headers =>
    intro headers
    rw [latest]
    cases a.tokenFrom b.clock b.token renewal <;> simp [Except.bind, Except.toOption]
  case held =>
    intro t' h
    rw [latest] at h
    cases outcome : a.tokenFrom b.clock b.token renewal with
    | error e =>
      rw [outcome] at h
      cases h
    | ok t'' =>
      rw [outcome] at h
      obtain rfl : t'' = t' := Option.some.inj h
      exact holds.trans (renews.of_tokenFrom outcome).1

end Credentials

end WorkspaceSchema
