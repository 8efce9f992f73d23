import WorkspaceSchema.Proofs.Json.Meaning
import WorkspaceSchema.Proofs.Token.Refusal

/-!
# When tokens expire

A token endpoint says for how many seconds a token lives, or says nothing about it.  Two additions to the
steady clock follow from it, at different times: one when the token is granted, and one whenever it is to be
handed out again.  Neither may leave the clock: a token that would expire after the last reading is not taken
at all, and a token is not handed out again in the last seconds of the clock.

`Grant.parse_of_written` reads the grant off its document, whatever else the document holds.  From there on it
is arithmetic (`expiry_of_grant`).
-/

namespace WorkspaceSchema.Token

open Json (Written values)

/-! ### Grants -/

/-- The seconds for which a token lives, as the members of a grant state them. -/
inductive StatesLifetime (ms : List (String × Written)) : Option Nat → Prop where
  | absent (missing : values "expires_in" ms = []) : StatesLifetime ms none
  | null (one : values "expires_in" ms = [.null]) : StatesLifetime ms none
  | seconds {d : Nat} (one : values "expires_in" ms = [.number false d []])
    (fits : (d : Int) ≤ Json.word64High) : StatesLifetime ms (some d)

section Grants

variable {ms : List (String × Written)} {bytes : List UInt8} {text tokenType : String} {lifetime : Option Nat}

/-- A number without a sign that fits 64 bits is read as it is. -/
lemma meaning?_word64 {d : Nat} (fits : (d : Int) ≤ Json.word64High) :
    Json.Shape.word64.meaning? (.number false d []) = some d := by
  have inside : d < Json.significandLimit := by
    unfold Json.word64High at fits
    unfold Json.significandLimit
    omega
  have range : (0 ≤ (d : Int) && (d : Int) ≤ Json.word64High : Bool) = true := by simp [fits]
  rw [Json.Shape.meaning?, Written.within?, Written.integer?, if_pos inside, Option.bind_some, if_pos range]
  rfl

/-- What a grant says about its lifetime is read from its document. -/
lemma StatesLifetime.meaning?_eq (states : StatesLifetime ms lifetime) :
    Json.only? (Json.Presence.omittable.absent? Json.Shape.word64.initial)
      (fun t => t.slot? (Json.Shape.word64.meaning? ·) .omittable) (values "expires_in" ms) =
        some lifetime := by
  cases states with
  | absent missing => rw [missing]; rfl
  | null one => rw [one]; rfl
  | seconds one fits =>
    rw [one]
    exact congrArg (Option.map some) (meaning?_word64 fits)

/-- A grant is read from any text of its document. -/
lemma Grant.parse_of_written (writes : (Written.object ms).Writes bytes)
    (access : values "access_token" ms = [.text text]) (kind : values "token_type" ms = [.text tokenType])
    (states : StatesLifetime ms lifetime) : Grant.parse bytes = .ok ⟨text, lifetime, tokenType⟩ := by
  have read : (Grant.shape.parse bytes).toOption = some (text, lifetime, tokenType, ()) := by
    rw [Json.Shape.toOption_parse rfl (by decide) writes]
    unfold Grant.shape
    rw [Json.Shape.meaning?]
    simp only [Json.Fields.gathered?, access, kind, states.meaning?_eq]
    rfl
  unfold Grant.parse
  cases parsed : Grant.shape.parse bytes with
  | error e => rw [parsed] at read; cases read
  | ok v =>
    rw [parsed] at read
    cases read
    rfl

end Grants

/-! ### Tokens -/

/-- The steady clock has a reading after some seconds unless it ends before. -/
lemma after?_eq_some_iff {now : Clock} {seconds : Nat} {later : Int} :
    now.after? seconds = some later ↔
      now.steady + seconds ≤ Clock.latest ∧ now.steady + seconds = later := by
  unfold Clock.after?
  simp

section Tokens

variable {a : Account.Source} {b : Session} {response : Http.Response} {grant : Grant}
  {bytes : List UInt8} {now : Clock} {t : Token}

/-- A grant that can be read gives its token, unless the token lives longer than can be counted. -/
lemma granted_of_parsed (complete : response.body = .ok bytes) (parsed : Grant.parse bytes = .ok grant)
    (now : Clock) : granted response now =
      (ofGrant? grant now).elim (.error ⟨false, .expiry (grant.expiresIn.getD 0)⟩) .ok := by
  unfold granted
  rw [response.bytes_of_complete complete]
  dsimp only
  rw [parsed]
  dsimp only
  cases ofGrant? grant now <;> rfl

/-- A response that grants something is asked for its grant. -/
lemma granted_of_answer {form : Http.Body} {result : Except Error Token}
    (came : (a.order form).answer b.network = .ok response) (grants : response.isSuccess = true)
    (is : granted response b.clock = result) :
    a.granted b.clock ((a.order form).answer b.network) = result := by
  rw [came]
  unfold Account.Source.granted ofResponse
  dsimp only
  rw [grants]
  exact is

/-- There is a token if one is due and what comes back for it is one, and it is held from now on. -/
lemma runOn_token_of_given {form : Http.Body} (due : reusable? b.clock b.token = none)
    (signs : a.form? b.clock = some form)
    (given : a.granted b.clock ((a.order form).answer b.network) = .ok t) :
    (Credentials.account a).token.runOn b =
      (.ok t, { b with network := (a.order form).after b.network, token := some t }) := by
  rw [Credentials.runOn_token, due]
  dsimp only
  rw [signs]
  dsimp only
  rw [given]
  rfl

/-- The expiry of a token that lives for some seconds is counted from now on. -/
lemma ofGrant?_of_counted {text tokenType : String} {d : Nat} (counted : now.steady + d ≤ Clock.latest) :
    ofGrant? ⟨text, some d, tokenType⟩ now = some ⟨text, tokenType, some (now.steady + d)⟩ := by
  have expiry : now.after? d = some (now.steady + d) := after?_eq_some_iff.mpr ⟨counted, rfl⟩
  unfold ofGrant?
  dsimp only
  rw [expiry]
  rfl

/-- A grant gives no token if its expiry cannot be counted. -/
lemma ofGrant?_of_beyond {text tokenType : String} {d : Nat} (beyond : Clock.latest < now.steady + d) :
    ofGrant? ⟨text, some d, tokenType⟩ now = none := by
  unfold ofGrant?
  dsimp only
  rw [Option.map_eq_none_iff, Option.eq_none_iff_forall_ne_some]
  intro later counted
  have fits := (after?_eq_some_iff.mp counted).1
  omega

/-- No token expires before it was granted. -/
lemma le_expiresAt_of_ofGrant? (given : ofGrant? grant now = some t) {expiry : Int}
    (expires : t.expiresAt = some expiry) : now.steady ≤ expiry := by
  unfold ofGrant? at given
  split at given
  · cases given
    cases expires
  · obtain ⟨later, counted, rfl⟩ := Option.map_eq_some_iff.mp given
    obtain ⟨-, rfl⟩ := after?_eq_some_iff.mp counted
    obtain rfl := Option.some.inj expires
    exact Int.le_add_of_nonneg_right (Int.natCast_nonneg _)

/-- A token that was granted came from a grant. -/
lemma exists_grant_of_granted {answer : Except Http.Failure Http.Response}
    (came : a.granted now answer = .ok t) : ∃ grant, ofGrant? grant now = some t := by
  obtain ⟨response, rfl⟩ : ∃ response, answer = .ok response := by
    cases answer with
    | error failure => cases came
    | ok response => exact ⟨response, rfl⟩
  change ofResponse a.tokenUri response now = .ok t at came
  unfold ofResponse granted at came
  split at came
  case isFalse => cases came
  case isTrue =>
    split at came
    · cases came
    · split at came
      · cases came
      · split at came
        · cases came
          exact ⟨_, ‹_›⟩
        · cases came

/-- What is held after asking was held before, or expires no earlier than now. -/
lemma held_or_le_expiresAt (a : Account.Source) (b : Session) {t : Token} {expiry : Int}
    (held : ((Credentials.account a).token.runOn b).2.token = some t) (expires : t.expiresAt = some expiry) :
    b.token = some t ∨ b.clock.steady ≤ expiry := by
  rw [Credentials.runOn_token] at held
  cases reusable : reusable? b.clock b.token with
  | some t' =>
    rw [reusable] at held
    exact .inl held
  | none =>
    rw [reusable] at held
    dsimp only at held
    cases signs : a.form? b.clock with
    | none =>
      rw [signs] at held
      exact .inl held
    | some form =>
      rw [signs] at held
      dsimp only at held
      cases came : a.granted b.clock ((a.order form).answer b.network) with
      | error e =>
        rw [came] at held
        exact .inl held
      | ok t' =>
        rw [came] at held
        obtain rfl := Option.some.inj held
        obtain ⟨grant, given⟩ := exists_grant_of_granted came
        exact .inr (le_expiresAt_of_ofGrant? given expires)

/-- That asking again, at some reading of the clocks, gives a token that is held, and nothing is asked of
anybody. -/
def Reuses (a : Account.Source) (b : Session) (now : Clock) (t : Token) : Prop :=
  (Credentials.account a).token.runOn { b with clock := now } = (.ok t, { b with clock := now })

/-- A token that is held is had again as long as it lives on after ten seconds that the clock can count. -/
lemma reuses_iff (held : b.token = some t) :
    Reuses a b now t ↔ t.expiresAt = none ∨ ∃ expiry, t.expiresAt = some expiry ∧
      now.steady + 10 ≤ Clock.latest ∧ now.steady + 10 < expiry := by
  unfold Reuses
  rw [Credentials.runOn_token_eq_self_iff, reusable?_eq_some, expiresWithin_eq_false_iff]
  exact and_iff_right held

end Tokens

/-- An account that asks a token endpoint, and gets a grant in full, whatever else stands in it.  Without a
lifetime the token is had, and had again at any time.  With a lifetime that the clock can count, it expires just
when the lifetime is over, and it is had again at the readings more than ten seconds before that, of those that
lie more than ten seconds before the end of the clock.  With any other lifetime there is no token, now and later,
and the one held before is still held.  In no case does a token come to be held that expires before it was
granted. -/
theorem expiry_of_grant {a : Account.Source} {b : Session} {form : Http.Body} {response : Http.Response}
    {bytes : List UInt8} {ms : List (String × Written)} {text tokenType : String}
    (due : reusable? b.clock b.token = none) (signs : a.form? b.clock = some form)
    (came : (a.order form).answer b.network = .ok response) (grants : response.isSuccess = true)
    (complete : response.body = .ok bytes) (writes : (Written.object ms).Writes bytes)
    (access : values "access_token" ms = [.text text]) (kind : values "token_type" ms = [.text tokenType]) :
    let outcome := ((Credentials.account a).token.runOn b).1
    let after := ((Credentials.account a).token.runOn b).2
    (StatesLifetime ms none → outcome = .ok ⟨text, tokenType, none⟩ ∧
      after.token = some ⟨text, tokenType, none⟩ ∧ ∀ now, Reuses a after now ⟨text, tokenType, none⟩) ∧
    (∀ d, StatesLifetime ms (some d) → b.clock.steady + d ≤ Clock.latest →
      outcome = .ok ⟨text, tokenType, some (b.clock.steady + d)⟩ ∧
      after.token = some ⟨text, tokenType, some (b.clock.steady + d)⟩ ∧
      ∀ now, Reuses a after now ⟨text, tokenType, some (b.clock.steady + d)⟩ ↔
        now.steady + 10 ≤ Clock.latest ∧ now.steady + 10 < b.clock.steady + d) ∧
    (∀ d, StatesLifetime ms (some d) → Clock.latest < b.clock.steady + d →
      ∃ e, outcome = .error e ∧ e.transient = false ∧ Denied a b e ∧ after.token = b.token) ∧
    (∀ t expiry, after.token = some t → t.expiresAt = some expiry → expiry < b.clock.steady →
      b.token = some t) := by
  intro outcome after
  have parsed {lifetime : Option Nat} (states : StatesLifetime ms lifetime) :
      Grant.parse bytes = .ok ⟨text, lifetime, tokenType⟩ := Grant.parse_of_written writes access kind states
  have had {lifetime : Option Nat} {t : Token} (states : StatesLifetime ms lifetime)
      (given : ofGrant? ⟨text, lifetime, tokenType⟩ b.clock = some t) :
      outcome = .ok t ∧ after.token = some t := by
    have result := granted_of_parsed complete (parsed states) b.clock
    rw [given] at result
    have run := runOn_token_of_given due signs (granted_of_answer came grants result)
    exact ⟨congrArg Prod.fst run, congrArg (fun r => r.2.token) run⟩
  refine ⟨fun states => ?_, fun d states counted => ?_, fun d states beyond => ?_, ?_⟩
  · obtain ⟨result, held⟩ := had states rfl
    exact ⟨result, held, fun now => (reuses_iff held).mpr (.inl rfl)⟩
  · obtain ⟨result, held⟩ := had states (ofGrant?_of_counted counted)
    refine ⟨result, held, fun now => (reuses_iff held).trans ⟨?_, fun lives => .inr ⟨_, rfl, lives⟩⟩⟩
    rintro (never | ⟨expiry, expires, lives⟩)
    · cases never
    · obtain rfl := Option.some.inj expires
      exact lives
  · have none : ofGrant? ⟨text, some d, tokenType⟩ b.clock = none := ofGrant?_of_beyond beyond
    have result := granted_of_parsed complete (parsed states) b.clock
    rw [none] at result
    have fails := granted_of_answer came grants result
    have run := runOn_token_of_granted due signs fails
    exact ⟨_, congrArg Prod.fst run, rfl, denied_of_granted due signs fails,
      congrArg (fun r => r.2.token) run⟩
  · intro t expiry held expires early
    rcases held_or_le_expiresAt a b held expires with same | late
    · exact same
    · omega

/-- A token that is granted for a minute is had again for fifty seconds. -/
theorem expiry_of_sample_grant :
    let a := Run.sampleSource (Run.sampleRsaKey 7 5 6 5)
    let body := "\x7b\"access_token\":\"t\",\"token_type\":\"b\",\"expires_in\":60\x7d"
    let b := sampleStart 200 body
    let ms : List (String × Written) :=
      [("access_token", .text "t"), ("token_type", .text "b"), ("expires_in", .number false 60 [])]
    reusable? b.clock b.token = none ∧
      (∃ form response, a.form? b.clock = some form ∧ (a.order form).answer b.network = .ok response ∧
        response.isSuccess = true ∧ response.body = .ok (Utf8.ofString body)) ∧
      (Written.object ms).Writes (Utf8.ofString body) ∧
      values "access_token" ms = [.text "t"] ∧ values "token_type" ms = [.text "b"] ∧
      StatesLifetime ms (some 60) ∧
      ((Credentials.account a).token.runOn b).2.token = some ⟨"t", "b", some 60⟩ ∧
      Reuses a ((Credentials.account a).token.runOn b).2 ⟨0, 49⟩ ⟨"t", "b", some 60⟩ ∧
      ¬Reuses a ((Credentials.account a).token.runOn b).2 ⟨0, 50⟩ ⟨"t", "b", some 60⟩ := by
  obtain ⟨form, signs⟩ := Run.isUsable_samples.1.exists_form
  generalize Run.sampleRsaKey 7 5 6 5 = k at *
  intro a body b ms
  have came := answer_sample k form 200 body
  have due : reusable? b.clock b.token = none := rfl
  have token : (Written.text "t").Spelled _ := ⟨_, .plain rfl, .self _⟩
  have kind : (Written.text "b").Spelled _ := ⟨_, .plain rfl, .self _⟩
  have number : (Written.number false 60 []).Spelled [0x36, 0x30] := by
    refine ⟨⟨[], [], .inl rfl, .inl rfl, rfl⟩, ?_⟩
    rw [show Json.digits 60 = [0x36, 0x30] by decide]
    exact .self _
  have access_token : Json.SpellsText "access_token".toList _ := .plain rfl
  have token_type : Json.SpellsText "token_type".toList _ := .plain rfl
  have expires_in : Json.SpellsText "expires_in".toList _ := .plain rfl
  have writes : (Written.object ms).Writes (Utf8.ofString body) :=
    ⟨_, [], ⟨_, ⟨_, _, _, _, _, access_token, token, ⟨_, _, _, _, _, token_type, kind,
      ⟨_, _, _, _, _, expires_in, number, .self _, .self _, .self _, .self _⟩, .self _, .self _, .self _⟩,
      .self _, .self _, rfl⟩, .self _⟩, List.forall_mem_nil _, by decide⟩
  have states : StatesLifetime ms (some 60) := .seconds rfl (by decide)
  obtain ⟨-, counted, -⟩ := expiry_of_grant due signs came rfl rfl writes rfl rfl
  obtain ⟨-, held, again⟩ := counted 60 states (by decide)
  have minute : b.clock.steady + (60 : Nat) = 60 := rfl
  rw [minute] at held again
  exact ⟨due, ⟨form, _, signs, came, rfl, rfl⟩, writes, rfl, rfl, states, held, (again _).mpr (by decide),
    fun late => absurd ((again _).mp late) (by decide)⟩

end WorkspaceSchema.Token
