import WorkspaceSchema.Proofs.Account
import WorkspaceSchema.Proofs.Directory.Client

/-!
# Sessions that differ in their secrets

Two sessions are compared here that nobody can tell apart who does not know the secrets in them: the
texts of tokens, what authorizes requests, and the signatures of assertions (`Session.Alike`).  Accounts
and scripts of replies may differ in secrets too.

Asking for a token, and asking the directory, lead from such sessions to such sessions again.  Tokens may
differ then, but only where the replies do, and only in their texts (`runOn_token_alike`).  What the
directory is asked comes to the very same, as long as no reply to it differs (`runOn_execute_alike`).
-/

namespace WorkspaceSchema

/-- Two results that agree: in the error, or up to a relation between what was had. -/
inductive ResultsAlike {ε α : Type} (r : α → α → Prop) : Except ε α → Except ε α → Prop
  | ok {a a' : α} (alike : r a a') : ResultsAlike r (.ok a) (.ok a')
  | error (e : ε) : ResultsAlike r (.error e) (.error e)

lemma ResultsAlike.refl {ε α : Type} {r : α → α → Prop} (same : ∀ a, r a a) (x : Except ε α) :
    ResultsAlike r x x := by
  cases x with
  | error e => exact .error e
  | ok a => exact .ok (same a)

/-- Headers that differ at most in what authorizes a request. -/
def Http.Headers.Alike (headers headers' : Http.Headers) : Prop :=
  headers.censored = headers'.censored

namespace Token

/-! ### Tokens -/

/-- Whether a header can hold a text. -/
def IsLegal (text : String) : Prop :=
  text.toList.all isHeaderChar = true

/-- Tokens that differ at most in their texts, and then in texts that a header can hold. -/
structure Alike (t t' : Token) : Prop where
  tokenType : t.tokenType = t'.tokenType
  expiresAt : t.expiresAt = t'.expiresAt
  text : t.text = t'.text ∨ IsLegal t.text ∧ IsLegal t'.text

/-- Two bodies that grant a request in the same way, with tokens whose texts may differ. -/
def GrantsAlike (body body' : List UInt8) : Prop :=
  ∃ g g', Grant.parse body = .ok g ∧ Grant.parse body' = .ok g' ∧ g.expiresIn = g'.expiresIn ∧
    g.tokenType = g'.tokenType ∧ IsLegal g.accessToken ∧ IsLegal g'.accessToken

lemma Alike.refl (t : Token) : t.Alike t :=
  ⟨rfl, rfl, .inl rfl⟩

variable {t t' : Token}

/-- The text of a token is not in what is said about it. -/
lemma Alike.describe (alike : t.Alike t') : t.describe = t'.describe := by
  unfold Token.describe
  rw [alike.tokenType, alike.expiresAt]

/-- It has nothing to do with how long the token lives. -/
lemma Alike.expiresWithin (alike : t.Alike t') (seconds : Nat) (now : Clock) :
    t.expiresWithin seconds now = t'.expiresWithin seconds now := by
  unfold Token.expiresWithin
  rw [alike.expiresAt]

/-- A header can hold both tokens or none of them, and says the same but for them. -/
lemma Alike.bearer (alike : t.Alike t') :
    ResultsAlike Http.Headers.Alike (Credentials.bearer t) (Credentials.bearer t') := by
  unfold Credentials.bearer headerValue?
  rcases alike.text with same | ⟨legal, legal'⟩
  · rw [alike.tokenType, same]
    exact .refl (fun headers => (rfl : headers.censored = headers.censored)) _
  · dsimp only
    unfold IsLegal at legal legal'
    simp only [String.toList_append, List.all_append, legal, legal', alike.tokenType]
    cases t'.tokenType.toList.all isHeaderChar && " ".toList.all isHeaderChar && true with
    | false => exact .error _
    | true => exact .ok rfl

/-- Tokens that are held may be handed out again alike. -/
lemma reusable?_alike {held held' : Option Token} (alike : Option.Rel Alike held held') (now : Clock) :
    Option.Rel Alike (reusable? now held) (reusable? now held') := by
  cases alike with
  | none => exact .none
  | some alike =>
    unfold reusable?
    rw [Option.filter_some, Option.filter_some, alike.expiresWithin]
    split
    · exact .some alike
    · exact .none

/-- Bodies that grant a request in the same way give tokens that are alike, or none. -/
lemma granted_alike {body body' : List UInt8} (alike : GrantsAlike body body') (url : Url) (status : Nat)
    (headers : Http.Headers) (now : Clock) :
    ResultsAlike Alike (granted ⟨url, status, headers, .ok body⟩ now)
      (granted ⟨url, status, headers, .ok body'⟩ now) := by
  obtain ⟨g, g', parsed, parsed', expiresIn, tokenType, legal, legal'⟩ := alike
  unfold granted Http.Response.bytes
  dsimp only
  rw [parsed, parsed']
  dsimp only
  unfold ofGrant?
  rw [← expiresIn]
  cases g.expiresIn with
  | none => exact .ok ⟨tokenType, rfl, .inr ⟨legal, legal'⟩⟩
  | some seconds =>
    dsimp only
    cases now.after? seconds with
    | none => exact .error _
    | some expiry => exact .ok ⟨tokenType, rfl, .inr ⟨legal, legal'⟩⟩

end Token

/-! ### Sessions -/

/-- Sessions that differ in secrets alone, and in replies that may differ. -/
structure Session.Alike (swaps : Nat → List UInt8 → List UInt8 → Prop) (b b' : Session) : Prop where
  clock : b.clock = b'.clock
  network : b.network.censored.Alike swaps b'.network.censored
  token : Option.Rel Token.Alike b.token b'.token
  log : b.log = b'.log

section Sessions

variable {swaps : Nat → List UInt8 → List UInt8 → Prop} {b b' : Session} {a a' : Account.Source}

lemma Session.Alike.told (alike : b.Alike swaps b') (e : LogEvent) :
    (b.told e).Alike swaps (b'.told e) :=
  ⟨alike.clock, alike.network, alike.token, congrArg (· ++ [e]) alike.log⟩

/-- What is said about the tokens held is the same. -/
lemma Session.Alike.describe_token (alike : b.Alike swaps b') :
    b.token.map Token.describe = b'.token.map Token.describe := by
  have tokens := alike.token
  generalize b.token = held at tokens ⊢
  generalize b'.token = held' at tokens ⊢
  cases tokens with
  | none => rfl
  | some alike => exact congrArg some alike.describe

/-- What went over the wire is the same but for the secrets. -/
lemma Session.Alike.sent (alike : b.Alike swaps b') :
    b.network.sent.map Http.Sent.censored = b'.network.sent.map Http.Sent.censored :=
  alike.network.sent

namespace Credentials

/-- Asking for a token brings tokens that are alike, or the same error, and leaves sessions that are
alike: if both keys sign or none of them, and replies differ only in the tokens that they grant. -/
lemma runOn_token_alike (accounts : a.Alike a') (alike : b.Alike swaps b')
    (signs : (a.form? b.clock).isSome = (a'.form? b.clock).isSome)
    (grants : ∀ left body body', swaps left body body' → Token.GrantsAlike body body') :
    ResultsAlike Token.Alike ((account a).token.runOn b).1 ((account a').token.runOn b').1 ∧
      ((account a).token.runOn b).2.Alike swaps ((account a').token.runOn b').2 := by
  rw [runOn_token, runOn_token, ← alike.clock]
  have reusable := Token.reusable?_alike alike.token b.clock
  generalize Token.reusable? b.clock b.token = held at reusable ⊢
  generalize Token.reusable? b.clock b'.token = held' at reusable ⊢
  cases reusable with
  | some tokens => exact ⟨.ok tokens, alike⟩
  | none =>
    dsimp only
    cases made : a.form? b.clock with
    | none =>
      cases made' : a'.form? b.clock with
      | none => exact ⟨.error _, alike⟩
      | some form' => rw [made, made'] at signs; cases signs
    | some form =>
      cases made' : a'.form? b.clock with
      | none => rw [made, made'] at signs; cases signs
      | some form' =>
        dsimp only
        have orders : (a.order form).Alike (a'.order form') :=
          ⟨rfl, rfl, accounts.tokenUri, rfl, congrArg some (accounts.form made made')⟩
        obtain ⟨networks, answers⟩ := orders.exchange alike.network
        have results : ResultsAlike Token.Alike
            (a.granted b.clock ((a.order form).answer b.network))
            (a'.granted b.clock ((a'.order form').answer b'.network)) := by
          unfold Account.Source.granted
          -- The same answer, or two responses that both grant the request.
          rcases answers with same | ⟨-, url, status, headers, body, body', first, second, success, swap⟩
          · rw [same, accounts.tokenUri]
            exact .refl .refl _
          · rw [first, second]
            have succeeds (body : List UInt8) :
                Http.Response.isSuccess ⟨url, status, headers, .ok body⟩ = true := by
              simpa [Http.Response.isSuccess] using success
            dsimp only
            unfold Token.ofResponse
            rw [if_pos (succeeds body), if_pos (succeeds body')]
            exact Token.granted_alike (grants _ _ _ swap) url status headers b.clock
        refine ⟨results, rfl, networks, ?_, alike.log⟩
        generalize a.granted b.clock _ = result at results ⊢
        generalize a'.granted b.clock _ = result' at results ⊢
        cases results with
        | ok tokens => exact .some tokens
        | error e => exact alike.token

/-- Asking for a token does not change the clock. -/
lemma runOn_token_clock (a : Account.Source) (b : Session) :
    ((account a).token.runOn b).2.clock = b.clock := by
  rw [runOn_token]
  cases Token.reusable? b.clock b.token with
  | some t => rfl
  | none => cases a.form? b.clock <;> rfl

/-- Headers differ where tokens do. -/
lemma runOn_headers_alike
    (tokens : ResultsAlike Token.Alike ((account a).token.runOn b).1 ((account a').token.runOn b').1) :
    ResultsAlike Http.Headers.Alike ((account a).headers.runOn b).1
      ((account a').headers.runOn b').1 := by
  rw [runOn_headers, runOn_headers]
  dsimp only
  generalize ((account a).token.runOn b).1 = had at tokens ⊢
  generalize ((account a').token.runOn b').1 = had' at tokens ⊢
  cases tokens with
  | error e => exact .error e
  | ok alike => exact alike.bearer

end Credentials

namespace Directory.Client

/-- Asking the directory comes to the same, and leaves sessions that are alike, if no reply to the
request itself differs. -/
lemma runOn_execute_alike {α : Type} {c c' : Client} (holds : c.credentials = .account a)
    (holds' : c'.credentials = .account a') (transport : c.transport = c'.transport)
    (accounts : a.Alike a') (alike : b.Alike swaps b')
    (signs : (a.form? b.clock).isSome = (a'.form? b.clock).isSome)
    (grants : ∀ left body body', swaps left body body' → Token.GrantsAlike body body')
    (method : Http.Method) (url : String) (body : Option Http.Body)
    (read : List UInt8 → Except Json.Error α)
    (closed : ∀ left body₁ body₂,
      ((c.execute method url body read).runOn b).2.network.replies.length ≤ left →
      left < ((Credentials.account a).token.runOn b).2.network.replies.length →
      ¬swaps left body₁ body₂) :
    ((c.execute method url body read).runOn b).1 = ((c'.execute method url body read).runOn b').1 ∧
      ((c.execute method url body read).runOn b).2.Alike swaps
        ((c'.execute method url body read).runOn b').2 := by
  obtain ⟨tokens, sessions⟩ := Credentials.runOn_token_alike accounts alike signs grants
  have headers := Credentials.runOn_headers_alike tokens
  rw [runOn_execute, holds] at closed ⊢
  rw [runOn_execute, holds']
  rw [Credentials.runOn_headers] at closed headers ⊢
  rw [Credentials.runOn_headers] at headers ⊢
  dsimp only at closed headers ⊢
  generalize ((Credentials.account a).token.runOn b).1.bind Credentials.bearer = given at closed headers ⊢
  generalize ((Credentials.account a').token.runOn b').1.bind Credentials.bearer = given' at headers ⊢
  cases headers with
  | error e => exact ⟨rfl, sessions⟩
  | @ok headers headers' same =>
    dsimp only at closed ⊢
    have orders : (c.order method url body headers).Alike (c'.order method url body headers') :=
      ⟨transport, rfl, rfl, same, rfl⟩
    obtain ⟨networks, equal | ⟨taken, _, _, _, _, _, -, -, -, swap⟩⟩ := orders.exchange sessions.network
    · rw [← equal]
      exact ⟨rfl, sessions.clock, networks, sessions.token, congrArg (· ++ _) sessions.log⟩
    · exact absurd swap (closed _ _ _ (Nat.le_refl _) taken)

/-- Asking the directory does not change the clock. -/
lemma runOn_execute_clock {α : Type} {c : Client} (holds : c.credentials = .account a)
    (method : Http.Method) (url : String) (body : Option Http.Body)
    (read : List UInt8 → Except Json.Error α) :
    ((c.execute method url body read).runOn b).2.clock = b.clock := by
  rw [runOn_execute, holds, Credentials.runOn_headers, ← Credentials.runOn_token_clock a b]
  cases ((Credentials.account a).token.runOn b).1.bind Credentials.bearer <;> rfl

end Directory.Client

end Sessions

end WorkspaceSchema
