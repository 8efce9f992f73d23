import WorkspaceSchema.Proofs.Run.Result
import WorkspaceSchema.Proofs.Secrecy

/-!
# The secrets of a run

A run has two kinds of secrets, the private key of its account and the tokens that it is granted.  Two
runs are compared here that differ in nothing else.  They go through the same stages, in sessions that
differ in the secrets alone (`Reaches.alike`), and come to the same.

Only a reply to a request for a token may grant a token, so only such replies may differ.  Which ones
they are is told from the run itself: `AnswersTokenRequest` counts the replies that are left before and
after a token is asked for at a stage.  None of them answers a request to the directory, since a run
takes the replies in their order.
-/

namespace WorkspaceSchema.Run

/-- Whether, in a run from a session on, the reply behind which `left` replies are left is taken while a
token is asked for. -/
def AnswersTokenRequest (s : Settings) (a : Account.Source) (b₀ : Session) (left : Nat) : Prop :=
  ∃ stage b, Reaches s a b₀ stage b ∧
    ((Credentials.account a).token.runOn b).2.network.replies.length ≤ left ∧
    left < b.network.replies.length

/-- Replies that may be exchanged: those to requests for a token, for others that grant the request in
the same way. -/
def TokensDiffer (s : Settings) (a : Account.Source) (b₀ : Session) (left : Nat)
    (body body' : List UInt8) : Prop :=
  AnswersTokenRequest s a b₀ left ∧ Token.GrantsAlike body body'

section Stages

variable {s : Settings} {a a' : Account.Source} {b₀ b₀' b : Session}

/-! ### The replies of a stage -/

/-- A run comes to a stage in one session only. -/
lemma Reaches.unique {stage : Stage} {b b' : Session} (reached : Reaches s a b₀ stage b)
    (reached' : Reaches s a b₀ stage b') : b = b' := by
  induction reached generalizing b' with
  | opening => cases reached'; rfl
  | listing obtained =>
    cases reached' with
    | listing obtained' =>
      rw [obtained] at obtained'
      rw [(Prod.mk.inj obtained').2]
  | insertion before listed lacks earnest ih =>
    cases reached' with
    | insertion before' listed' lacks' earnest' =>
      obtain rfl := ih before'
      rw [listed] at listed'
      obtain ⟨list, session⟩ := Prod.mk.inj listed'
      rw [Except.ok.inj list, session]

lemma replies_length_token_le (a : Account.Source) (b : Session) :
    ((Credentials.account a).token.runOn b).2.network.replies.length ≤ b.network.replies.length := by
  obtain ⟨es, carries⟩ := Credentials.exists_carries_token a b
  exact carries.replies.length_le

/-- The request for the list begins with a token. -/
lemma replies_length_listing_le (s : Settings) (a : Account.Source) (b : Session) :
    ((listing s a).runOn b).2.network.replies.length ≤
      ((Credentials.account a).token.runOn b).2.network.replies.length := by
  have execute : (listing s a).runOn b = _ :=
    Directory.Client.runOn_execute (client s a) .get (schemasUrl s) none SchemaList.parse b
  have holds : (client s a).credentials = .account a := rfl
  rw [execute, holds, Credentials.runOn_headers]
  cases ((Credentials.account a).token.runOn b).1.bind Credentials.bearer with
  | error e => exact Nat.le_refl _
  | ok headers => exact (Http.Order.exchange_passes _ _).replies.length_le

/-- The replies taken before a stage come before its own. -/
lemma Reaches.replies_length_le {b b' : Session} (first : Reaches s a b₀ .listing b)
    (second : Reaches s a b₀ .insertion b') :
    b'.network.replies.length ≤ ((Run.listing s a).runOn b).2.network.replies.length := by
  cases second with
  | insertion before listed lacks earnest =>
    rw [first.unique before, listed]
    exact Nat.le_refl _

lemma Reaches.replies_length_listing (first : Reaches s a b₀ .listing b) :
    b.network.replies.length = ((Credentials.account a).token.runOn b₀).2.network.replies.length := by
  cases first with
  | listing obtained => rw [obtained]; rfl

/-- A run that begins without a token asks for one first. -/
lemma answersTokenRequest_of_opening {form : Http.Body} (fresh : b₀.token = none)
    (signs : a.form? b₀.clock = some form) {left : Nat}
    (low : ((a.order form).after b₀.network).replies.length ≤ left)
    (high : left < b₀.network.replies.length) : AnswersTokenRequest s a b₀ left := by
  refine ⟨.opening, b₀, .opening, ?_, high⟩
  rw [Credentials.runOn_token, fresh, signs]
  exact low

/-- What answers the request for the list answers no request for a token. -/
lemma not_answersTokenRequest_of_listing (reached : Reaches s a b₀ .listing b) {left : Nat}
    (low : ((listing s a).runOn b).2.network.replies.length ≤ left)
    (high : left < ((Credentials.account a).token.runOn b).2.network.replies.length) :
    ¬AnswersTokenRequest s a b₀ left := by
  rintro ⟨stage, b', reached', low', high'⟩
  -- Tokens are asked for before this request, at the opening or with the request, or after it.
  cases stage with
  | opening =>
    cases reached'
    have := replies_length_token_le a b
    have := reached.replies_length_listing
    omega
  | listing =>
    obtain rfl := reached.unique reached'
    omega
  | insertion =>
    have := reached.replies_length_le reached'
    omega

/-- What answers the request for the insertion answers no request for a token. -/
lemma not_answersTokenRequest_of_insertion (reached : Reaches s a b₀ .insertion b) {left : Nat}
    (high : left < ((Credentials.account a).token.runOn b).2.network.replies.length) :
    ¬AnswersTokenRequest s a b₀ left := by
  obtain ⟨b₁, first⟩ : ∃ b₁, Reaches s a b₀ .listing b₁ := by
    cases reached with
    | insertion before listed lacks earnest => exact ⟨_, before⟩
  have later := first.replies_length_le reached
  have within := replies_length_token_le a b
  have within₁ := replies_length_listing_le s a b₁
  rintro ⟨stage, b', reached', low', high'⟩
  cases stage with
  | opening =>
    cases reached'
    have := replies_length_token_le a b₁
    have := first.replies_length_listing
    omega
  | listing =>
    obtain rfl := first.unique reached'
    omega
  | insertion =>
    obtain rfl := reached.unique reached'
    omega

/-! ### Two runs, stage by stage -/

/-- The clock stands still. -/
lemma Reaches.clock {stage : Stage} (reached : Reaches s a b₀ stage b) : b.clock = b₀.clock := by
  induction reached with
  | opening => rfl
  | listing obtained =>
    have same := Credentials.runOn_token_clock a b₀
    rw [obtained] at same
    exact same
  | @insertion l b b' before listed lacks earnest ih =>
    have same := Directory.Client.runOn_execute_clock (b := b) (c := client s a) rfl .get (schemasUrl s)
      none SchemaList.parse
    change ((Run.listing s a).runOn b).2.clock = b.clock at same
    rw [listed] at same
    exact same.trans ih

lemma grantsAlike_of_tokensDiffer (left : Nat) (body body' : List UInt8)
    (differ : TokensDiffer s a b₀ left body body') : Token.GrantsAlike body body' :=
  differ.2

/-- The list that is asked for comes to the same. -/
lemma listing_alike (accounts : a.Alike a') (signs : (a.form? b₀.clock).isSome = (a'.form? b₀.clock).isSome)
    (reached : Reaches s a b₀ .listing b) {b' : Session} (alike : b.Alike (TokensDiffer s a b₀) b') :
    ((listing s a).runOn b).1 = ((listing s a').runOn b').1 ∧
      ((listing s a).runOn b).2.Alike (TokensDiffer s a b₀) ((listing s a').runOn b').2 := by
  rw [← reached.clock] at signs
  have holds : (client s a).credentials = .account a := rfl
  have holds' : (client s a').credentials = .account a' := rfl
  have transport : (client s a).transport = (client s a').transport := rfl
  exact Directory.Client.runOn_execute_alike holds holds' transport accounts alike signs
    grantsAlike_of_tokensDiffer _ _ _ _
    fun left _ _ low high differ => not_answersTokenRequest_of_listing reached low high differ.1

/-- The insertion that is asked for comes to the same. -/
lemma insertion_alike (accounts : a.Alike a')
    (signs : (a.form? b₀.clock).isSome = (a'.form? b₀.clock).isSome)
    (reached : Reaches s a b₀ .insertion b) {b' : Session}
    (alike : b.Alike (TokensDiffer s a b₀) b') :
    ((insertion s a).runOn b).1 = ((insertion s a').runOn b').1 ∧
      ((insertion s a).runOn b).2.Alike (TokensDiffer s a b₀) ((insertion s a').runOn b').2 := by
  rw [← reached.clock] at signs
  have holds : (client s a).credentials = .account a := rfl
  have holds' : (client s a').credentials = .account a' := rfl
  have transport : (client s a).transport = (client s a').transport := rfl
  exact Directory.Client.runOn_execute_alike holds holds' transport accounts alike signs
    grantsAlike_of_tokensDiffer _ _ _ _
    fun left _ _ _ high differ => not_answersTokenRequest_of_insertion reached high differ.1

/-- The two runs come to the same stages, in sessions that differ in their secrets alone. -/
lemma Reaches.alike (accounts : a.Alike a')
    (signs : (a.form? b₀.clock).isSome = (a'.form? b₀.clock).isSome)
    (start : b₀.Alike (TokensDiffer s a b₀) b₀') {stage : Stage} (reached : Reaches s a b₀ stage b) :
    ∃ b', Reaches s a' b₀' stage b' ∧ b.Alike (TokensDiffer s a b₀) b' := by
  induction reached with
  | opening => exact ⟨b₀', .opening, start⟩
  | listing obtained =>
    obtain ⟨tokens, sessions⟩ :=
      Credentials.runOn_token_alike accounts start signs grantsAlike_of_tokensDiffer
    rw [obtained] at tokens sessions
    rcases obtained' : (Credentials.account a').token.runOn b₀' with ⟨result', b'⟩
    rw [obtained'] at tokens sessions
    cases tokens with
    | ok tokens => exact ⟨_, .listing obtained', (sessions.told _).told _⟩
  | insertion before listed lacks earnest ih =>
    obtain ⟨b', reached', sessions⟩ := ih
    obtain ⟨results, sessions'⟩ := listing_alike accounts signs before sessions
    rw [listed] at results sessions'
    rcases listed' : (Run.listing s a').runOn b' with ⟨result', b''⟩
    rw [listed'] at results sessions'
    obtain rfl := results
    exact ⟨_, .insertion reached' listed' lacks earnest, (sessions'.told _).told _⟩

end Stages

/-- What two runs come to is the same, and they leave sessions that differ in their secrets alone. -/
lemma runOn_provision_alike {s : Settings} {files files' : Files} {a a' : Account.Source}
    {b₀ b₀' : Session} (setup : credentials s files = .ok (.account a))
    (setup' : credentials s files' = .ok (.account a')) (accounts : a.Alike a')
    (signs : (a.form? b₀.clock).isSome = (a'.form? b₀.clock).isSome)
    (start : b₀.Alike (TokensDiffer s a b₀) b₀') :
    ((provision s files).runOn b₀).1 = ((provision s files').runOn b₀').1 ∧
      ((provision s files).runOn b₀).2.Alike (TokensDiffer s a b₀)
        ((provision s files').runOn b₀').2 := by
  rcases obtained : (Credentials.account a).token.runOn b₀ with ⟨e | t, b⟩
  · obtain ⟨tokens, sessions⟩ :=
      Credentials.runOn_token_alike accounts start signs grantsAlike_of_tokensDiffer
    rcases obtained' : (Credentials.account a').token.runOn b₀' with ⟨result', b'⟩
    rw [obtained, obtained'] at tokens sessions
    rw [runOn_provision s a setup, runOn_provision s a' setup', obtained, obtained']
    cases tokens with
    | error e => exact ⟨rfl, sessions⟩
  · have reached : Reaches s a b₀ .listing _ := .listing obtained
    obtain ⟨b', reached', sessions⟩ := reached.alike accounts signs start
    obtain ⟨lists, sessions'⟩ := listing_alike accounts signs reached sessions
    rw [runOn_provision_of_listing setup reached, runOn_provision_of_listing setup' reached']
    rcases listed : (listing s a).runOn (beforeListing s b) with ⟨result, b₁⟩
    rcases listed' : (listing s a').runOn b' with ⟨result', b₁'⟩
    rw [listed, listed'] at lists sessions'
    obtain rfl : result = result' := lists
    cases result with
    | error e => exact ⟨rfl, sessions'⟩
    | ok l =>
      dsimp only
      unfold afterListing
      -- Both runs have the same list, and go on in the same way.
      by_cases lacks : Lacks s l
      · rw [if_pos lacks, if_pos lacks]
        cases earnest : s.dryRun with
        | true =>
          rw [if_pos rfl, if_pos rfl]
          exact ⟨rfl, (sessions'.told _).told _⟩
        | false =>
          rw [if_neg Bool.false_ne_true, if_neg Bool.false_ne_true]
          have reached₁ := Reaches.insertion reached listed lacks earnest
          obtain ⟨schemas, final⟩ := insertion_alike accounts signs reached₁ ((sessions'.told _).told _)
          change ((insertion s a).runOn (beforeInsertion s l b₁)).1 =
            ((insertion s a').runOn (beforeInsertion s l b₁')).1 at schemas
          change ((insertion s a).runOn (beforeInsertion s l b₁)).2.Alike _
            ((insertion s a').runOn (beforeInsertion s l b₁')).2 at final
          rcases inserted : (insertion s a).runOn (beforeInsertion s l b₁) with ⟨result, b₂⟩
          rcases inserted' : (insertion s a').runOn (beforeInsertion s l b₁') with ⟨result', b₂'⟩
          rw [inserted, inserted'] at schemas final
          obtain rfl : result = result' := schemas
          cases result with
          | error e => exact ⟨rfl, final⟩
          | ok schema => exact ⟨rfl, (final.told _).told _⟩
      · rw [if_neg lacks, if_neg lacks]
        exact ⟨rfl, (sessions'.told _).told _⟩

/-- Runs that leave such sessions are both in time, or both too late. -/
lemma isLate_alike {swaps : Nat → List UInt8 → List UInt8 → Prop} {b b' : Session}
    (alike : b.Alike swaps b') (s : Settings) {b₀ b₀' : Session}
    (start : b₀.network.sent = b₀'.network.sent) : isLate s b₀ b = isLate s b₀' b' := by
  have count : b.network.sent.length = b'.network.sent.length := by
    rw [← List.length_map Http.Sent.censored, alike.sent, List.length_map]
  have waited : b.network.waited = b'.network.waited := alike.network.waited
  unfold isLate
  rw [waited, count, start]

/-! ### What a run shows -/

/-- Nobody can tell two runs apart whose key files differ in the private key alone and whose replies
differ only in the tokens that they grant, if both keys sign, or none of them.  The runs come to the same,
tell the same, and send the same but for what authorizes requests and for signatures.  What is said about
the keys is the same, and so is what is said about the tokens that are held on the way and at the end. -/
theorem run_hides_secrets (s : Settings) {files files' : Files} {document document' : Json}
    {a a' : Account.Source} (clock : Clock) (reachable : Bool) {replies replies' : List Http.Reply}
    (loaded : Account.load files s.credentialsFile = .ok document)
    (loaded' : Account.load files' s.credentialsFile = .ok document')
    (same : document.without Account.privateKeyName = document'.without Account.privateKeyName)
    (accepted : (accountSetup s document).build = .ok a)
    (accepted' : (accountSetup s document').build = .ok a')
    (signs : (a.form? clock).isSome = (a'.form? clock).isSome)
    (alike : Http.RepliesAlike
      (TokensDiffer s a { clock, network := { reachable, replies } }) replies replies') :
    let b₀ : Session := { clock, network := { reachable, replies } }
    let b₀' : Session := { clock, network := { reachable, replies := replies' } }
    let came := run s files b₀
    let came' := run s files' b₀'
    came.1 = came'.1 ∧ came.2.log = came'.2.log ∧
      came.2.network.sent.map Http.Sent.censored = came'.2.network.sent.map Http.Sent.censored ∧
      a.key.describe = a'.key.describe ∧
      came.2.token.map Token.describe = came'.2.token.map Token.describe ∧
      ∀ stage b, Reaches s a b₀ stage b → ∃ b', Reaches s a' b₀' stage b' ∧
        b.token.map Token.describe = b'.token.map Token.describe := by
  intro b₀ b₀' came came'
  have setup : credentials s files = .ok (.account a) := by
    rw [credentials_eq, loaded]
    exact congrArg (Except.map _) accepted
  have setup' : credentials s files' = .ok (.account a') := by
    rw [credentials_eq, loaded']
    exact congrArg (Except.map _) accepted'
  have accounts : a.Alike a' := by
    refine Account.Setup.alike_of_build ?_ ?_ ?_ same accepted accepted' <;> rfl
  have start : b₀.Alike (TokensDiffer s a b₀) b₀' := ⟨rfl, ⟨rfl, alike, rfl, rfl⟩, .none, rfl⟩
  have signs₀ : (a.form? b₀.clock).isSome = (a'.form? b₀.clock).isSome := signs
  obtain ⟨results, sessions⟩ := runOn_provision_alike setup setup' accounts signs₀ start
  have late : isLate s b₀ _ = isLate s b₀' _ := isLate_alike sessions s rfl
  have key : a.key.describe = a'.key.describe := by
    rw [← a.key.describe_withoutSecret, accounts.key, a'.key.describe_withoutSecret]
  have ending : came.1 = came'.1 := by
    change (run s files b₀).1 = (run s files' b₀').1
    unfold run
    dsimp only
    rw [late, results]
    split <;> rfl
  have left : came.2 = ((provision s files).runOn b₀).2 := run_snd ..
  have left' : came'.2 = ((provision s files').runOn b₀').2 := run_snd ..
  rw [left, left']
  refine ⟨ending, sessions.log, sessions.sent, key, sessions.describe_token,
    fun stage b reached => ?_⟩
  obtain ⟨b', reached', held⟩ := reached.alike accounts signs₀ start
  exact ⟨b', reached', held.describe_token⟩

/-- Two keys with one modulus and different exponents, and two tokens: nobody can tell the runs apart. -/
theorem run_hides_exponents_and_token :
    let came := run sampleSettings (sampleFiles (sampleRsaKey 7 5 6 5))
      { clock := ⟨0, 0⟩, network := { reachable := true, replies := sampleReplies "A" } }
    let came' := run sampleSettings (sampleFiles (sampleRsaKey 11 6 6 10))
      { clock := ⟨0, 0⟩, network := { reachable := true, replies := sampleReplies "B" } }
    came.1 = came'.1 ∧ came.2.log = came'.2.log ∧
      came.2.network.sent.map Http.Sent.censored = came'.2.network.sent.map Http.Sent.censored := by
  obtain ⟨usable, usable'⟩ := isUsable_samples
  -- The numbers of the keys are of no further interest.
  generalize sampleRsaKey 7 5 6 5 = k at usable ⊢
  generalize sampleRsaKey 11 6 6 10 = k' at usable' ⊢
  obtain ⟨consistent, adequate, short, signs⟩ := usable
  obtain ⟨consistent', adequate', short', signs'⟩ := usable'
  let b₀ : Session :=
    { clock := ⟨0, 0⟩, network := { reachable := true, replies := sampleReplies "A" } }
  obtain ⟨form, made⟩ : ∃ form, (sampleSource k).form? b₀.clock = some form :=
    Option.isSome_iff_exists.mp signs
  have taken := Nat.le_of_eq (replies_length_after_sample k form "A")
  have answers : AnswersTokenRequest sampleSettings (sampleSource k) b₀ 1 :=
    answersTokenRequest_of_opening rfl made taken (by decide)
  have grants : Token.GrantsAlike (sampleGrant "A") (sampleGrant "B") :=
    ⟨⟨"A", none, "Bearer"⟩, ⟨"B", none, "Bearer"⟩, by rfl, by rfl, rfl, rfl, rfl, rfl⟩
  have alike : Http.RepliesAlike (TokensDiffer sampleSettings (sampleSource k) b₀) (sampleReplies "A")
      (sampleReplies "B") :=
    .swapped (by decide) ⟨answers, grants⟩ (.same _ .nil)
  have bare (k : RsaKey) : (sampleKey k).withoutSecret =
      { clientEmail := "robot@example.com", privateKeyId := "1" } := rfl
  have same := Account.Key.without_document ((bare k).trans (bare k').symm)
  obtain ⟨results, logs, sent, -⟩ := run_hides_secrets sampleSettings ⟨0, 0⟩ true (load_sample k)
    (load_sample k') same (build_sample consistent adequate short) (build_sample consistent' adequate' short')
    (signs.trans signs'.symm) alike
  exact ⟨results, logs, sent⟩

end WorkspaceSchema.Run
