import WorkspaceSchema.Proofs.Directory.Calls

/-!
# Refused tokens

A token endpoint may refuse a token, or grant it in words that cannot be read.  Either way there is no token,
and the error says whether asking again may help and which reason was given.

`Denied` tells that the error is the same for everybody: for those who ask for a token or for headers, for
the calls of a client, and for a run.  It holds wherever what came back for the one order is no token
(`denied_of_granted`).  What is left is to read the error off the response.  Of the statuses of a failing
server, only two count as worth another attempt (`isTransientStatus_eq_true_iff`).
-/

namespace WorkspaceSchema.Token

/-! ### Statuses and reasons -/

/-- The statuses with which asking again may help: a server that fails, takes too long or has too much to do. -/
def IsRetryable (status : Nat) : Prop :=
  500 ≤ status ∧ status < 600 ∨ status = 408 ∨ status = 429

/-- The statuses that are taken for worth another attempt. -/
lemma isTransientStatus_eq_true_iff {status : Nat} :
    isTransientStatus status = true ↔ status ∈ [408, 429, 500, 503] := by
  unfold isTransientStatus
  simp only [Bool.or_eq_true, decide_eq_true_eq, List.mem_cons, List.not_mem_nil, or_false]
  tauto

/-- The statuses about which nobody is misled are all but those of a server that fails in an unusual way. -/
lemma isTransientStatus_iff_isRetryable_iff {status : Nat} :
    (isTransientStatus status = true ↔ IsRetryable status) ↔
      ¬(500 ≤ status ∧ status < 600 ∧ status ≠ 500 ∧ status ≠ 503) := by
  rw [isTransientStatus_eq_true_iff]
  unfold IsRetryable
  simp only [List.mem_cons, List.not_mem_nil, or_false]
  omega

/-- The reason that a body gives. -/
def statedReason? (bytes : List UInt8) : Option OAuthError :=
  (OAuthError.parse (Utf8.ofString (Utf8.decodeLossy bytes))).toOption

section Response

variable {endpoint : String} {response : Http.Response} {bytes : List UInt8}

/-- Whether a refusal is transient depends on its status alone. -/
lemma transient_refusal : (refusal endpoint response).transient = isTransientStatus response.status := by
  unfold refusal
  dsimp only
  split
  · rfl
  · split <;> rfl

/-- A refusal with a body in full has the reason that the body gives. -/
lemma oauth?_refusal (complete : response.body = .ok bytes) :
    (refusal endpoint response).oauth? = statedReason? bytes := by
  unfold refusal statedReason?
  rw [response.bytes_of_complete complete]
  dsimp only
  cases OAuthError.parse (Utf8.ofString (Utf8.decodeLossy bytes)) <;> rfl

/-- A grant that cannot be read is none, now and later. -/
lemma granted_of_illegible (complete : response.body = .ok bytes) {flaw : Json.Error}
    (illegible : Grant.parse bytes = .error flaw) (now : Clock) :
    granted response now = .error ⟨false, .failure (.decoding response.url.print flaw)⟩ := by
  unfold granted
  rw [response.bytes_of_complete complete]
  dsimp only
  rw [illegible]

end Response

/-! ### Who is told -/

/-- Nobody gets a token of an account in a session, and everybody is told the same error. -/
structure Denied (a : Account.Source) (b : Session) (e : Error) : Prop where
  token : ((Credentials.account a).token.runOn b).1 = .error e
  headers : ((Credentials.account a).headers.runOn b).1 = .error e
  held : ((Credentials.account a).headers.runOn b).2.token = b.token
  call : ∀ c : Directory.Client, c.credentials = .account a → ∀ call, ∃ failure,
    (c.make call b).1 = some failure ∧ failure.credentials? = some e ∧
      Run.Error.ofDirectory failure = .authorization e ∧ (c.make call b).2.token = b.token
  run : ∀ s files, Run.credentials s files = .ok (.account a) →
    ((Run.provision s files).runOn b).1 = .error (.authorization e) ∧
      ((Run.provision s files).runOn b).2.token = b.token

section Denied

variable {a : Account.Source} {b : Session} {form : Http.Body} {e : Error}

/-- There is no token if one is due and what comes back for it is none. -/
lemma runOn_token_of_granted (due : reusable? b.clock b.token = none)
    (signs : a.form? b.clock = some form)
    (fails : a.granted b.clock ((a.order form).answer b.network) = .error e) :
    (Credentials.account a).token.runOn b =
      (.error e, { b with network := (a.order form).after b.network }) := by
  rw [Credentials.runOn_token, due]
  dsimp only
  rw [signs]
  dsimp only
  rw [fails]
  rfl

/-- Without a token there are no headers. -/
lemma runOn_headers_of_granted (due : reusable? b.clock b.token = none)
    (signs : a.form? b.clock = some form)
    (fails : a.granted b.clock ((a.order form).answer b.network) = .error e) :
    (Credentials.account a).headers.runOn b =
      (.error e, { b with network := (a.order form).after b.network }) := by
  rw [Credentials.runOn_headers, runOn_token_of_granted due signs fails]
  rfl

/-- A token that is due and does not come is denied to everybody. -/
lemma denied_of_granted (due : reusable? b.clock b.token = none) (signs : a.form? b.clock = some form)
    (fails : a.granted b.clock ((a.order form).answer b.network) = .error e) : Denied a b e where
  token := by rw [runOn_token_of_granted due signs fails]
  headers := by rw [runOn_headers_of_granted due signs fails]
  held := by rw [runOn_headers_of_granted due signs fails]
  call := by
    intro c account call
    have without := runOn_headers_of_granted due signs fails
    rw [← account] at without
    obtain ⟨failure, -, held⟩ := c.make_of_error b without call
    exact ⟨.authentication e, failure, rfl, rfl, held⟩
  run := by
    intro s files setup
    rw [Run.runOn_provision s a setup, runOn_token_of_granted due signs fails]
    exact ⟨rfl, rfl⟩

/-- Who is denied a token by a response that refuses it gets the error that the response gives. -/
lemma denied_of_refusal {response : Http.Response} (due : reusable? b.clock b.token = none)
    (signs : a.form? b.clock = some form) (came : (a.order form).answer b.network = .ok response)
    (refuses : response.isSuccess = false) : Denied a b (refusal a.tokenUri response) := by
  refine denied_of_granted due signs ?_
  rw [came]
  unfold Account.Source.granted ofResponse
  dsimp only
  rw [refuses]
  rfl

end Denied

/-- An account that asks a token endpoint, and gets a response in full.  If the response refuses the token, it is
denied to everybody, with the reason that the body gives, if it gives one, and as transient exactly if the
status is one of four.  That is what the status says, but for a server that fails with another status than 500
and 503.  If the response grants a token in words that cannot be read, the token is denied for good. -/
theorem refusal_reaches_everybody {a : Account.Source} {b : Session} {form : Http.Body}
    {response : Http.Response} {bytes : List UInt8} (due : reusable? b.clock b.token = none)
    (signs : a.form? b.clock = some form) (came : (a.order form).answer b.network = .ok response)
    (complete : response.body = .ok bytes) :
    (response.isSuccess = false → ∃ e, Denied a b e ∧ e.oauth? = statedReason? bytes ∧
      (e.transient = true ↔ response.status ∈ [408, 429, 500, 503]) ∧
      ((e.transient = true ↔ IsRetryable response.status) ↔
        ¬(500 ≤ response.status ∧ response.status < 600 ∧ response.status ≠ 500 ∧ response.status ≠ 503))) ∧
    (response.isSuccess = true → ∀ flaw, Grant.parse bytes = .error flaw →
      ∃ e, Denied a b e ∧ e.oauth? = none ∧ e.transient = false) := by
  constructor
  · intro refuses
    refine ⟨_, denied_of_refusal due signs came refuses, oauth?_refusal complete, ?_, ?_⟩
    · rw [transient_refusal]
      exact isTransientStatus_eq_true_iff
    · rw [transient_refusal]
      exact isTransientStatus_iff_isRetryable_iff
  · intro grants flaw illegible
    have fails : a.granted b.clock ((a.order form).answer b.network) =
        .error ⟨false, .failure (.decoding response.url.print flaw)⟩ := by
      rw [came]
      unfold Account.Source.granted ofResponse
      dsimp only
      rw [grants]
      exact granted_of_illegible complete illegible b.clock
    exact ⟨_, denied_of_granted due signs fails, rfl, rfl⟩

/-! ### One answer -/

/-- A session in which the token endpoint has one answer. -/
def sampleStart (status : Nat) (body : String) : Session where
  clock := ⟨0, 0⟩
  network := { reachable := true, replies := [.answer status [] (Utf8.ofString body)] }

/-- The answer comes, whatever its status. -/
lemma answer_sample (k : RsaKey) (form : Http.Body) (status : Nat) (body : String) :
    ((Run.sampleSource k).order form).answer (sampleStart status body).network =
      .ok ⟨Run.samplePlace ["token"], status, [], .ok (Utf8.ofString body)⟩ := by
  have stays (r : Http.Request) (body : Except Http.Obstacle (List UInt8)) :
      Http.Client.redirected? r ⟨r.url, status, [], body⟩ = none := by
    unfold Http.Client.redirected?
    split <;> rfl
  have answered (headers : Http.Headers) :
      ((Run.sampleSource k).order form).client.exchange
        ⟨.post, Run.samplePlace ["token"], headers, some form⟩ (sampleStart status body).network =
        (.ok ⟨Run.samplePlace ["token"], status, [], .ok (Utf8.ofString body)⟩,
          { reachable := true, replies := [], sent :=
            [⟨.post, "http://[::1]/token", headers, some form⟩] }) := by
    rfl
  unfold Http.Order.answer Http.Client.send
  rw [Run.target_order_sample]
  change (Http.Client.follow _ _ ⟨.post, _, _, some form⟩ _).1 = _
  unfold Http.Client.follow
  rw [answered]
  dsimp only
  rw [stays ⟨.post, Run.samplePlace ["token"], _, some form⟩]

/-- A server that is overloaded refuses for now, with the reason that it gives. -/
theorem refusal_of_overloaded_server :
    let a := Run.sampleSource (Run.sampleRsaKey 7 5 6 5)
    let b := sampleStart 503 "\x7b\"error\":\"busy\"\x7d"
    reusable? b.clock b.token = none ∧
      ∃ form response, a.form? b.clock = some form ∧ (a.order form).answer b.network = .ok response ∧
        response.body = .ok (Utf8.ofString "\x7b\"error\":\"busy\"\x7d") ∧ response.isSuccess = false ∧
        ∃ e, Denied a b e ∧ e.oauth? = some ⟨"busy", none⟩ ∧ e.transient = true := by
  obtain ⟨form, signs⟩ := Run.isUsable_samples.1.exists_form
  generalize Run.sampleRsaKey 7 5 6 5 = k at *
  have came := answer_sample k form 503 "\x7b\"error\":\"busy\"\x7d"
  have due : reusable? (sampleStart 503 "\x7b\"error\":\"busy\"\x7d").clock
      (sampleStart 503 "\x7b\"error\":\"busy\"\x7d").token = none := rfl
  obtain ⟨refused, -⟩ := refusal_reaches_everybody due signs came rfl
  obtain ⟨e, denied, reason, transient, -⟩ := refused rfl
  refine ⟨rfl, form, _, signs, came, rfl, rfl, e, denied, reason.trans (by rfl), transient.mpr (by decide)⟩

/-- A gateway that gets no good answer from the server behind it refuses for good, though it is a server that
fails. -/
theorem permanent_refusal_of_bad_gateway :
    let a := Run.sampleSource (Run.sampleRsaKey 7 5 6 5)
    ∃ e, Denied a (sampleStart 502 "") e ∧ IsRetryable 502 ∧ e.transient = false := by
  obtain ⟨form, signs⟩ := Run.isUsable_samples.1.exists_form
  generalize Run.sampleRsaKey 7 5 6 5 = k at *
  have came := answer_sample k form 502 ""
  exact ⟨_, denied_of_refusal rfl signs came rfl, .inl (by decide), rfl⟩

end WorkspaceSchema.Token
