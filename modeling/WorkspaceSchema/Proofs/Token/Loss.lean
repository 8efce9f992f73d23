import WorkspaceSchema.Proofs.Token.Refusal

/-!
# Tokens lost on the way

An exchange with a token endpoint may come to nothing although nobody refused anything: there is no place to send
the request to, or the connection is lost before the response has arrived in full.  `Loses` tells these losses
apart by what causes them, a text that names no place or a fault of the network.

Only a lost connection may be better next time.  But the error is not made from the cause: whatever comes up while
sending counts as worth another attempt, and whatever comes up with the body of a granted response does not.  So
two of the four losses get the wrong flag (`loss_is_denied`).
-/

namespace WorkspaceSchema

namespace Http

/-- That a text is a URL of the web with a host that a request can name, and that it is not too long. -/
structure Names (text : String) (url : Url) : Prop where
  parsed : Url.parse text = .ok url
  web : Client.isWebScheme url.scheme = true
  requestable : Client.isRequestable url.host = true
  short : Client.isShort (Client.separateUser url).1 = true

section Targets

variable {text : String}

/-- User and password are not part of a place, but scheme and host are. -/
lemma separateUser_keeps (url : Url) :
    (Client.separateUser url).1.scheme = url.scheme ∧ (Client.separateUser url).1.host = url.host := by
  unfold Client.separateUser
  cases url.user? <;> exact ⟨rfl, rfl⟩

/-- A text is a target if it names a URL of the web. -/
lemma exists_target_iff : (∃ place user, Client.target text = .ok (place, user)) ↔ ∃ url, Names text url := by
  constructor
  · rintro ⟨place, user, taken⟩
    obtain ⟨located, short⟩ := Client.target_eq_ok_iff.mp taken
    obtain ⟨url, parsed, separated, web, requestable⟩ := Client.locate_eq_ok_iff.mp located
    obtain ⟨scheme, host⟩ := separateUser_keeps url
    have place : (Client.separateUser url).1 = place := congrArg Prod.fst separated
    rw [place] at scheme host
    exact ⟨url, parsed, scheme ▸ web, host ▸ requestable, place ▸ short⟩
  · rintro ⟨url, names⟩
    obtain ⟨scheme, host⟩ := separateUser_keeps url
    have located : Client.locate text = .ok (Client.separateUser url) :=
      Client.locate_eq_ok_iff.mpr ⟨url, names.parsed, rfl, scheme ▸ names.web, host ▸ names.requestable⟩
    exact ⟨_, _, Client.target_eq_ok_iff.mpr ⟨located, names.short⟩⟩

end Targets

section Replies

variable {c : Client} {r : Request} {n : Network} {hops : Nat}

/-- What a reply comes to for somebody who waits for it. -/
def Reply.outcome (url : Url) : Reply → Except Obstacle Response
  | .answer status headers body => .ok ⟨url, status, headers, .ok body⟩
  | .drop => .error .closed
  | .truncated status headers => .ok ⟨url, status, headers, .error .closed⟩
  | .hang => .error .unanswered
  | .stalled status headers => .ok ⟨url, status, headers, .error .unanswered⟩

/-- A client that waits gets what the next reply comes to. -/
lemma fst_exchange (patient : c.patience = .endless) (reached : n.reachable = true) :
    (c.exchange r n).1 = n.take.1.outcome r.url := by
  have next : (n.note r.toSent).take.1 = n.take.1 := by
    unfold Network.take Network.note
    cases n.replies <;> rfl
  rw [← next]
  unfold Client.exchange
  rw [reached, if_neg (by decide)]
  rcases (n.note r.toSent).take with ⟨reply, n'⟩
  dsimp only
  rw [patient, if_neg (by decide)]
  cases reply with
  | answer | drop | truncated => rfl
  | hang | stalled =>
    unfold Client.inVain
    rw [patient]
    rfl

/-- No connection is made where no host can be reached. -/
lemma fst_exchange_of_unreached (unreached : n.reachable = false) :
    ∃ obstacle, (c.exchange r n).1 = .error obstacle := by
  unfold Client.exchange
  rw [if_pos (by simpa using unreached)]
  exact ⟨_, rfl⟩

lemma fst_follow_of_error {obstacle : Obstacle} (lost : (c.exchange r n).1 = .error obstacle) :
    (c.follow hops r n).1 = .error (.sending r.url.print obstacle) := by
  unfold Client.follow
  rcases exchanged : c.exchange r n with ⟨obstacle' | response, n'⟩
  · rw [exchanged] at lost
    cases lost
    rfl
  · rw [exchanged] at lost
    cases lost

/-- A response that is no redirect is the last one. -/
lemma fst_follow_of_ok {response : Response} (came : (c.exchange r n).1 = .ok response)
    (final : response.status ∉ Client.redirectStatuses) : (c.follow hops r n).1 = .ok response := by
  have stays : Client.redirected? r response = none := by
    unfold Client.redirected?
    rw [if_pos final]
  unfold Client.follow
  rcases exchanged : c.exchange r n with ⟨obstacle | response', n'⟩
  · rw [exchanged] at came
    cases came
  · rw [exchanged] at came
    cases came
    dsimp only
    rw [stays]

end Replies

end Http

namespace Token

/-! ### Losses -/

/-- How an exchange comes to an end before there is a response in full. -/
inductive Loss where
  /-- There is no place to send the request to. -/
  | unusable
  /-- No connection is made. -/
  | refused
  /-- The connection is closed before a response. -/
  | dropped
  /-- The connection is closed after the head of a response that grants the request. -/
  | cut
deriving DecidableEq

/-- Whether a connection is lost, or cannot be made. -/
def Loss.IsOfTransport (loss : Loss) : Prop :=
  loss ≠ .unusable

/-- What causes a loss: the text that names the endpoint, or the network. -/
inductive Loses (text : String) (n : Http.Network) : Loss → Prop where
  | unusable (nowhere : ∀ url, ¬Http.Names text url) : Loses text n .unusable
  | refused {url : Url} (names : Http.Names text url) (unreached : n.reachable = false) : Loses text n .refused
  | dropped {url : Url} (names : Http.Names text url) (reached : n.reachable = true)
    (closed : n.take.1 = .drop) : Loses text n .dropped
  | cut {url : Url} {status : Nat} {headers : Http.Headers} (names : Http.Names text url)
    (reached : n.reachable = true) (closed : n.take.1 = .truncated status headers)
    (granting : 200 ≤ status ∧ status < 300) : Loses text n .cut

/-- The replies that are left aside here: those that never end, redirects, and refusals that are cut short. -/
def IsOther : Http.Reply → Prop
  | .answer status _ _ => status ∈ Http.Client.redirectStatuses
  | .drop => False
  | .truncated status _ => ¬(200 ≤ status ∧ status < 300)
  | .hang => True
  | .stalled _ _ => True

variable {a : Account.Source} {b : Session} {form : Http.Body} {loss : Loss} {n : Http.Network}

/-- Where the text names no place, nothing is sent. -/
lemma answer_of_nowhere (nowhere : ∀ url, ¬Http.Names a.tokenUri url) (form : Http.Body)
    (n : Http.Network) : (∃ failure, (a.order form).answer n = .error failure) ∧ (a.order form).after n = n := by
  unfold Http.Order.answer Http.Order.after Http.Client.send
  rcases taken : Http.Client.target (a.order form).target with failure | ⟨place, user⟩
  · exact ⟨⟨failure, rfl⟩, rfl⟩
  · obtain ⟨url, names⟩ := Http.exists_target_iff.mp ⟨place, user, taken⟩
    exact absurd names (nowhere url)

/-- Where it names a place, one request is sent there, and redirects are followed. -/
lemma exists_follow {url : Url} (names : Http.Names a.tokenUri url) (form : Http.Body) :
    ∃ r : Http.Request,
      ∀ n, (a.order form).answer n = ((a.order form).client.follow Http.Client.maxRedirects r n).1 := by
  obtain ⟨place, user, taken⟩ := Http.exists_target_iff.mpr ⟨url, names⟩
  refine ⟨⟨.post, place, [("content-type", form.contentType)] ++ user ++ [], some form⟩, fun n => ?_⟩
  unfold Http.Order.answer Http.Client.send
  rw [show (a.order form).target = a.tokenUri from rfl, taken]
  rfl

/-- The error that a loss comes to. -/
lemma Loses.exists_granted (lost : Loses a.tokenUri n loss) (form : Http.Body) (now : Clock) :
    ∃ failure, a.granted now ((a.order form).answer n) = .error ⟨decide (loss ≠ .cut), .failure failure⟩ := by
  cases lost with
  | unusable nowhere =>
    obtain ⟨⟨failure, answer⟩, -⟩ := answer_of_nowhere nowhere form n
    exact ⟨failure, by rw [answer]; rfl⟩
  | refused names unreached =>
    obtain ⟨r, answer⟩ := exists_follow names form
    obtain ⟨obstacle, failed⟩ :=
      Http.fst_exchange_of_unreached (c := (a.order form).client) (r := r) unreached
    exact ⟨_, by rw [answer, Http.fst_follow_of_error failed]; rfl⟩
  | dropped names reached closed =>
    obtain ⟨r, answer⟩ := exists_follow names form
    have failed := Http.fst_exchange (c := (a.order form).client) (r := r) rfl reached
    rw [closed] at failed
    exact ⟨_, by rw [answer, Http.fst_follow_of_error failed]; rfl⟩
  | @cut url status headers names reached closed granting =>
    obtain ⟨r, answer⟩ := exists_follow names form
    have came := Http.fst_exchange (c := (a.order form).client) (r := r) rfl reached
    rw [closed] at came
    have final : status ∉ Http.Client.redirectStatuses := by
      simp only [Http.Client.redirectStatuses, Http.Client.repeatingStatuses, List.cons_append, List.nil_append,
        List.mem_cons, List.not_mem_nil, or_false]
      omega
    have success : (200 ≤ status && status < 300 : Bool) = true := by simpa using granting
    refine ⟨.reading r.url.print .closed, ?_⟩
    rw [answer, Http.fst_follow_of_ok came final]
    unfold Account.Source.granted ofResponse Http.Response.isSuccess
    dsimp only
    rw [if_pos success]
    rfl

/-- Where nobody has to wait for ever, is redirected or is refused, an exchange brings a response in full or is
lost. -/
lemma exists_loss (form : Http.Body) (usual : ¬IsOther n.take.1)
    (incomplete : ∀ response bytes, (a.order form).answer n = .ok response → response.body ≠ .ok bytes) :
    ∃ loss, Loses a.tokenUri n loss := by
  by_cases nowhere : ∀ url, ¬Http.Names a.tokenUri url
  · exact ⟨_, .unusable nowhere⟩
  push Not at nowhere
  obtain ⟨url, names⟩ := nowhere
  rcases reached : n.reachable
  · exact ⟨_, .refused names reached⟩
  obtain ⟨r, answer⟩ := exists_follow names form
  have came := Http.fst_exchange (c := (a.order form).client) (r := r) rfl reached
  cases reply : n.take.1 with
  | drop => exact ⟨_, .dropped names reached reply⟩
  | truncated status headers =>
    rw [reply] at usual
    exact ⟨_, .cut names reached reply (not_not.mp usual)⟩
  | answer status headers body =>
    rw [reply] at usual came
    exact absurd rfl (incomplete _ body ((answer n).trans (Http.fst_follow_of_ok came usual)))
  | hang =>
    rw [reply] at usual
    exact absurd trivial usual
  | stalled status headers =>
    rw [reply] at usual
    exact absurd trivial usual

/-- An account that asks a token endpoint when its connection is lost, or where there is no endpoint to ask.  The
token is denied to everybody, without a reason from the endpoint, and the token held before is still held; where
there is no endpoint, nothing is sent.  The error counts as transient unless the response was cut short after its
head.  That is right for a connection that was refused, or closed before a response, and wrong for the other two
losses: one that will come again counts as transient, and one that need not come again counts as permanent.
Apart from replies that are left aside, there are no other ways to be without a response in full. -/
theorem loss_is_denied (due : reusable? b.clock b.token = none) (signs : a.form? b.clock = some form) :
    (∀ loss, Loses a.tokenUri b.network loss → ∃ e, Denied a b e ∧ e.oauth? = none ∧
      ((Credentials.account a).token.runOn b).2.token = b.token ∧
      (loss = .unusable → ((Credentials.account a).token.runOn b).2.network = b.network) ∧
      (e.transient = true ↔ loss ≠ .cut) ∧
      ((e.transient = true ↔ loss.IsOfTransport) ↔ loss = .refused ∨ loss = .dropped)) ∧
    (¬IsOther b.network.take.1 → (∀ response bytes, (a.order form).answer b.network = .ok response →
      response.body ≠ .ok bytes) → ∃ loss, Loses a.tokenUri b.network loss) := by
  refine ⟨fun loss lost => ?_, exists_loss form⟩
  obtain ⟨failure, fails⟩ := lost.exists_granted form b.clock
  have run := runOn_token_of_granted due signs fails
  refine ⟨_, denied_of_granted due signs fails, rfl, congrArg (fun r => r.2.token) run, ?_, ?_, ?_⟩
  · rintro rfl
    cases lost with
    | unusable nowhere =>
      exact (congrArg (fun r => r.2.network) run).trans (answer_of_nowhere nowhere form b.network).2
  · exact decide_eq_true_iff
  · unfold Loss.IsOfTransport
    cases loss <;> simp

/-- The sample account has a place for its endpoint. -/
lemma names_sample : Http.Names "http://[::1]/token" (Run.samplePlace ["token"]) where
  parsed := rfl
  web := rfl
  requestable := rfl
  short := rfl

/-- A connection that is closed before a response may be better next time, and the error says so. -/
theorem dropped_connection_is_transient :
    let a := Run.sampleSource (Run.sampleRsaKey 7 5 6 5)
    let b : Session := { clock := ⟨0, 0⟩, network := { reachable := true, replies := [.drop] } }
    reusable? b.clock b.token = none ∧ (∃ form, a.form? b.clock = some form) ∧
      Loses a.tokenUri b.network .dropped ∧ ∃ e, Denied a b e ∧ e.transient = true := by
  obtain ⟨form, signs⟩ := Run.isUsable_samples.1.exists_form
  generalize Run.sampleRsaKey 7 5 6 5 = k at *
  intro a b
  have lost : Loses a.tokenUri b.network .dropped := .dropped names_sample rfl rfl
  have due : reusable? b.clock b.token = none := rfl
  obtain ⟨denies, -⟩ := loss_is_denied due signs
  obtain ⟨e, denied, -, -, -, transient, -⟩ := denies .dropped lost
  exact ⟨due, ⟨form, signs⟩, lost, e, denied, transient.mpr (by decide)⟩

set_option maxRecDepth 100000 in
/-- The sample account signs for an endpoint that is no place in the web as well. -/
lemma isSome_form?_nowhere :
    (({ Run.sampleSource (Run.sampleRsaKey 7 5 6 5) with tokenUri := "token" } : Account.Source).form?
      ⟨0, 0⟩).isSome = true := by
  unfold Account.Source.form? Assertion.sign?
  rw [Option.isSome_map, Option.isSome_map]
  decide +kernel

/-- A text that will never name a place in the web gives a transient error, and a response that is cut short
gives a permanent one. -/
theorem flags_of_nowhere_and_cut :
    (∃ e, Denied { Run.sampleSource (Run.sampleRsaKey 7 5 6 5) with tokenUri := "token" }
      { clock := ⟨0, 0⟩, network := { reachable := true, replies := [] } } e ∧
      (∀ url, ¬Http.Names "token" url) ∧ e.transient = true) ∧
    ∃ e, Denied (Run.sampleSource (Run.sampleRsaKey 7 5 6 5))
      { clock := ⟨0, 0⟩, network := { reachable := true, replies := [.truncated 200 []] } } e ∧
      e.transient = false := by
  obtain ⟨form', elsewhere⟩ := Option.isSome_iff_exists.mp isSome_form?_nowhere
  obtain ⟨form, signs⟩ := Run.isUsable_samples.1.exists_form
  generalize Run.sampleRsaKey 7 5 6 5 = k at *
  have nowhere (url : Url) : ¬Http.Names "token" url := by
    intro names
    have broken : Url.parse "token" = .error .withoutBase := rfl
    exact nomatch broken.symm.trans names.parsed
  constructor
  · have lost : Loses "token" { reachable := true, replies := [] } .unusable := .unusable nowhere
    obtain ⟨failure, fails⟩ := lost.exists_granted
      (a := { Run.sampleSource k with tokenUri := "token" }) form' ⟨0, 0⟩
    exact ⟨_, denied_of_granted rfl elsewhere fails, nowhere, rfl⟩
  · have lost :
        Loses (Run.sampleSource k).tokenUri { reachable := true, replies := [.truncated 200 []] } .cut :=
      .cut names_sample rfl rfl (by decide)
    obtain ⟨failure, fails⟩ := lost.exists_granted form ⟨0, 0⟩
    exact ⟨_, denied_of_granted rfl signs fails, rfl⟩

end Token

end WorkspaceSchema
