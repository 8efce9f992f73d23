import WorkspaceSchema.Proofs.Run.Sample
import WorkspaceSchema.Proofs.Text.Utf8
import WorkspaceSchema.Provision.Store

/-!
# What authorizes requests to a directory

A client of a service account makes calls, while time passes.  Each call is a `Visit`: perhaps a token is
asked for, and perhaps a request is sent.  `Visit.Lawful` says once when either happens and what the request
carries, given the token that was granted last, and `exists_visit` finds a lawful visit in whatever a call
does.  The session holds the token that was granted last, so by induction every visit of a run is lawful
(`requests_are_authorized`).

A header can hold a token if and only if no byte of its value is a control byte other than the tab
(`Token.headerValue?_eq`).
-/

namespace WorkspaceSchema

/-! ### Header values -/

namespace Token

/-- Whether a byte may stand in the value of a header: of the control bytes only the tab. -/
def isHeaderByte (b : UInt8) : Bool :=
  (0x20 ≤ b && b ≠ 0x7F) || b = 0x09

/-- The value that carries a token. -/
def credential (t : Token) : String :=
  t.tokenType ++ " " ++ t.text

/-- A character may stand in a header if all its bytes may. -/
lemma isHeaderChar_eq_true_iff {c : Char} :
    isHeaderChar c = true ↔ ∀ b ∈ String.utf8EncodeChar c, isHeaderByte b = true := by
  by_cases ascii : c.toNat < 128
  · have same : ∀ n < 128, isHeaderChar (Char.ofNat n) = isHeaderByte (UInt8.ofNat n) := by decide
    rw [Utf8.utf8EncodeChar_of_lt ascii, List.forall_mem_singleton, ← same c.toNat ascii, Char.ofNat_toNat]
  · refine iff_of_true ?_ fun b member => ?_
    · unfold isHeaderChar
      simp only [Bool.or_eq_true, Bool.and_eq_true, decide_eq_true_eq]
      exact .inl ⟨by omega, by omega⟩
    · have high := Utf8.le_of_mem_utf8EncodeChar (Nat.le_of_not_lt ascii) member
      unfold isHeaderByte
      simp only [Bool.or_eq_true, Bool.and_eq_true, decide_eq_true_eq]
      refine .inl ⟨UInt8.le_iff_toNat_le.mpr (Nat.le_trans (by decide) high), ?_⟩
      rintro rfl
      exact absurd high (by decide)

/-- A header holds a token if no byte is in the way. -/
lemma headerValue?_eq (t : Token) :
    t.headerValue? = if (Utf8.ofString t.credential).all isHeaderByte then some t.credential else none := by
  have same : t.credential.toList.all isHeaderChar = (Utf8.ofString t.credential).all isHeaderByte := by
    unfold Utf8.ofString Utf8.encode
    rw [Bool.eq_iff_iff, List.all_eq_true, List.all_eq_true, List.forall_mem_flatMap]
    exact forall₂_congr fun c member => isHeaderChar_eq_true_iff
  rw [← same]
  rfl

end Token

namespace Credentials

/-- A token becomes a header if no byte is in the way. -/
lemma bearer_of_legal {t : Token}
    (legal : ∀ byte ∈ Utf8.ofString t.credential, Token.isHeaderByte byte = true) :
    bearer t = .ok [("authorization", t.credential)] := by
  unfold bearer
  rw [t.headerValue?_eq, if_pos (List.all_eq_true.mpr legal)]

/-- Otherwise there is no header. -/
lemma bearer_of_illegal {t : Token}
    (illegal : ∃ byte ∈ Utf8.ofString t.credential, Token.isHeaderByte byte = false) :
    bearer t = .error ⟨false, .header⟩ := by
  unfold bearer
  rw [t.headerValue?_eq, if_neg (by simpa using illegal)]

/-- No byte is in the way, or some byte is. -/
lemma legal_or_illegal (t : Token) :
    (∀ byte ∈ Utf8.ofString t.credential, Token.isHeaderByte byte = true) ∨
      ∃ byte ∈ Utf8.ofString t.credential, Token.isHeaderByte byte = false := by
  by_cases legal : ∀ byte ∈ Utf8.ofString t.credential, Token.isHeaderByte byte = true
  · exact .inl legal
  · push Not at legal
    simpa using Or.inr legal

/-- Headers are made of a token that a header holds. -/
lemma exists_of_bind_bearer {had : Except Token.Error Token} {headers : Http.Headers}
    (made : had.bind bearer = .ok headers) : ∃ t, had = .ok t ∧
      (∀ byte ∈ Utf8.ofString t.credential, Token.isHeaderByte byte = true) ∧
      headers = [("authorization", t.credential)] := by
  cases had with
  | error e => cases made
  | ok t =>
    change bearer t = _ at made
    rcases legal_or_illegal t with legal | illegal
    · rw [bearer_of_legal legal] at made
      exact ⟨t, rfl, legal, (Except.ok.inj made).symm⟩
    · rw [bearer_of_illegal illegal] at made
      cases made

/-- There are no headers without a token, or if some byte is in the way. -/
lemma bind_bearer_eq_error_iff {had : Except Token.Error Token} {e : Token.Error} :
    had.bind bearer = .error e ↔ had = .error e ∨ e = ⟨false, .header⟩ ∧ ∃ t, had = .ok t ∧
      ∃ byte ∈ Utf8.ofString t.credential, Token.isHeaderByte byte = false := by
  cases had with
  | error e' => simp [Except.bind]
  | ok t =>
    change bearer t = _ ↔ _
    rcases legal_or_illegal t with legal | illegal
    · rw [bearer_of_legal legal]
      refine iff_of_false (fun h => nomatch h) ?_
      rintro (⟨⟨⟩⟩ | ⟨-, t', same, byte, member, illegal⟩)
      obtain rfl := Except.ok.inj same
      rw [legal byte member] at illegal
      cases illegal
    · rw [bearer_of_illegal illegal]
      constructor
      · intro same
        exact .inr ⟨(Except.error.inj same).symm, t, rfl, illegal⟩
      · rintro (⟨⟨⟩⟩ | ⟨rfl, -⟩)
        rfl

end Credentials

/-! ### Calls -/

namespace Directory.Client

/-- The order for a call. -/
def orderOf (c : Client) : Store.Call → Http.Headers → Http.Order
  | .list customer => c.order .get (c.schemasUrl customer) none
  | .insert customer schema => c.order .post (c.schemasUrl customer) (some (.json schema.print))

/-- How a call failed, if it did. -/
def failure? {α : Type} : Except Error α → Option Error
  | .ok _ => none
  | .error e => some e

/-- Makes a call. -/
def make (c : Client) (call : Store.Call) (b : Session) : Option Error × Session :=
  match call with
  | .list customer => ((c.listSchemas customer).runOn b).map failure? id
  | .insert customer schema => ((c.insertSchema customer schema).runOn b).map failure? id

/-- A list fails as the attempt does. -/
lemma make_list (c : Client) (customer : String) (b : Session) :
    (c.make (.list customer) b).1 = failure? ((c.listSchemas customer).runOn b).1 :=
  rfl

/-- What becomes known of a call: when it was made, and how it failed. -/
structure Report where
  call : Store.Call
  clock : Clock
  failure : Option Error

/-- A call, and what was sent for it. -/
structure Visit extends Report where
  renewal : Option Http.Exchange
  request : Option Http.Exchange

namespace Visit

variable (c : Client) (a : Account.Source)

/-- The exchanges of a visit, one after another. -/
def exchanges (v : Visit) : List Http.Exchange :=
  v.renewal.toList ++ v.request.toList

/-- The token that was granted last in some visits. -/
def lastGrant? (visits : List Visit) : Option Token :=
  (visits.filterMap fun v => a.grant? v.clock v.renewal).getLast?

/-- What a visit sends, and how it fails for want of credentials, `held` being the token that was granted
last before. -/
structure Lawful (held : Option Token) (v : Visit) : Prop where
  renews : a.Renews v.clock held v.renewal
  /-- Nothing is requested without headers. -/
  refused : ∀ e, (a.tokenFrom v.clock held v.renewal).bind Credentials.bearer = .error e →
    v.request = none ∧ v.failure = some (.authentication e)
  /-- A request has the headers, and does not fail for want of them. -/
  authorized : ∀ headers, (a.tokenFrom v.clock held v.renewal).bind Credentials.bearer = .ok headers →
    (∃ e, v.request = some e ∧ e.order = c.orderOf v.call headers) ∧
      ∀ e, v.failure ≠ some (.authentication e)

/-- A visit tells of a call in a session, which the call takes to another one. -/
structure Tells (call : Store.Call) (b : Session) (failure : Option Error) (b' : Session) (v : Visit) :
    Prop where
  report : v.toReport = ⟨call, b.clock, failure⟩
  lawful : v.Lawful c a b.token
  carries : Http.Carries b.network v.exchanges b'.network
  held : b'.token = (a.grant? v.clock v.renewal).or b.token

end Visit

variable {c : Client} {a : Account.Source}

/-- A request is a lawful visit. -/
lemma exists_visit_execute {α : Type} (account : c.credentials = .account a) (call : Store.Call)
    {method : Http.Method} {url : String} {body : Option Http.Body}
    (order : c.orderOf call = c.order method url body) (read : List UInt8 → Except Json.Error α)
    (b : Session) :
    ∃ v : Visit, v.Tells c a call b (failure? ((c.execute method url body read).runOn b).1)
      ((c.execute method url body read).runOn b).2 := by
  obtain ⟨renewal, renews, carries, -, result, held⟩ := Credentials.exists_renews a b
  rw [runOn_execute, account, Credentials.runOn_headers]
  generalize (Credentials.account a).token.runOn b = outcome at carries result held ⊢
  obtain ⟨_, b'⟩ := outcome
  dsimp only at carries result held
  subst result
  cases made : (a.tokenFrom b.clock b.token renewal).bind Credentials.bearer with
  | error e =>
    refine ⟨⟨⟨call, b.clock, some (.authentication e)⟩, renewal, none⟩, rfl, ⟨renews, ?refused, ?authorized⟩,
      ?carries, held⟩
    case refused =>
      intro e' made'
      obtain rfl := Except.error.inj (made.symm.trans made')
      exact ⟨rfl, rfl⟩
    case authorized =>
      intro headers made'
      cases made.symm.trans made'
    case carries =>
      rw [Visit.exchanges, Option.toList_none, List.append_nil]
      exact carries
  | ok headers =>
    let request := (c.order method url body headers).exchange b'.network
    refine ⟨⟨⟨call, b.clock, failure? (received read request.answer)⟩, renewal, some request⟩, rfl,
      ⟨renews, ?refused, ?authorized⟩, carries.append (.single _ _), held⟩
    case refused =>
      intro e made'
      cases made.symm.trans made'
    case authorized =>
      intro headers' made'
      obtain rfl := Except.ok.inj (made.symm.trans made')
      refine ⟨⟨request, rfl, ?_⟩, fun e fails => ?_⟩
      · rw [order]
        rfl
      · -- What came back for a request never counts as a want of credentials.
        cases came : received read request.answer with
        | ok x =>
          rw [came] at fails
          cases fails
        | error error =>
          rw [came] at fails
          have other := credentials?_of_received came
          rw [Option.some.inj fails] at other
          cases other

/-- An event that is told before a call changes nothing about it. -/
lemma Visit.Tells.of_told {v : Visit} {call : Store.Call} {b b' : Session} {failure : Option Error}
    {event : LogEvent} (h : v.Tells c a call (b.told event) failure b') : v.Tells c a call b failure b' :=
  ⟨h.report, h.lawful, h.carries, h.held⟩

/-- An event that is told after a call changes nothing about it. -/
lemma Visit.Tells.told {v : Visit} {call : Store.Call} {b b' : Session} {failure : Option Error}
    (h : v.Tells c a call b failure b') (event : LogEvent) : v.Tells c a call b failure (b'.told event) :=
  ⟨h.report, h.lawful, h.carries, h.held⟩

/-- A call is a lawful visit. -/
lemma exists_visit (account : c.credentials = .account a) (call : Store.Call) (b : Session) :
    ∃ v : Visit, v.Tells c a call b (c.make call b).1 (c.make call b).2 := by
  unfold make
  cases call with
  | list customer =>
    obtain ⟨v, tells⟩ := exists_visit_execute account (.list customer) rfl SchemaList.parse
      (b.told (.listing (c.schemasUrl customer)))
    dsimp only
    rw [runOn_listSchemas]
    generalize Attempt.runOn _ (b.told _) = outcome at tells ⊢
    obtain ⟨e | l, b'⟩ := outcome
    · exact ⟨v, tells.of_told⟩
    · exact ⟨v, tells.of_told.told _⟩
  | insert customer schema =>
    obtain ⟨v, tells⟩ := exists_visit_execute account (.insert customer schema) rfl Schema.parse
      (b.told (.inserting (c.schemasUrl customer) schema.schemaName))
    dsimp only
    rw [runOn_insertSchema]
    generalize Attempt.runOn _ (b.told _) = outcome at tells ⊢
    obtain ⟨e | created, b'⟩ := outcome
    · exact ⟨v, tells.of_told⟩
    · exact ⟨v, tells.of_told.told _⟩

/-! ### Runs -/

/-- What happens to a client: a call is made, or the clocks move. -/
inductive Event where
  | call (call : Store.Call)
  | moves (clock : Clock)

/-- Lets events happen, and reports the calls. -/
def run (c : Client) : List Event → Session → List Report × Session
  | [], b => ([], b)
  | .call call :: events, b =>
    let (failure, b') := c.make call b
    (c.run events b').map (⟨call, b.clock, failure⟩ :: ·) id
  | .moves clock :: events, b => c.run events { b with clock }

/-- One call has one report. -/
lemma run_singleton (c : Client) (call : Store.Call) (b : Session) :
    (c.run [.call call] b).1 = [⟨call, b.clock, (c.make call b).1⟩] :=
  rfl

namespace Visit

/-- What is granted in a visit is what is granted last. -/
lemma lastGrant?_concat (visits : List Visit) (v : Visit) :
    lastGrant? a (visits ++ [v]) = (a.grant? v.clock v.renewal).or (lastGrant? a visits) := by
  unfold lastGrant?
  rw [List.filterMap_append]
  cases granted : a.grant? v.clock v.renewal with
  | none => simp [granted]
  | some t => simp [granted]

end Visit

/-- The calls of a run are lawful visits, one after another. -/
lemma exists_visits (account : c.credentials = .account a) (events : List Event) {b : Session}
    {past : List Visit} (held : b.token = Visit.lastGrant? a past) :
    ∃ visits : List Visit, visits.map (·.toReport) = (c.run events b).1 ∧
      Http.Carries b.network (visits.flatMap Visit.exchanges) (c.run events b).2.network ∧
      ∀ before v after, visits = before ++ v :: after →
        v.Lawful c a (Visit.lastGrant? a (past ++ before)) := by
  induction events generalizing b past with
  | nil =>
    refine ⟨[], rfl, .nil _, fun before v after same => ?_⟩
    cases before <;> cases same
  | cons event events ih =>
    cases event with
    | moves clock => exact ih held
    | call call =>
      obtain ⟨v, report, lawful, carries, held'⟩ := exists_visit account call b
      have later : (c.make call b).2.token = Visit.lastGrant? a (past ++ [v]) := by
        rw [Visit.lastGrant?_concat, ← held]
        exact held'
      obtain ⟨visits, reports, carries', lawful'⟩ := ih later
      refine ⟨v :: visits, ?_, carries.append carries', fun before v' after same => ?_⟩
      · rw [List.map_cons, report, reports]
        rfl
      · cases before with
        | nil =>
          obtain ⟨rfl, -⟩ := List.cons.inj same
          rw [List.append_nil, ← held]
          exact lawful
        | cons first before =>
          obtain ⟨rfl, others⟩ := List.cons.inj same
          have here := lawful' before v' after others
          rwa [List.append_assoc] at here

/-! ### The headers of a request -/

/-- The order for a call has no other headers than those it is given. -/
lemma headers_orderOf (c : Client) (call : Store.Call) (headers : Http.Headers) :
    (c.orderOf call headers).headers = headers := by
  cases call <;> rfl

end Directory.Client

namespace Http

/-- The header for a user is there if a URL names one. -/
lemma Client.values_separateUser (url : Url) :
    (separateUser url).2.values "authorization" =
      (url.user?.map fun user => (userHeader user.1 user.2).2).toList := by
  unfold separateUser
  cases url.user? <;> rfl

/-- A text that is taken for a target is a URL, of which the user is separated. -/
lemma Client.exists_parse_of_target {text : String} {place : Url} {user : Headers}
    (taken : target text = .ok (place, user)) :
    ∃ url, Url.parse text = .ok url ∧ separateUser url = (place, user) := by
  obtain ⟨located, -⟩ := target_eq_ok_iff.mp taken
  obtain ⟨url, parsed, separated, -⟩ := locate_eq_ok_iff.mp located
  exact ⟨url, parsed, separated⟩

/-- A request is authorized by the user that its target names, if it names one, and then by the headers of
its order. -/
lemma Order.values_of_request? {o : Order} {r : Request} (about : o.request? = some r) :
    ∃ url, Url.parse o.target = .ok url ∧ r.headers.values "authorization" =
      (url.user?.map fun user => (Client.userHeader user.1 user.2).2).toList ++
        o.headers.values "authorization" := by
  unfold request? at about
  rcases taken : Client.target o.target with failure | ⟨place, user⟩
  · rw [taken] at about
    cases about
  · rw [taken] at about
    cases about
    obtain ⟨url, parsed, separated⟩ := Client.exists_parse_of_target taken
    refine ⟨url, parsed, ?_⟩
    have named := Client.values_separateUser url
    rw [separated] at named
    rw [← named]
    unfold Headers.values
    cases o.body <;> simp

end Http

namespace Directory.Client

namespace Visit

variable {held : Option Token} {v : Visit}

/-- A request is sent unless there are no headers. -/
lemma Lawful.request_eq_none_iff (h : v.Lawful c a held) :
    v.request = none ↔ ∃ e, v.failure = some (.authentication e) := by
  cases made : (a.tokenFrom v.clock held v.renewal).bind Credentials.bearer with
  | error e =>
    obtain ⟨none, fails⟩ := h.refused e made
    exact iff_of_true none ⟨e, fails⟩
  | ok headers =>
    obtain ⟨⟨e, sent, -⟩, other⟩ := h.authorized headers made
    refine iff_of_false ?_ fun ⟨e, fails⟩ => other e fails
    rw [sent]
    exact Option.some_ne_none e

/-- A call fails for want of credentials with the error with which the headers fail. -/
lemma Lawful.failure_eq_authentication_iff (h : v.Lawful c a held) (e : Token.Error) :
    v.failure = some (.authentication e) ↔
      (a.tokenFrom v.clock held v.renewal).bind Credentials.bearer = .error e := by
  cases made : (a.tokenFrom v.clock held v.renewal).bind Credentials.bearer with
  | error e' =>
    rw [(h.refused e' made).2]
    simp
  | ok headers => simpa using (h.authorized headers made).2 e

end Visit

/-- Whatever happens to a new client of a service account, a request to the directory has one header of the
credentials, and beside it only one for the user if its place names one.  The header holds the token that was
granted last, which was granted for this very call or lives on for more than ten seconds, and no byte of it
is a control byte other than the tab.  If there is no such token, the call fails with the error of the
credentials, and no request is sent for it. -/
theorem requests_are_authorized {c : Client} {a : Account.Source} (account : c.credentials = .account a)
    {b : Session} (fresh : b.token = none) (events : List Event) :
    ∃ visits : List Visit, visits.map (·.toReport) = (c.run events b).1 ∧
      Http.Carries b.network (visits.flatMap Visit.exchanges) (c.run events b).2.network ∧
      ∀ before v after, visits = before ++ v :: after →
        a.Renews v.clock (Visit.lastGrant? a before) v.renewal ∧
        (∀ e ∈ v.request, ∃ t value, Visit.lastGrant? a (before ++ [v]) = some t ∧
          value = t.tokenType ++ " " ++ t.text ∧
          (∀ byte ∈ Utf8.ofString value, Token.isHeaderByte byte = true) ∧
          e.order = c.orderOf v.call [("authorization", value)] ∧
          (∀ r, e.order.request? = some r → ∃ url, Url.parse e.order.target = .ok url ∧
            r.headers.values "authorization" =
              (url.user?.map fun user => (Http.Client.userHeader user.1 user.2).2).toList ++ [value]) ∧
          (a.grant? v.clock v.renewal = some t ∨ t.expiresAt = none ∨
            ∃ expiry, t.expiresAt = some expiry ∧ v.clock.steady + 10 < expiry)) ∧
        (v.request = none ↔ ∃ e, v.failure = some (.authentication e)) ∧
        ∀ e, v.failure = some (.authentication e) ↔
          a.tokenFrom v.clock (Visit.lastGrant? a before) v.renewal = .error e ∨
          e = ⟨false, .header⟩ ∧ ∃ t,
            a.tokenFrom v.clock (Visit.lastGrant? a before) v.renewal = .ok t ∧
            ∃ byte ∈ Utf8.ofString (t.tokenType ++ " " ++ t.text), Token.isHeaderByte byte = false := by
  have start : b.token = Visit.lastGrant? a [] := fresh
  obtain ⟨visits, reports, carries, lawful⟩ := exists_visits account events start
  refine ⟨visits, reports, carries, fun before v after same => ?_⟩
  have here : v.Lawful c a (Visit.lastGrant? a before) := lawful before v after same
  refine ⟨here.renews, fun e member => ?_, here.request_eq_none_iff, fun e =>
    (here.failure_eq_authentication_iff e).trans Credentials.bind_bearer_eq_error_iff⟩
  cases made : (a.tokenFrom v.clock (Visit.lastGrant? a before) v.renewal).bind Credentials.bearer with
  | error error =>
    rw [(here.refused error made).1] at member
    cases member
  | ok headers =>
    obtain ⟨t, had, legal, rfl⟩ := Credentials.exists_of_bind_bearer made
    obtain ⟨⟨request, sent, order⟩, -⟩ := here.authorized _ made
    obtain rfl : request = e := Option.some.inj (sent.symm.trans member)
    obtain ⟨last, origin⟩ := here.renews.of_tokenFrom had
    refine ⟨t, t.credential, (Visit.lastGrant?_concat before v).trans last, rfl, legal, order, ?_, ?_⟩
    · intro r about
      obtain ⟨url, parsed, values⟩ := Http.Order.values_of_request? about
      rw [order, headers_orderOf] at values
      exact ⟨url, parsed, values⟩
    · refine origin.imp_right fun lives => ?_
      rcases Token.expiresWithin_eq_false_iff.mp lives with none | ⟨expiry, expires, -, later⟩
      · exact .inl none
      · exact .inr ⟨expiry, expires, later⟩

/-! ### A place that names a user -/

/-- A client of the account with one of the sample keys, where the place of the directory may name a
user. -/
def sampleAccountClient (k : RsaKey) (user : String) : Client :=
  ⟨.account (Run.sampleSource k), "http://" ++ user ++ "[::1]", .ofSeconds 30⟩

/-- A session in which a token is granted, and no schema is found. -/
def sampleStart : Session where
  clock := ⟨0, 0⟩
  network := { reachable := true, replies := Run.sampleReplies "A" }

/-- The token that is granted goes into a header. -/
lemma headers_sample {k : RsaKey} {form : Http.Body} (signs : (Run.sampleSource k).form? ⟨0, 0⟩ = some form)
    (event : LogEvent) :
    ∃ b : Session, (Credentials.account (Run.sampleSource k)).headers.runOn (sampleStart.told event) =
        (.ok [("authorization", "Bearer A")], b) ∧
      b.network = {
        reachable := true
        replies := [.answer 200 [] (Utf8.ofString "\x7b\x7d")]
        sent := [⟨.post, "http://[::1]/token", [("content-type", form.contentType)], some form⟩] } := by
  have had := Run.runOn_token_sample signs (b := sampleStart.told event) rfl rfl rfl
  rw [Credentials.runOn_headers, had]
  exact ⟨_, rfl, rfl⟩

/-- The schemas are listed with the token that is granted, and with the headers for the user in front of
it. -/
lemma list_sample {k : RsaKey} {form : Http.Body} (signs : (Run.sampleSource k).form? ⟨0, 0⟩ = some form)
    {user : String} {headers : Http.Headers}
    (place : Http.Client.target ((sampleAccountClient k user).schemasUrl "c") =
      .ok (Run.samplePlace ["admin", "directory", "v1", "customer", "c", "schemas"], headers)) :
    (((sampleAccountClient k user).listSchemas "c").runOn sampleStart).1 = .ok [] ∧
      (((sampleAccountClient k user).listSchemas "c").runOn sampleStart).2.network.sent.map
        (·.headers.values "authorization") = [[], headers.values "authorization" ++ ["Bearer A"]] := by
  let event : LogEvent := .listing ((sampleAccountClient k user).schemasUrl "c")
  obtain ⟨b, made, network⟩ := headers_sample signs event
  have made' : (sampleAccountClient k user).credentials.headers.runOn (sampleStart.told event) = _ := made
  rw [runOn_listSchemas, runOn_execute, made']
  dsimp only
  rw [network]
  unfold order Http.Order.answer Http.Order.after Http.Client.send
  dsimp only
  rw [place]
  refine ⟨rfl, ?_⟩
  change [[], (([] ++ headers ++ [("authorization", "Bearer A")] : Http.Headers).values "authorization")] = _
  unfold Http.Headers.values
  simp

/-- A user in the place of the directory makes for a second header. -/
theorem two_headers_with_user :
    let c := sampleAccountClient (Run.sampleRsaKey 7 5 6 5) "u:p@"
    sampleStart.token = none ∧ ((c.listSchemas "c").runOn sampleStart).1 = .ok [] ∧
      ((c.listSchemas "c").runOn sampleStart).2.network.sent.map (·.headers.values "authorization") =
        [[], ["Basic dTpw", "Bearer A"]] := by
  obtain ⟨form, signs⟩ := Run.isUsable_samples.1.exists_form
  generalize Run.sampleRsaKey 7 5 6 5 = k at *
  have place : Http.Client.target ((sampleAccountClient k "u:p@").schemasUrl "c") =
      .ok (Run.samplePlace ["admin", "directory", "v1", "customer", "c", "schemas"],
        [("authorization", "Basic dTpw")]) := by
    change Http.Client.target "http://u:p@[::1]/admin/directory/v1/customer/c/schemas" = _
    rfl
  exact ⟨rfl, list_sample signs place⟩

/-- Without a user there is one header. -/
theorem requests_are_authorized_of_sample :
    let c := sampleAccountClient (Run.sampleRsaKey 7 5 6 5) ""
    c.credentials = .account (Run.sampleSource (Run.sampleRsaKey 7 5 6 5)) ∧ sampleStart.token = none ∧
      ∃ (e : Http.Exchange) (value : String),
        e.order = c.orderOf (.list "c") [("authorization", value)] ∧
        ∀ byte ∈ Utf8.ofString value, Token.isHeaderByte byte = true := by
  obtain ⟨form, signs⟩ := Run.isUsable_samples.1.exists_form
  generalize Run.sampleRsaKey 7 5 6 5 = k at *
  have place : Http.Client.target ((sampleAccountClient k "").schemasUrl "c") =
      .ok (Run.samplePlace ["admin", "directory", "v1", "customer", "c", "schemas"], []) := by
    change Http.Client.target "http://[::1]/admin/directory/v1/customer/c/schemas" = _
    rfl
  have succeeds : ((sampleAccountClient k "").make (.list "c") sampleStart).1 = none := by
    rw [make_list, (list_sample signs place).1]
    rfl
  obtain ⟨visits, reports, -, lawful⟩ := requests_are_authorized
    (c := sampleAccountClient k "") rfl (b := sampleStart) rfl [.call (.list "c")]
  rw [run_singleton, succeeds] at reports
  obtain ⟨v, rfl, told⟩ := List.map_eq_singleton_iff.mp reports
  obtain ⟨-, authorized, unsent, -⟩ := lawful [] v [] rfl
  have sent : v.request ≠ none := by
    rw [ne_eq, unsent, told]
    rintro ⟨e, ⟨⟩⟩
  obtain ⟨e, member⟩ := Option.ne_none_iff_exists'.mp sent
  obtain ⟨t, value, -, -, legal, order, -⟩ := authorized e member
  rw [told] at order
  exact ⟨rfl, rfl, e, value, order, legal⟩

end Directory.Client

end WorkspaceSchema
