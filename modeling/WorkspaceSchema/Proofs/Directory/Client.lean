import WorkspaceSchema.Directory.Client
import WorkspaceSchema.Proofs.Credentials

/-!
# Asking the directory

A request to the directory is one order, sent with the headers that the credentials give.
`runOn_execute` says what it does to a session: nothing beyond asking for the headers if there are
none, and otherwise the one order, whose answer alone decides how the request ends.

`Approach` puts the order together with the order for a token that may come before it.  For the
credentials of an account, `exists_approach` finds both in whatever a request does.
-/

namespace WorkspaceSchema

/-- An exchange that was answered with a response that grants the request, with a body in full that
reads as a value. -/
def Http.Exchange.Decodes {ε α : Type} (e : Http.Exchange) (read : List UInt8 → Except ε α) (a : α) :
    Prop :=
  ∃ response bytes, e.answer = .ok response ∧ response.isSuccess = true ∧
    response.body = .ok bytes ∧ read bytes = .ok a

namespace Directory.Client

variable {α : Type}

/-- The order for a request. -/
def order (c : Client) (method : Http.Method) (url : String) (body : Option Http.Body)
    (headers : Http.Headers) : Http.Order :=
  ⟨c.transport, method, url, headers, body⟩

/-- What a request comes to by what came back for it. -/
def received (read : List UInt8 → Except Json.Error α)
    (answer : Except Http.Failure Http.Response) : Except Error α :=
  match answer with
  | .error failure => .error (.ofFailure failure)
  | .ok response =>
    if response.isSuccess then
      match response.bytes with
      | .error failure => .error (.ofFailure failure)
      | .ok bytes =>
        match read bytes with
        | .ok a => .ok a
        | .error e => .error (.deserialization e.message)
    else .error (.ofResponse response)

/-- What is told about what came back for a request. -/
def remarks (answer : Except Http.Failure Http.Response) : List LogEvent :=
  match answer with
  | .error _ => []
  | .ok response =>
    if response.isSuccess then []
    else
      match response.body with
      | .error _ => []
      | .ok _ => [.refused response.status]

/-- A request succeeds exactly if its exchange brought what can be read. -/
lemma received_eq_ok_iff {read : List UInt8 → Except Json.Error α} {e : Http.Exchange} {a : α} :
    received read e.answer = .ok a ↔ e.Decodes read a := by
  unfold received Http.Exchange.Decodes Http.Response.bytes
  rcases e.answer with failure | response
  · simp
  · cases success : response.isSuccess with
    | false => simp [success]
    | true =>
      rcases body : response.body with obstacle | bytes
      · simp [success, body]
      · rcases parsed : read bytes with error | value <;> simp [success, body, parsed]

/-- What came back never counts as a want of credentials. -/
lemma credentials?_of_received {read : List UInt8 → Except Json.Error α}
    {answer : Except Http.Failure Http.Response} {e : Error} (h : received read answer = .error e) :
    e.credentials? = none := by
  have ofFailure (f : Http.Failure) : (Error.ofFailure f).credentials? = none := by
    unfold Error.ofFailure
    split <;> rfl
  unfold received at h
  rcases answer with failure | response
  · cases h
    exact ofFailure failure
  · dsimp only at h
    split at h
    · split at h
      · cases h
        exact ofFailure _
      · split at h
        · cases h
        · cases h
          rfl
    · cases h
      unfold Error.ofResponse
      split
      · exact ofFailure _
      · split <;> rfl

/-- Without headers nothing is sent; otherwise what came back decides. -/
lemma runOn_execute (c : Client) (method : Http.Method) (url : String) (body : Option Http.Body)
    (read : List UInt8 → Except Json.Error α) (b : Session) :
    (c.execute method url body read).runOn b = match c.credentials.headers.runOn b with
      | (.error e, b') => (.error (.authentication e), b')
      | (.ok headers, b') =>
        (received read ((c.order method url body headers).answer b'.network),
          { b' with
            network := (c.order method url body headers).after b'.network
            log := b'.log ++ remarks ((c.order method url body headers).answer b'.network) }) := by
  unfold execute
  rw [Attempt.runOn_bind, Attempt.runOn_mapError]
  rcases c.credentials.headers.runOn b with ⟨e | headers, b'⟩
  · rfl
  · dsimp only [Except.mapError]
    rw [Attempt.runOn_bind, Attempt.runOn_mapError, Attempt.runOn_onNetwork]
    unfold received remarks order Http.Order.answer Http.Order.after
    dsimp only
    rcases c.transport.send method url headers body b'.network with ⟨failure | response, n⟩
    · simp [Except.mapError]
    · unfold Http.Response.bytes
      dsimp only [Except.mapError]
      cases response.isSuccess with
      | true =>
        rcases response.body with obstacle | bytes
        · simp
        · dsimp only
          cases read bytes <;> simp
      | false =>
        rcases body : response.body with obstacle | bytes
        · simp [Error.ofResponse, Http.Response.bytes, body]
        · simp [Attempt.runOn_bind, Session.told]

/-- A request takes some exchanges, if any. -/
lemma exists_carries_execute {c : Client} {a : Account.Source} (account : c.credentials = .account a)
    (method : Http.Method) (url : String) (body : Option Http.Body)
    (read : List UInt8 → Except Json.Error α) (b : Session) :
    ∃ es, Http.Carries b.network es ((c.execute method url body read).runOn b).2.network := by
  obtain ⟨es, carries⟩ := Credentials.exists_carries_token a b
  rw [runOn_execute, account, Credentials.runOn_headers]
  cases ((Credentials.account a).token.runOn b).1.bind Credentials.bearer with
  | error e => exact ⟨es, carries⟩
  | ok headers => exact ⟨_, carries.append (.single _ _)⟩

/-- Nothing can be read for a client that has no patience. -/
lemma runOn_execute_of_impatient {c : Client} (impatient : c.transport.patience = .none)
    (method : Http.Method) (url : String) (body : Option Http.Body)
    (read : List UInt8 → Except Json.Error α) (b : Session) (x : α) :
    ((c.execute method url body read).runOn b).1 ≠ .ok x := by
  rw [runOn_execute]
  rcases c.credentials.headers.runOn b with ⟨e | headers, b'⟩
  · exact fun h => nomatch h
  · intro read
    obtain ⟨response, _, answered, -⟩ := received_eq_ok_iff (e := Http.Order.exchange _ _).mp read
    exact (c.order method url body headers).answer_of_impatient b'.network impatient response answered

/-- Without headers a request fails with the error of the credentials. -/
lemma runOn_execute_of_error (c : Client) (method : Http.Method) (url : String)
    (body : Option Http.Body) (read : List UInt8 → Except Json.Error α) {b b' : Session}
    {e : Token.Error} (fails : c.credentials.headers.runOn b = (.error e, b')) :
    (c.execute method url body read).runOn b = (.error (.authentication e), b') := by
  rw [runOn_execute, fails]

/-- A request fails with the error of the credentials if there are no headers, and otherwise with an
error that has nothing to do with credentials. -/
lemma runOn_execute_eq_error (c : Client) (method : Http.Method) (url : String)
    (body : Option Http.Body) (read : List UInt8 → Except Json.Error α) {b b' : Session} {e : Error}
    (fails : (c.execute method url body read).runOn b = (.error e, b')) :
    (∃ error, e = .authentication error ∧ c.credentials.headers.runOn b = (.error error, b')) ∨
      ∃ headers, (c.credentials.headers.runOn b).1 = .ok headers ∧ e.credentials? = none := by
  rw [runOn_execute] at fails
  generalize c.credentials.headers.runOn b = outcome at fails ⊢
  rcases outcome with ⟨error | headers, b''⟩
  · obtain ⟨same, rfl⟩ := Prod.mk.inj fails
    exact .inl ⟨error, (Except.error.inj same).symm, rfl⟩
  · exact .inr ⟨headers, rfl, credentials?_of_received (congrArg Prod.fst fails)⟩

/-! ### Listing and inserting -/

/-- The schemas of a customer are listed with one request. -/
lemma runOn_listSchemas (c : Client) (customer : String) (b : Session) :
    (c.listSchemas customer).runOn b =
      match (c.execute .get (c.schemasUrl customer) none SchemaList.parse).runOn
          (b.told (.listing (c.schemasUrl customer))) with
      | (.error e, b') => (.error e, b')
      | (.ok l, b') => (.ok l.schemas, b'.told (.listed l.schemas.length)) := by
  unfold listSchemas
  rw [Attempt.runOn_bind, Attempt.runOn_tell]
  dsimp only
  rw [Attempt.runOn_bind]
  rcases Attempt.runOn _ (b.told _) with ⟨e | l, b'⟩
  · rfl
  · dsimp only
    rw [Attempt.runOn_bind, Attempt.runOn_tell]
    rfl

/-- A schema is inserted with one request. -/
lemma runOn_insertSchema (c : Client) (customer : String) (schema : Schema) (b : Session) :
    (c.insertSchema customer schema).runOn b =
      match (c.execute .post (c.schemasUrl customer) (some (.json schema.print)) Schema.parse).runOn
          (b.told (.inserting (c.schemasUrl customer) schema.schemaName)) with
      | (.error e, b') => (.error e, b')
      | (.ok created, b') => (.ok created, b'.told (.inserted created.schemaId)) := by
  unfold insertSchema
  rw [Attempt.runOn_bind, Attempt.runOn_tell]
  dsimp only
  rw [Attempt.runOn_bind]
  rcases Attempt.runOn _ (b.told _) with ⟨e | created, b'⟩
  · rfl
  · dsimp only
    rw [Attempt.runOn_bind, Attempt.runOn_tell]
    rfl

/-! ### Approaches -/

/-- What a request to the directory takes: a token, where a new one is asked for, and the request
itself, where it is sent. -/
structure Approach where
  renewal : Option Http.Exchange := none
  call : Option Http.Exchange := none

namespace Approach

/-- The exchanges of an approach, one after another. -/
def exchanges (p : Approach) : List Http.Exchange :=
  p.renewal.toList ++ p.call.toList

/-- The requests for tokens so far. -/
def asked (p : Approach) (before : List Http.Exchange) : List Http.Exchange :=
  before ++ p.renewal.toList

/-- An approach for a request takes a session to another one and comes to a result, where `t` is the
token that came of the requests for tokens before. -/
structure Fits (p : Approach) (a : Account.Source) (before : List Http.Exchange) (t : Token)
    (read : List UInt8 → Except Json.Error α) (order : Http.Headers → Http.Order) (b : Session)
    (result : Except Error α) (b' : Session) : Prop where
  carries : Http.Carries b.network p.exchanges b'.network
  clock : b'.clock = b.clock
  renewal_order : ∀ e ∈ p.renewal, ∃ form, a.form? b.clock = some form ∧ e.order = a.order form
  renewal_due : p.renewal.isSome = true ↔ t.expiresWithin Token.refreshMargin b.clock = true
  call_sent : p.call.isSome = true ↔
    ∃ t', a.lastToken? b.clock (p.asked before) = some t' ∧ t'.headerValue?.isSome = true
  call_order : ∀ e ∈ p.call, ∃ headers, e.order = order headers
  answered : ∀ x, result = .ok x ↔ ∃ e ∈ p.call, e.Decodes read x
  held : ∀ t', a.lastToken? b.clock (p.asked before) = some t' → b'.token = some t'

variable {p : Approach} {a : Account.Source} {before : List Http.Exchange} {t : Token}
  {read : List UInt8 → Except Json.Error α} {order : Http.Headers → Http.Order} {b b' : Session}

/-- A new token that was asked for last is the one granted. -/
lemma grants_of_lastToken? {now : Clock} (last : a.lastToken? now (p.asked before) = some t) :
    ∀ e ∈ p.renewal, a.Grants now e t := by
  intro e member
  rw [Option.mem_def] at member
  rw [asked, member, Option.toList_some] at last
  exact a.grants_of_lastToken? last

/-- A request that succeeds was sent, with a token that is held from then on. -/
lemma Fits.exists_token {x : α} (h : p.Fits a before t read order b (.ok x) b') :
    ∃ t', a.lastToken? b.clock (p.asked before) = some t' ∧ b'.token = some t' := by
  obtain ⟨e, member, _⟩ := (h.answered x).mp rfl
  obtain ⟨t', last, _⟩ := h.call_sent.mp (Option.isSome_of_mem member)
  exact ⟨t', last, h.held t' last⟩

end Approach

/-- A request for an account, of which a token is held, takes an approach. -/
lemma exists_approach {c : Client} {a : Account.Source} (account : c.credentials = .account a)
    (method : Http.Method) (url : String) (body : Option Http.Body)
    (read : List UInt8 → Except Json.Error α) {b : Session} {t : Token} {form : Http.Body}
    {before : List Http.Exchange} (signs : a.form? b.clock = some form)
    (last : a.lastToken? b.clock before = some t) (held : b.token = some t) :
    ∃ p : Approach, p.Fits a before t read (c.order method url body) b
      ((c.execute method url body read).runOn b).1
      ((c.execute method url body read).runOn b).2 := by
  obtain ⟨renewal, carries, clock, order, due, sent, keeps⟩ :=
    Credentials.exists_renewal a signs last held
  have renewed : ∀ e ∈ renewal, ∃ form, a.form? b.clock = some form ∧ e.order = a.order form :=
    fun e member => ⟨form, signs, order e member⟩
  rw [runOn_execute, account]
  generalize (Credentials.account a).headers.runOn b = outcome at carries clock sent keeps ⊢
  rcases outcome with ⟨e | headers, b'⟩
  · refine ⟨⟨renewal, none⟩, ?_, clock, renewed, due, ?_, by simp, by simp, keeps⟩
    · rw [Approach.exchanges, Option.toList_none, List.append_nil]
      exact carries
    · refine iff_of_false (by simp) ?_
      rintro ⟨t', had, made⟩
      obtain ⟨headers, made⟩ := Credentials.exists_bearer.mpr made
      cases (sent headers).mpr ⟨t', had, made⟩
  · refine ⟨⟨renewal, some ((c.order method url body headers).exchange b'.network)⟩,
      carries.append (.single _ _), clock, renewed, due, ?_, ?_, fun x => ?_, keeps⟩
    · obtain ⟨t', had, made⟩ := (sent headers).mp rfl
      exact iff_of_true rfl ⟨t', had, Credentials.exists_bearer.mp ⟨headers, made⟩⟩
    · intro e member
      obtain rfl := Option.some.inj member
      exact ⟨headers, rfl⟩
    · have answered : received read ((c.order method url body headers).exchange b'.network).answer =
          .ok x ↔ _ := received_eq_ok_iff
      exact answered.trans (by simp)

end Directory.Client

end WorkspaceSchema
