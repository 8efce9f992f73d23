import WorkspaceSchema.Proofs.Directory.Authorization

/-!
# How calls to a directory end

A call ends in one of seven ways, and this file lists them without the program: `Concludes` decides by the
headers that the credentials give, by what comes back for the request, and by how its body reads.  What comes
back is either lost on the way or complete, and a loss is late or not, so the ways exclude each other.

A call begins by telling an event, on which nothing depends (`Credentials.runOn_headers_told`).  With that,
`make_of_error` and `make_of_headers` say what a call does to a session for credentials of any sort, and
`calls_conclude` that both kinds of calls end in the ways listed and in no other.
-/

namespace WorkspaceSchema

namespace Credentials

variable (c : Credentials) (b : Session) (event : LogEvent)

/-- What was told has no influence on a token. -/
lemma runOn_token_told :
    c.token.runOn (b.told event) = ((c.token.runOn b).1, (c.token.runOn b).2.told event) := by
  cases c with
  | static => rfl
  | failing transient => rfl
  | account a =>
    rw [runOn_token, runOn_token]
    simp only [Session.told_clock, Session.told_token, Session.told_network]
    cases Token.reusable? b.clock b.token with
    | some t => rfl
    | none => cases a.form? b.clock <;> rfl

/-- What was told has no influence on headers. -/
lemma runOn_headers_told :
    c.headers.runOn (b.told event) = ((c.headers.runOn b).1, (c.headers.runOn b).2.told event) := by
  rw [runOn_headers, runOn_headers, runOn_token_told]

end Credentials

namespace Directory

/-! ### Kinds of errors -/

/-- What an error tells.  It is of one kind, and it tells what belongs to its kind and nothing else. -/
structure Error.Tells (e : Error) : Prop where
  kind : ∃! k, e.isOf k = true
  status : ∀ status, e.status? = some status ↔ ∃ code headers, e = .service status code headers
  code : ∀ code, e.code? = some code ↔
    (∃ status headers, e = .service status code headers) ∨ ∃ headers payload, e = .http code headers payload
  headers : ∀ headers, e.headers? = some headers ↔
    (∃ status code, e = .service status code headers) ∨ ∃ code payload, e = .http code headers payload
  payload : ∀ payload, e.payload? = some payload ↔ ∃ code headers, e = .http code headers payload
  credentials : ∀ error, e.credentials? = some error ↔ e = .authentication error

lemma Error.tells (e : Error) : e.Tells where
  kind := ⟨e.kind, decide_eq_true rfl, fun k is => (of_decide_eq_true is).symm⟩
  status status := by cases e <;> simp [Error.status?, eq_comm]
  code code := by cases e <;> simp [Error.code?, eq_comm]
  headers headers := by cases e <;> simp [Error.headers?, eq_comm]
  payload payload := by cases e <;> simp [Error.payload?, eq_comm]
  credentials error := by cases e <;> simp [Error.credentials?, eq_comm]

/-! ### The ways to end -/

/-- A failure to get something in the time allowed. -/
def IsLate (f : Http.Failure) : Prop :=
  ∃ url, f = .sending url .timedOut ∨ f = .reading url .timedOut

/-- What is counted as a timeout is what came too late. -/
lemma isTimeout_eq_true_iff {f : Http.Failure} : f.isTimeout = true ↔ IsLate f := by
  cases f <;> simp [Http.Failure.isTimeout, IsLate]

/-- What comes back is lost on the way: the response, or its body. -/
inductive Lost : Except Http.Failure Http.Response → Http.Failure → Prop where
  | response (f : Http.Failure) : Lost (.error f) f
  | body (response : Http.Response) {obstacle : Http.Obstacle} (broken : response.body = .error obstacle) :
      Lost (.ok response) (.reading response.url.print obstacle)

/-- What comes back is a response with its body in full. -/
def Completes (answer : Except Http.Failure Http.Response) (response : Http.Response) (bytes : List UInt8) :
    Prop :=
  answer = .ok response ∧ response.body = .ok bytes

/-- How a call ends, by the headers that there are, by what comes back for a request with them, and by how
the body of a response reads. -/
inductive Concludes {α : Type} (headers : Except Token.Error Http.Headers)
    (answer : Http.Headers → Except Http.Failure Http.Response)
    (read : List UInt8 → Except Json.Error α) : Except Error α → Prop where
  /-- There are no headers. -/
  | unauthorized {e : Token.Error} (without : headers = .error e) :
      Concludes headers answer read (.error (.authentication e))
  /-- The time allowed is over. -/
  | late {hs : Http.Headers} {f : Http.Failure} (authorized : headers = .ok hs) (lost : Lost (answer hs) f)
      (late : IsLate f) : Concludes headers answer read (.error (.timeout (.transport f)))
  /-- Something got lost, or the request could not be made. -/
  | lost {hs : Http.Headers} {f : Http.Failure} (authorized : headers = .ok hs) (lost : Lost (answer hs) f)
      (timely : ¬IsLate f) : Concludes headers answer read (.error (.io (.transport f)))
  /-- The directory refuses and says why. -/
  | refused {hs : Http.Headers} {response : Http.Response} {bytes : List UInt8} {status : Status}
      (authorized : headers = .ok hs) (complete : Completes (answer hs) response bytes)
      (refuses : response.isSuccess = false) (stated : Status.ofPayload bytes = .ok status) :
      Concludes headers answer read (.error (.service status response.status response.headers))
  /-- The directory refuses and does not say why. -/
  | dismissed {hs : Http.Headers} {response : Http.Response} {bytes : List UInt8} {flaw : Json.Error}
      (authorized : headers = .ok hs) (complete : Completes (answer hs) response bytes)
      (refuses : response.isSuccess = false) (unstated : Status.ofPayload bytes = .error flaw) :
      Concludes headers answer read (.error (.http response.status response.headers bytes))
  /-- What the directory grants cannot be read. -/
  | illegible {hs : Http.Headers} {response : Http.Response} {bytes : List UInt8} {flaw : Json.Error}
      (authorized : headers = .ok hs) (complete : Completes (answer hs) response bytes)
      (grants : response.isSuccess = true) (illegible : read bytes = .error flaw) :
      Concludes headers answer read (.error (.deserialization flaw.message))
  /-- The directory grants the request. -/
  | granted {hs : Http.Headers} {response : Http.Response} {bytes : List UInt8} {a : α}
      (authorized : headers = .ok hs) (complete : Completes (answer hs) response bytes)
      (grants : response.isSuccess = true) (legible : read bytes = .ok a) :
      Concludes headers answer read (.ok a)

namespace Client

variable {α : Type}

/-- What a call comes to, by the headers that there are. -/
def concluded (headers : Except Token.Error Http.Headers)
    (answer : Http.Headers → Except Http.Failure Http.Response)
    (read : List UInt8 → Except Json.Error α) : Except Error α :=
  match headers with
  | .error e => .error (.authentication e)
  | .ok hs => received read (answer hs)

/-- A loss is late, or it is not. -/
lemma ofFailure_eq (f : Http.Failure) [Decidable (IsLate f)] :
    Error.ofFailure f = if IsLate f then .timeout (.transport f) else .io (.transport f) := by
  unfold Error.ofFailure
  simp only [isTimeout_eq_true_iff]

section Received

variable {headers : Except Token.Error Http.Headers} {hs : Http.Headers}
  {answer : Http.Headers → Except Http.Failure Http.Response} {read : List UInt8 → Except Json.Error α}

/-- What is lost is lost whatever the status. -/
lemma received_of_lost {came : Except Http.Failure Http.Response} {f : Http.Failure} (lost : Lost came f) :
    received read came = .error (.ofFailure f) := by
  cases lost with
  | response => rfl
  | body response broken =>
    unfold received Error.ofResponse
    dsimp only
    rw [response.bytes_of_broken broken]
    dsimp only
    split <;> rfl

/-- What is complete is judged by its status and its body. -/
lemma received_of_completes {came : Except Http.Failure Http.Response} {response : Http.Response}
    {bytes : List UInt8} (complete : Completes came response bytes) :
    received read came = if response.isSuccess then (read bytes).mapError (.deserialization ·.message)
      else match Status.ofPayload bytes with
        | .ok status => .error (.service status response.status response.headers)
        | .error _ => .error (.http response.status response.headers bytes) := by
  obtain ⟨rfl, body⟩ := complete
  unfold received Error.ofResponse
  dsimp only
  rw [response.bytes_of_complete body]
  dsimp only
  split
  · cases read bytes <;> rfl
  · cases Status.ofPayload bytes <;> rfl

/-- What comes back is lost or complete. -/
lemma lost_or_completes (came : Except Http.Failure Http.Response) :
    (∃ f, Lost came f) ∨ ∃ response bytes, Completes came response bytes := by
  rcases came with f | response
  · exact .inl ⟨f, .response f⟩
  · rcases body : response.body with obstacle | bytes
    · exact .inl ⟨_, .body response body⟩
    · exact .inr ⟨response, bytes, rfl, body⟩

/-- Each way to end is what a call comes to. -/
lemma concluded_of_concludes {result : Except Error α} (h : Concludes headers answer read result) :
    concluded headers answer read = result := by
  classical
  cases h with
  | unauthorized without => rw [without, concluded]
  | late authorized lost late =>
    rw [authorized, concluded, received_of_lost lost, ofFailure_eq, if_pos late]
  | lost authorized lost timely =>
    rw [authorized, concluded, received_of_lost lost, ofFailure_eq, if_neg timely]
  | refused authorized complete refuses stated =>
    rw [authorized, concluded, received_of_completes complete, refuses, stated]
    rfl
  | dismissed authorized complete refuses unstated =>
    rw [authorized, concluded, received_of_completes complete, refuses, unstated]
    rfl
  | illegible authorized complete grants illegible =>
    rw [authorized, concluded, received_of_completes complete, grants, illegible]
    rfl
  | granted authorized complete grants legible =>
    rw [authorized, concluded, received_of_completes complete, grants, legible]
    rfl

/-- What a call comes to is one of the ways to end. -/
lemma concludes_concluded : Concludes headers answer read (concluded headers answer read) := by
  classical
  rcases headers with e | hs
  · exact .unauthorized rfl
  · change Concludes _ _ _ (received read (answer hs))
    rcases lost_or_completes (answer hs) with ⟨f, lost⟩ | ⟨response, bytes, complete⟩
    · rw [received_of_lost lost, ofFailure_eq]
      split
      · exact .late rfl lost ‹_›
      · exact .lost rfl lost ‹_›
    · rw [received_of_completes complete]
      cases success : response.isSuccess with
      | true =>
        cases legible : read bytes with
        | ok a => exact .granted rfl complete success legible
        | error flaw => exact .illegible rfl complete success legible
      | false =>
        cases stated : Status.ofPayload bytes with
        | ok status => exact .refused rfl complete success stated
        | error flaw => exact .dismissed rfl complete success stated

/-- A call comes to what one of the ways says, and to nothing else. -/
lemma concluded_eq_iff {result : Except Error α} :
    concluded headers answer read = result ↔ Concludes headers answer read result := by
  constructor
  · rintro rfl
    exact concludes_concluded
  · exact concluded_of_concludes

end Received

/-! ### The calls -/

variable (c : Client) (b : Session)

/-- What comes back for a call that is made with some headers. -/
def answerTo (call : Store.Call) (headers : Http.Headers) : Except Http.Failure Http.Response :=
  (c.orderOf call headers).answer (c.credentials.headers.runOn b).2.network

/-- How the body of a list of schemas is read. -/
def readList (bytes : List UInt8) : Except Json.Error (List Schema) :=
  (SchemaList.parse bytes).map (·.schemas)

/-- A request comes to what its headers and its answer come to, whatever was told before. -/
lemma runOn_execute_told (method : Http.Method) (url : String) (body : Option Http.Body)
    (read : List UInt8 → Except Json.Error α) (event : LogEvent) :
    ((c.execute method url body read).runOn (b.told event)).1 =
      concluded (c.credentials.headers.runOn b).1
        (fun headers => (c.order method url body headers).answer (c.credentials.headers.runOn b).2.network)
        read := by
  rw [runOn_execute, Credentials.runOn_headers_told]
  rcases c.credentials.headers.runOn b with ⟨e | headers, b'⟩ <;> rfl

/-- What is made of a body that was read is made of what the call comes to. -/
lemma concluded_map {β : Type} (f : α → β) (headers : Except Token.Error Http.Headers)
    (answer : Http.Headers → Except Http.Failure Http.Response)
    (read : List UInt8 → Except Json.Error α) :
    concluded headers answer (fun bytes => (read bytes).map f) =
      (concluded headers answer read).map f := by
  rcases headers with e | hs
  · rfl
  · unfold concluded
    dsimp only
    rcases lost_or_completes (answer hs) with ⟨failure, lost⟩ | ⟨response, bytes, complete⟩
    · rw [received_of_lost lost, received_of_lost lost]
      rfl
    · rw [received_of_completes complete, received_of_completes complete]
      split
      · cases read bytes <;> rfl
      · cases Status.ofPayload bytes <;> rfl

/-- A list comes to what its headers and its answer come to. -/
lemma runOn_listSchemas_fst (customer : String) :
    ((c.listSchemas customer).runOn b).1 =
      concluded (c.credentials.headers.runOn b).1 (c.answerTo b (.list customer)) readList := by
  have executed := c.runOn_execute_told b .get (c.schemasUrl customer) none SchemaList.parse
    (.listing (c.schemasUrl customer))
  rw [runOn_listSchemas]
  refine Eq.trans ?_ ((congrArg (Except.map (·.schemas)) executed).trans (concluded_map _ _ _ _).symm)
  rcases (c.execute .get (c.schemasUrl customer) none SchemaList.parse).runOn (b.told _) with
    ⟨e | l, b'⟩ <;> rfl

/-- An insertion comes to what its headers and its answer come to. -/
lemma runOn_insertSchema_fst (customer : String) (schema : Schema) :
    ((c.insertSchema customer schema).runOn b).1 =
      concluded (c.credentials.headers.runOn b).1 (c.answerTo b (.insert customer schema))
        Schema.parse := by
  have executed := c.runOn_execute_told b .post (c.schemasUrl customer) (some (.json schema.print))
    Schema.parse (.inserting (c.schemasUrl customer) schema.schemaName)
  rw [runOn_insertSchema]
  refine Eq.trans ?_ executed
  rcases (c.execute .post (c.schemasUrl customer) (some (.json schema.print)) Schema.parse).runOn
    (b.told _) with ⟨e | created, b'⟩ <;> rfl

/-- Without headers a call fails with the error of the credentials, and nothing is sent for it. -/
lemma make_of_error {e : Token.Error} {b' : Session}
    (without : c.credentials.headers.runOn b = (.error e, b')) (call : Store.Call) :
    (c.make call b).1 = some (.authentication e) ∧ (c.make call b).2.network = b'.network ∧
      (c.make call b).2.token = b'.token := by
  have without' (event : LogEvent) :
      c.credentials.headers.runOn (b.told event) = (.error e, b'.told event) := by
    rw [Credentials.runOn_headers_told, without]
  unfold make
  cases call with
  | list customer =>
    dsimp only
    rw [runOn_listSchemas, runOn_execute_of_error _ _ _ _ _ (without' _)]
    exact ⟨rfl, rfl, rfl⟩
  | insert customer schema =>
    dsimp only
    rw [runOn_insertSchema, runOn_execute_of_error _ _ _ _ _ (without' _)]
    exact ⟨rfl, rfl, rfl⟩

/-- With headers one order is given for a call. -/
lemma make_of_headers {headers : Http.Headers} {b' : Session}
    (authorized : c.credentials.headers.runOn b = (.ok headers, b')) (call : Store.Call) :
    (c.make call b).2.network = (c.orderOf call headers).after b'.network := by
  have authorized' (event : LogEvent) :
      c.credentials.headers.runOn (b.told event) = (.ok headers, b'.told event) := by
    rw [Credentials.runOn_headers_told, authorized]
  unfold make
  cases call with
  | list customer =>
    dsimp only
    rw [runOn_listSchemas, runOn_execute, authorized']
    dsimp only
    split <;> next h => exact (congrArg (·.2.network) h).symm
  | insert customer schema =>
    dsimp only
    rw [runOn_insertSchema, runOn_execute, authorized']
    dsimp only
    split <;> next h => exact (congrArg (·.2.network) h).symm

/-- Calls end in the ways that `Concludes` lists and in no other, whatever the credentials give and whatever
comes back.  Without headers nothing is sent for a call.  An error is of one kind, and tells what belongs to
its kind. -/
theorem calls_conclude (c : Client) (b : Session) :
    (∀ customer result, ((c.listSchemas customer).runOn b).1 = result ↔
      Concludes (c.credentials.headers.runOn b).1 (c.answerTo b (.list customer)) readList result) ∧
    (∀ customer schema result, ((c.insertSchema customer schema).runOn b).1 = result ↔
      Concludes (c.credentials.headers.runOn b).1 (c.answerTo b (.insert customer schema)) Schema.parse
        result) ∧
    (∀ call e, (c.credentials.headers.runOn b).1 = .error e →
      (c.make call b).2.network = (c.credentials.headers.runOn b).2.network) ∧
    ∀ e : Error, e.Tells := by
  refine ⟨?_, ?_, ?_, Error.tells⟩
  · intro customer result
    rw [runOn_listSchemas_fst]
    exact concluded_eq_iff
  · intro customer schema result
    rw [runOn_insertSchema_fst]
    exact concluded_eq_iff
  · intro call e without
    have outcome : c.credentials.headers.runOn b = (.error e, (c.credentials.headers.runOn b).2) :=
      Prod.ext without rfl
    exact (c.make_of_error b outcome call).2.1

end Client

end Directory

end WorkspaceSchema
