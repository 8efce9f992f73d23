import WorkspaceSchema.Proofs.Http.Order

/-!
# Requests without their secrets

There are two secrets in requests: what authorizes them, and the signature of an assertion.  `censored`
takes them out, and leaves everything else that goes over the wire.

A client carries the secrets along without a look at them.  Whether they are taken out of a request
before it is sent, or of what was sent, comes to the same (`follow_censored`), so requests that differ in
nothing else get the same answer.

Replies may hold secrets as well.  `RepliesAlike` compares two scripts of replies that agree but for the
bodies of some responses that grant a request.  What such replies bring differs at most in the body
(`follow_alike`): no redirect depends on it.
-/

namespace WorkspaceSchema.Http

/-! ### Taking secrets out -/

/-- Headers with nothing in the one that authorizes. -/
def Headers.censored (headers : Headers) : Headers :=
  headers.map fun h => (h.1, if h.1 = "authorization" then "" else h.2)

/-- A text up to its last dot. -/
def unsigned (statement : String) : String :=
  String.ofList (statement.toList.reverse.dropWhile (· ≠ '.')).reverse

/-- A body without the signature of the assertion in it. -/
def Body.censored : Body → Body
  | .form fields => .form (fields.map fun f => (f.1, if f.1 = "assertion" then unsigned f.2 else f.2))
  | .json text => .json text

/-- A request without its secrets. -/
def Request.censored (r : Request) : Request :=
  { r with headers := r.headers.censored, body := r.body.map Body.censored }

/-- What went over the wire, without its secrets. -/
def Sent.censored (s : Sent) : Sent :=
  { s with headers := s.headers.censored, body := s.body.map Body.censored }

/-- A network that has forgotten the secrets in what was sent. -/
def Network.censored (n : Network) : Network :=
  { n with sent := n.sent.map Sent.censored }

lemma Headers.censored_append (headers others : Headers) :
    Headers.censored (headers ++ others) = headers.censored ++ others.censored :=
  List.map_append

/-- Headers are dropped by their names, with or without what they hold. -/
lemma Headers.censored_filter (keep : String → Bool) (headers : Headers) :
    Headers.censored (headers.filter (keep ·.1)) = headers.censored.filter (keep ·.1) := by
  unfold censored
  rw [List.filter_map]
  rfl

lemma Body.contentType_censored (body : Body) : body.censored.contentType = body.contentType := by
  cases body <;> rfl

namespace Client

variable (c : Client) (r : Request) (n : Network)

lemma note_censored (s : Sent) : (n.note s).censored = n.censored.note s.censored := by
  unfold Network.note Network.censored
  rw [List.map_append]
  rfl

lemma take_censored : n.censored.take = (n.take.1, n.take.2.censored) := by
  obtain ⟨reachable, replies, sent, waited⟩ := n
  cases replies <;> rfl

/-- An exchange does not depend on secrets. -/
lemma exchange_censored :
    c.exchange r.censored n.censored = ((c.exchange r n).1, (c.exchange r n).2.censored) := by
  have url : r.censored.url = r.url := rfl
  have reachable : n.censored.reachable = n.reachable := rfl
  have noted : n.censored.note r.censored.toSent = (n.note r.toSent).censored :=
    (note_censored n r.toSent).symm
  unfold exchange
  rw [reachable, url, noted, take_censored]
  by_cases lost : (!n.reachable) = true
  · simp only [if_pos lost]
  · simp only [if_neg lost]
    rcases (n.note r.toSent).take with ⟨reply, n'⟩
    by_cases impatient : c.patience = .none
    · simp only [if_pos impatient]
      rfl
    · simp only [if_neg impatient]
      cases reply <;> rfl

/-- Where a redirect leads does not depend on secrets. -/
lemma redirected?_censored (response : Response) :
    redirected? r.censored response = (redirected? r response).map Request.censored := by
  have url : r.censored.url = r.url := rfl
  have headers (same : Bool) : (if same = true then r.censored.headers
      else r.censored.headers.filter (!isSensitive ·.1)) =
      Headers.censored (if same = true then r.headers else r.headers.filter (!isSensitive ·.1)) := by
    cases same with
    | false => exact (Headers.censored_filter (!isSensitive ·) r.headers).symm
    | true => rfl
  unfold redirected?
  by_cases other : response.status ∉ redirectStatuses
  · simp only [if_pos other, Option.map_none]
  · simp only [if_neg other, url]
    cases (response.headers.values "location").head? with
    | none => rfl
    | some location =>
      dsimp only
      cases Url.resolve r.url location with
      | error fault => rfl
      | ok url =>
        dsimp only
        rw [headers]
        by_cases again : response.status ∈ repeatingStatuses
        · simp only [if_pos again]
          rfl
        · simp only [if_neg again, Option.map_some]
          refine congrArg some (congrArg (Request.mk .get url · none) ?_)
          exact (Headers.censored_filter (!isAboutBody ·) _).symm

/-- What comes back does not depend on secrets, nor does what goes over the wire, but for the secrets. -/
lemma follow_censored (hops : Nat) :
    c.follow hops r.censored n.censored = ((c.follow hops r n).1, (c.follow hops r n).2.censored) := by
  induction hops generalizing r n with
  | zero =>
    unfold follow
    rw [exchange_censored]
    rcases c.exchange r n with ⟨obstacle | response, n'⟩
    · rfl
    · dsimp only
      rw [redirected?_censored]
      cases redirected? r response <;> rfl
  | succ hops ih =>
    unfold follow
    rw [exchange_censored]
    rcases c.exchange r n with ⟨obstacle | response, n'⟩
    · rfl
    · dsimp only
      rw [redirected?_censored]
      cases redirected? r response with
      | none => rfl
      | some next =>
        change (if isWebScheme next.url.scheme = true then c.follow hops next.censored n'.censored
          else _) = _
        rw [ih]
        dsimp only
        split <;> rfl

end Client

/-! ### Orders that differ in their secrets -/

/-- Orders that are the same but for their secrets. -/
structure Order.Alike (o o' : Order) : Prop where
  client : o.client = o'.client
  method : o.method = o'.method
  target : o.target = o'.target
  headers : o.headers.censored = o'.headers.censored
  body : o.body.map Body.censored = o'.body.map Body.censored

/-- Their requests are the same but for the secrets, too. -/
lemma Order.Alike.request? {o o' : Order} (alike : o.Alike o') :
    o.request?.map Request.censored = o'.request?.map Request.censored := by
  unfold Order.request?
  rw [alike.target, alike.method]
  cases Client.target o'.target with
  | error failure => rfl
  | ok place =>
    obtain ⟨url, user⟩ := place
    have body := alike.body
    have headers (about : Headers) : Headers.censored (about ++ user ++ o.headers) =
        Headers.censored (about ++ user ++ o'.headers) := by
      simp only [Headers.censored_append, alike.headers]
    have request (about : Headers) (sent sent' : Option Body)
        (same : sent.map Body.censored = sent'.map Body.censored) :
        Request.censored ⟨o'.method, url, about ++ user ++ o.headers, sent⟩ =
          Request.censored ⟨o'.method, url, about ++ user ++ o'.headers, sent'⟩ := by
      unfold Request.censored
      dsimp only
      rw [headers, same]
    cases sent : o.body with
    | none =>
      cases sent' : o'.body with
      | none => exact congrArg some (request [] none none rfl)
      | some body' => rw [sent, sent'] at body; cases body
    | some form =>
      cases sent' : o'.body with
      | none => rw [sent, sent'] at body; cases body
      | some form' =>
        rw [sent, sent'] at body
        have type : form.contentType = form'.contentType := by
          rw [← form.contentType_censored, Option.some.inj body, form'.contentType_censored]
        dsimp only [Option.map]
        rw [type]
        exact congrArg some (request _ (some form) (some form') body)

/-! ### Replies that differ in their secrets -/

/-- Two scripts of replies that are the same but for some responses that grant a request: where
`swaps left body body'` holds, the second script may have `body'` in place of `body` in the reply behind
which `left` replies are left. -/
inductive RepliesAlike (swaps : Nat → List UInt8 → List UInt8 → Prop) : List Reply → List Reply → Prop
  | nil : RepliesAlike swaps [] []
  | same {rest rest' : List Reply} (reply : Reply) (later : RepliesAlike swaps rest rest') :
    RepliesAlike swaps (reply :: rest) (reply :: rest')
  | swapped {status : Nat} {headers : Headers} {body body' : List UInt8} {rest rest' : List Reply}
    (success : 200 ≤ status ∧ status < 300) (swap : swaps rest.length body body')
    (later : RepliesAlike swaps rest rest') :
    RepliesAlike swaps (.answer status headers body :: rest) (.answer status headers body' :: rest')

/-- Two networks that are the same but for such replies. -/
structure Network.Alike (swaps : Nat → List UInt8 → List UInt8 → Prop) (n n' : Network) : Prop where
  reachable : n.reachable = n'.reachable
  replies : RepliesAlike swaps n.replies n'.replies
  sent : n.sent = n'.sent
  waited : n.waited = n'.waited

/-- Two answers that are responses that grant a request and differ in the body.  The reply taken for
them was the last one that was taken on the way from one network to another. -/
structure Swapped {ε : Type} (swaps : Nat → List UInt8 → List UInt8 → Prop) (n after : Network)
    (answer answer' : Except ε Response) : Prop where
  taken : after.replies.length < n.replies.length
  bodies : ∃ url status headers body body',
    answer = .ok ⟨url, status, headers, .ok body⟩ ∧ answer' = .ok ⟨url, status, headers, .ok body'⟩ ∧
      (200 ≤ status ∧ status < 300) ∧ swaps after.replies.length body body'

section Alike

variable {swaps : Nat → List UInt8 → List UInt8 → Prop} {n n' : Network}

namespace Client

variable (c : Client) (r : Request)

/-- Two exchanges of a request bring the same, or responses that differ in the body. -/
lemma exchange_alike (alike : n.Alike swaps n') :
    (c.exchange r n).2.Alike swaps (c.exchange r n').2 ∧
      ((c.exchange r n).1 = (c.exchange r n').1 ∨
        Swapped swaps n (c.exchange r n).2 (c.exchange r n).1 (c.exchange r n').1) := by
  obtain ⟨reachable, replies, sent, waited⟩ := n
  obtain ⟨reachable', replies', sent', waited'⟩ := n'
  obtain ⟨reach, script, wire, wait⟩ := alike
  dsimp only at reach script wire wait
  subst reach wire wait
  unfold exchange
  by_cases lost : (!reachable) = true
  · simp only [if_pos lost]
    exact ⟨⟨rfl, script, rfl, rfl⟩, .inl trivial⟩
  · simp only [if_neg lost]
    by_cases impatient : c.patience = .none
    · simp only [if_pos impatient]
      cases script with
      | nil => exact ⟨⟨rfl, .nil, rfl, rfl⟩, .inl trivial⟩
      | same reply later => exact ⟨⟨rfl, later, rfl, rfl⟩, .inl trivial⟩
      | swapped success swap later => exact ⟨⟨rfl, later, rfl, rfl⟩, .inl trivial⟩
    · simp only [if_neg impatient]
      cases script with
      | nil => exact ⟨⟨rfl, .nil, rfl, rfl⟩, .inl rfl⟩
      | same reply later => cases reply <;> exact ⟨⟨rfl, later, rfl, rfl⟩, .inl rfl⟩
      | swapped success swap later =>
        exact ⟨⟨rfl, later, rfl, rfl⟩, .inr ⟨Nat.lt_succ_self _, _, _, _, _, _, rfl, rfl, success, swap⟩⟩

/-- A response that grants a request is no redirect. -/
lemma redirected?_of_success {response : Response}
    (success : 200 ≤ response.status ∧ response.status < 300) : redirected? r response = none := by
  have other : response.status ∉ redirectStatuses := by
    unfold redirectStatuses repeatingStatuses
    simp only [List.cons_append, List.nil_append, List.mem_cons, List.not_mem_nil, or_false]
    omega
  unfold redirected?
  rw [if_pos other]

/-- The first response is the final one if it grants the request. -/
lemma follow_of_success (hops : Nat) {response : Response} (answered : c.exchange r n = (.ok response, n'))
    (success : 200 ≤ response.status ∧ response.status < 300) :
    c.follow hops r n = (.ok response, n') := by
  unfold follow
  rw [answered]
  dsimp only
  rw [redirected?_of_success r success]

/-- A request that is followed through its redirects brings the same, or responses that differ in the
body. -/
lemma follow_alike (hops : Nat) (alike : n.Alike swaps n') :
    (c.follow hops r n).2.Alike swaps (c.follow hops r n').2 ∧
      ((c.follow hops r n).1 = (c.follow hops r n').1 ∨
        Swapped swaps n (c.follow hops r n).2 (c.follow hops r n).1 (c.follow hops r n').1) := by
  induction hops using Nat.strongRecOn generalizing r n n' with
  | ind hops ih =>
    have first := c.exchange_alike r alike
    have fewer := (c.exchange_passes r n).replies.length_le
    rcases answered : c.exchange r n with ⟨answer, m⟩
    rcases answered' : c.exchange r n' with ⟨answer', m'⟩
    rw [answered, answered'] at first
    rw [answered] at fewer
    obtain ⟨networks, same | ⟨taken, _, _, _, _, _, rfl, rfl, success, swap⟩⟩ := first
    · obtain rfl : answer = answer' := same
      unfold follow
      rw [answered, answered']
      cases answer with
      | error obstacle => exact ⟨networks, .inl rfl⟩
      | ok response =>
        dsimp only
        cases redirected? r response with
        | none => exact ⟨networks, .inl rfl⟩
        | some next =>
          cases hops with
          | zero => exact ⟨networks, .inl rfl⟩
          | succ hops =>
            dsimp only
            by_cases web : isWebScheme next.url.scheme = true
            · rw [if_pos web, if_pos web]
              obtain ⟨networks', same | swapped⟩ := ih hops (Nat.lt_succ_self hops) next networks
              · exact ⟨networks', .inl same⟩
              · exact ⟨networks', .inr ⟨Nat.lt_of_lt_of_le swapped.taken fewer, swapped.bodies⟩⟩
            · rw [if_neg web, if_neg web]
              exact ⟨networks, .inl rfl⟩
    · -- Responses that differ grant the request, so neither is a redirect.
      rw [c.follow_of_success r hops answered success, c.follow_of_success r hops answered' success]
      exact ⟨networks, .inr ⟨taken, _, _, _, _, _, rfl, rfl, success, swap⟩⟩

end Client

/-- Requests that differ in their secrets bring the same, or responses that differ in the body, and
leave networks that differ in their secrets. -/
lemma Client.follow_secretly (c : Client) (hops : Nat) {r r' : Request} (same : r.censored = r'.censored)
    (alike : n.censored.Alike swaps n'.censored) :
    (c.follow hops r n).2.censored.Alike swaps (c.follow hops r' n').2.censored ∧
      ((c.follow hops r n).1 = (c.follow hops r' n').1 ∨
        Swapped swaps n (c.follow hops r n).2 (c.follow hops r n).1 (c.follow hops r' n').1) := by
  have brings := c.follow_alike r.censored hops alike
  have second := c.follow_censored r' n' hops
  rw [← same] at second
  rw [c.follow_censored r n hops, second] at brings
  obtain ⟨networks, equal | swapped⟩ := brings
  · exact ⟨networks, .inl equal⟩
  · exact ⟨networks, .inr ⟨swapped.taken, swapped.bodies⟩⟩

/-- Orders that differ in their secrets bring the same, or responses that differ in the body, and leave
networks that differ in their secrets. -/
lemma Order.Alike.exchange {o o' : Order} (orders : o.Alike o')
    (alike : n.censored.Alike swaps n'.censored) :
    (o.after n).censored.Alike swaps (o'.after n').censored ∧
      (o.answer n = o'.answer n' ∨ Swapped swaps n (o.after n) (o.answer n) (o'.answer n')) := by
  have requests := orders.request?
  unfold Order.request? at requests
  unfold Order.after Order.answer Client.send
  rw [← orders.target] at requests ⊢
  cases target : Client.target o.target with
  | error failure => exact ⟨alike, .inl rfl⟩
  | ok place =>
    obtain ⟨url, user⟩ := place
    rw [target] at requests
    dsimp only
    rw [← orders.client]
    exact o.client.follow_secretly Client.maxRedirects (Option.some.inj requests) alike

end Alike

end WorkspaceSchema.Http
