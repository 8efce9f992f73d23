import Mathlib.Data.List.Basic
import Mathlib.Tactic.Lemma
import WorkspaceSchema.Http.Client

/-!
# What requests put on the wire

An `Order` is a request as it is handed to a client, before any redirect.  The client puts it on the
wire and then, as long as the responses are redirects, the requests that they ask to go on with.

`Passes` says once what work of a client does to a network: it adds to the wire, uses up replies, and
waits in vain only where a reply never comes or the client has no patience.  `follow_passes` adds what
goes over the wire for one request: the request itself and a chain of continuations behind it, or
nothing where no host can be reached.

`Carries` tells what a network went through as a list of exchanges, each an order with what came back
for it and its part of the wire.  From the exchanges one reads off the whole wire (`Carries.sent`).
-/

namespace WorkspaceSchema.Http

/-- Whether a reply comes in full or not at all, so that nobody waits for the rest of it. -/
def Reply.isPrompt : Reply → Bool
  | .hang => false
  | .stalled _ _ => false
  | _ => true

/-- What work of a client does to a network, `trail` being what it adds to the wire. -/
structure Passes (patience : Patience) (n : Network) (trail : List Sent) (n' : Network) : Prop where
  sent : n'.sent = n.sent ++ trail
  reachable : n'.reachable = n.reachable
  replies : n'.replies <:+ n.replies
  waited : n'.waited = true → n.waited = true ∨
    trail ≠ [] ∧ (patience = .none ∨ ∃ reply ∈ n.replies, reply.isPrompt = false)

namespace Passes

variable {p : Patience} {n n' n'' : Network} {trail trail' : List Sent}

/-- Nothing is done without work. -/
lemma refl (p : Patience) (n : Network) : Passes p n [] n :=
  ⟨(List.append_nil _).symm, rfl, List.suffix_refl _, .inl⟩

/-- Work can go on. -/
lemma trans (h : Passes p n trail n') (h' : Passes p n' trail' n'') :
    Passes p n (trail ++ trail') n'' := by
  refine ⟨?_, h'.reachable.trans h.reachable, h'.replies.trans h.replies, fun waited => ?_⟩
  · rw [h'.sent, h.sent, List.append_assoc]
  · rcases h'.waited waited with before | ⟨trail', why⟩
    · rcases h.waited before with before | ⟨trail, why⟩
      · exact .inl before
      · exact .inr ⟨List.append_ne_nil_of_left_ne_nil trail _, why⟩
    · refine .inr ⟨List.append_ne_nil_of_right_ne_nil _ trail', why.imp_right ?_⟩
      rintro ⟨reply, member, late⟩
      exact ⟨reply, h.replies.mem member, late⟩

/-- Whoever has put something on the wire may wait in vain, for a reason. -/
lemma wait (h : Passes p n trail n') (begun : trail ≠ [])
    (why : p = .none ∨ ∃ reply ∈ n.replies, reply.isPrompt = false) : Passes p n trail n'.wait :=
  ⟨h.sent, h.reachable, h.replies, fun _ => .inr ⟨begun, why⟩⟩

end Passes

/-! ### Redirects -/

/-- Requests each of which some response asks to go on with after the one before. -/
inductive Continues : Request → List Request → Prop where
  | done (r : Request) : Continues r []
  | redirect {r next : Request} {rest : List Request} (response : Response)
      (asked : Client.redirected? r response = some next) (later : Continues next rest) :
      Continues r (next :: rest)

/-- A redirect of the kinds that repeat goes on with the same request at another place; any other
redirect goes on with a request for that place alone. -/
lemma Client.cases_of_redirected? {r next : Request} {response : Response}
    (asked : redirected? r response = some next) :
    response.status ∈ repeatingStatuses ∧ next.method = r.method ∧ next.body = r.body ∨
      response.status ∉ repeatingStatuses ∧ next.method = .get ∧ next.body = none := by
  unfold redirected? at asked
  split at asked
  · cases asked
  · split at asked
    · cases asked
    · split at asked
      · cases asked
      · dsimp only at asked
        split at asked
        case isTrue repeating =>
          cases asked
          exact .inl ⟨repeating, rfl, rfl⟩
        case isFalse other =>
          cases asked
          exact .inr ⟨other, rfl, rfl⟩

/-- A redirect goes on with the body of the request or without a body. -/
lemma Client.body_of_redirected? {r next : Request} {response : Response}
    (asked : redirected? r response = some next) : next.body = none ∨ next.body = r.body := by
  rcases cases_of_redirected? asked with ⟨-, -, same⟩ | ⟨-, -, without⟩
  · exact .inr same
  · exact .inl without

/-- No redirect brings in a body that the first request did not have. -/
lemma Continues.body_of_mem {r : Request} {rest : List Request} (h : Continues r rest) :
    ∀ next ∈ rest, next.body = none ∨ next.body = r.body := by
  induction h with
  | done r => simp
  | redirect response asked later ih =>
    intro next member
    have first := Client.body_of_redirected? asked
    rcases List.mem_cons.mp member with rfl | member
    · exact first
    · rcases ih next member with without | same
      · exact .inl without
      · rw [same]
        exact first

namespace Client

variable (c : Client) (r : Request) (n : Network)

/-- The reply to a request is taken from the network after the request is noted. -/
lemma take_passes (p : Patience) :
    Passes p n [r.toSent] ((n.note r.toSent).take).2 ∧
      ((n.note r.toSent).take.1 ∈ n.replies ∨ (n.note r.toSent).take.1 = .drop) := by
  obtain ⟨reachable, replies, sent, waited⟩ := n
  cases replies with
  | nil => exact ⟨⟨rfl, rfl, List.suffix_refl _, .inl⟩, .inr rfl⟩
  | cons reply rest => exact ⟨⟨rfl, rfl, List.suffix_cons reply rest, .inl⟩, .inl List.mem_cons_self⟩

/-- A request goes over the wire if a host can be reached, and otherwise nothing happens. -/
lemma exchange_passes :
    Passes c.patience n (if n.reachable then [r.toSent] else []) (c.exchange r n).2 := by
  unfold exchange
  cases n.reachable with
  | false => exact .refl _ _
  | true =>
    obtain ⟨passes, whence⟩ := take_passes r n c.patience
    simp only [Bool.not_true, Bool.false_eq_true, if_false, if_true]
    rcases taken : (n.note r.toSent).take with ⟨reply, n'⟩
    rw [taken] at passes whence
    have begun : [r.toSent] ≠ [] := List.cons_ne_nil _ _
    have late (h : reply.isPrompt = false) : ∃ reply ∈ n.replies, reply.isPrompt = false := by
      rcases whence with member | rfl
      · exact ⟨reply, member, h⟩
      · cases h
    split
    · exact passes.wait begun (.inl ‹_›)
    · cases reply with
      | hang => exact passes.wait begun (.inr (late rfl))
      | stalled status headers => exact passes.wait begun (.inr (late rfl))
      | answer status headers body => exact passes
      | drop => exact passes
      | truncated status headers => exact passes

/-- For a request go over the wire the request itself and what redirects make of it. -/
lemma follow_passes (hops : Nat) :
    ∃ rest, Continues r rest ∧ Passes c.patience n
      (if n.reachable then (r :: rest).map Request.toSent else []) (c.follow hops r n).2 := by
  induction hops generalizing r n with
  | zero =>
    have first := c.exchange_passes r n
    refine ⟨[], .done r, ?_⟩
    unfold follow
    rcases h : c.exchange r n with ⟨obstacle | response, n'⟩
    · rw [h] at first
      exact first
    · rw [h] at first
      dsimp only
      cases redirected? r response <;> exact first
  | succ hops ih =>
    have first := c.exchange_passes r n
    unfold follow
    rcases h : c.exchange r n with ⟨obstacle | response, n'⟩
    · rw [h] at first
      exact ⟨[], .done r, first⟩
    · rw [h] at first
      dsimp only
      cases asked : redirected? r response with
      | none => exact ⟨[], .done r, first⟩
      | some next =>
        by_cases web : isWebScheme next.url.scheme = true
        · obtain ⟨rest, later, onward⟩ := ih next n'
          refine ⟨next :: rest, .redirect response asked later, ?_⟩
          have both := first.trans onward
          rw [first.reachable] at both
          simp only [web, if_true]
          cases reachable : n.reachable <;> simpa [reachable] using both
        · simp only [web]
          exact ⟨[], .done r, first⟩

/-- A client without patience gets no response. -/
lemma exchange_of_impatient (impatient : c.patience = .none) (response : Response) :
    (c.exchange r n).1 ≠ .ok response := by
  unfold exchange
  simp only [if_pos impatient]
  split <;> exact fun h => nomatch h

/-- A client without patience gets no response from the end of redirects either. -/
lemma follow_of_impatient (impatient : c.patience = .none) (hops : Nat) (response : Response) :
    (c.follow hops r n).1 ≠ .ok response := by
  have nothing := c.exchange_of_impatient r n impatient
  unfold follow
  rcases h : c.exchange r n with ⟨obstacle | first, n'⟩
  · exact fun h => nomatch h
  · rw [h] at nothing
    exact absurd rfl (nothing first)

end Client

/-! ### Orders and exchanges -/

/-- The place that a text names is that of a URL of the web, the host of which a request can name. -/
lemma Client.locate_eq_ok_iff {text : String} {place : Url} {user : Headers} :
    locate text = .ok (place, user) ↔ ∃ url, Url.parse text = .ok url ∧ separateUser url = (place, user) ∧
      isWebScheme place.scheme = true ∧ isRequestable place.host = true := by
  unfold locate
  cases parsed : Url.parse text with
  | error fault => simp
  | ok url =>
    simp only [Except.ok.injEq, exists_eq_left']
    obtain ⟨place', user'⟩ := separateUser url
    dsimp only
    constructor
    · intro taken
      split at taken
      · cases taken
      · split at taken
        · cases taken
        · obtain ⟨rfl, rfl⟩ := Prod.mk.inj (Except.ok.inj taken)
          simp_all
    · rintro ⟨same, web, requestable⟩
      obtain ⟨rfl, rfl⟩ := Prod.mk.inj same
      rw [web, requestable]
      rfl

/-- Such a place is a target if it is short enough. -/
lemma Client.target_eq_ok_iff {text : String} {place : Url} {user : Headers} :
    target text = .ok (place, user) ↔ locate text = .ok (place, user) ∧ isShort place = true := by
  unfold target
  rcases locate text with failure | ⟨place', user'⟩
  · simp
  · dsimp only
    constructor
    · intro taken
      split at taken
      · obtain ⟨rfl, rfl⟩ := Prod.mk.inj (Except.ok.inj taken)
        exact ⟨rfl, ‹_›⟩
      · cases taken
    · rintro ⟨same, short⟩
      obtain ⟨rfl, rfl⟩ := Prod.mk.inj (Except.ok.inj same)
      rw [if_pos short]

/-- A request as it is handed to a client, before any redirect. -/
structure Order where
  client : Client
  method : Method
  target : String
  headers : Headers
  body : Option Body

/-- An order, what came back for it, and its part of the wire. -/
structure Exchange where
  order : Order
  answer : Except Failure Response
  trail : List Sent

namespace Order

/-- What comes back for an order. -/
def answer (o : Order) (n : Network) : Except Failure Response :=
  (o.client.send o.method o.target o.headers o.body n).1

/-- The network after an order. -/
def after (o : Order) (n : Network) : Network :=
  (o.client.send o.method o.target o.headers o.body n).2

/-- An order given to a network. -/
def exchange (o : Order) (n : Network) : Exchange :=
  ⟨o, o.answer n, (o.after n).sent.drop n.sent.length⟩

/-- The request that an order is about, if its target is a place in the web. -/
def request? (o : Order) : Option Request :=
  match Client.target o.target with
  | .error _ => none
  | .ok (url, user) =>
    let about := match o.body with
      | none => []
      | some body => [("content-type", body.contentType)]
    some ⟨o.method, url, about ++ user ++ o.headers, o.body⟩

end Order

/-- Whether the part of the wire is that of the order: nothing, if the target is no place in the web or
no host is reached, and otherwise the request itself, and behind it what redirects make of it. -/
def Exchange.Continuous (reachable : Bool) (e : Exchange) : Prop :=
  match e.order.request? with
  | none => e.trail = []
  | some r => ∃ rest, Continues r rest ∧
    e.trail = if reachable then (r :: rest).map Request.toSent else []

namespace Order

variable (o : Order) (n : Network)

/-- A network is changed by the request that an order is about, followed through its redirects. -/
lemma after_eq : o.after n = match o.request? with
    | none => n
    | some r => (o.client.follow Client.maxRedirects r n).2 := by
  unfold after Client.send request?
  cases Client.target o.target <;> rfl

/-- Without patience an order brings no response. -/
lemma answer_of_impatient (impatient : o.client.patience = .none) (response : Response) :
    o.answer n ≠ .ok response := by
  unfold answer Client.send
  cases Client.target o.target with
  | error failure => exact fun h => nomatch h
  | ok place => exact o.client.follow_of_impatient _ n impatient _ response

/-- The part of the wire that an exchange keeps is what the order adds to it. -/
lemma exchange_spec :
    Passes o.client.patience n (o.exchange n).trail (o.after n) ∧
      (o.exchange n).Continuous n.reachable := by
  suffices h : ∃ trail, Passes o.client.patience n trail (o.after n) ∧
      (Exchange.mk o (o.answer n) trail).Continuous n.reachable by
    obtain ⟨trail, passes, continuous⟩ := h
    have same : (o.exchange n).trail = trail := by
      unfold exchange
      rw [passes.sent, List.drop_left]
    unfold exchange at same ⊢
    dsimp only at same ⊢
    rw [same]
    exact ⟨passes, continuous⟩
  unfold Exchange.Continuous
  dsimp only
  rw [after_eq]
  cases o.request? with
  | none => exact ⟨[], .refl _ _, rfl⟩
  | some r =>
    obtain ⟨rest, later, passes⟩ := o.client.follow_passes r n Client.maxRedirects
    exact ⟨_, passes, rest, later, rfl⟩

/-- What an order does to the network it is given to. -/
lemma exchange_passes : Passes o.client.patience n (o.exchange n).trail (o.after n) :=
  (o.exchange_spec n).1

/-- What goes over the wire for an order is its own request and what redirects make of it. -/
lemma exchange_continuous : (o.exchange n).Continuous n.reachable :=
  (o.exchange_spec n).2

/-- Where no host can be reached there are no responses. -/
lemma reachable_of_answer {response : Response} (came : o.answer n = .ok response) : n.reachable = true := by
  by_contra unreachable
  unfold answer Client.send at came
  cases target : Client.target o.target with
  | error failure =>
    rw [target] at came
    cases came
  | ok place =>
    rw [target] at came
    dsimp only at came
    unfold Client.follow Client.exchange at came
    rw [if_pos (by simpa using unreachable)] at came
    cases came

/-- A response has been asked for over the wire. -/
lemma after_ne_of_answer {response : Response} (came : o.answer n = .ok response) : o.after n ≠ n := by
  intro same
  have passes := (o.exchange_passes n).sent
  have continuous := o.exchange_continuous n
  rw [same, List.self_eq_append_right] at passes
  unfold Exchange.Continuous at continuous
  rw [o.reachable_of_answer n came, passes] at continuous
  have target : o.request? ≠ none := by
    intro none
    unfold answer Client.send at came
    unfold request? at none
    cases target : Client.target o.target with
    | error failure =>
      rw [target] at came
      cases came
    | ok place =>
      rw [target] at none
      cases none
  obtain ⟨r, request⟩ := Option.ne_none_iff_exists'.mp target
  rw [show (o.exchange n).order = o from rfl, request] at continuous
  obtain ⟨rest, -, empty⟩ := continuous
  cases empty

end Order

/-- What goes over the wire for an order has the body of the order or none. -/
lemma Exchange.Continuous.body_of_mem {reachable : Bool} {e : Exchange}
    (h : e.Continuous reachable) : ∀ sent ∈ e.trail, sent.body = none ∨ sent.body = e.order.body := by
  unfold Continuous Order.request? at h
  cases target : Client.target e.order.target with
  | error failure =>
    rw [target] at h
    dsimp only at h
    rw [h]
    simp
  | ok place =>
    obtain ⟨url, user⟩ := place
    rw [target] at h
    obtain ⟨rest, continues, trail⟩ := h
    rw [trail]
    intro sent member
    cases reachable with
    | false => simp at member
    | true =>
      obtain ⟨r, among, rfl⟩ := List.mem_map.mp member
      rcases List.mem_cons.mp among with rfl | among
      · exact .inr rfl
      · exact continues.body_of_mem r among

/-- An order for a place in the web goes over the wire as it is, if a host can be reached. -/
lemma Exchange.Continuous.exists_sent {reachable : Bool} {e : Exchange} (h : e.Continuous reachable)
    (reached : reachable = true) {place : Url} {user : Headers}
    (target : Client.target e.order.target = .ok (place, user)) :
    ∃ sent ∈ e.trail, sent.method = e.order.method ∧ sent.body = e.order.body := by
  unfold Continuous Order.request? at h
  rw [target] at h
  obtain ⟨rest, -, trail⟩ := h
  rw [trail, if_pos reached, List.map_cons]
  exact ⟨_, List.mem_cons_self, rfl, rfl⟩

/-! ### Exchanges one after another -/

/-- A network goes through exchanges, one after another, and becomes another network. -/
inductive Carries : Network → List Exchange → Network → Prop where
  | nil (n : Network) : Carries n [] n
  | cons {n n' : Network} {es : List Exchange} (o : Order) (later : Carries (o.after n) es n') :
      Carries n (o.exchange n :: es) n'

namespace Carries

variable {n n' n'' : Network} {es fs : List Exchange}

/-- An order is one exchange. -/
lemma single (o : Order) (n : Network) : Carries n [o.exchange n] (o.after n) :=
  .cons o (.nil _)

/-- Exchanges may be followed by more of them. -/
lemma append (h : Carries n es n') (h' : Carries n' fs n'') : Carries n (es ++ fs) n'' := by
  induction h with
  | nil => exact h'
  | cons o _ ih => exact .cons o (ih h')

/-- The wire holds what went over it before, and the parts of the exchanges, one after another. -/
lemma sent (h : Carries n es n') : n'.sent = n.sent ++ es.flatMap (·.trail) := by
  induction h with
  | nil => simp
  | cons o _ ih => rw [ih, (o.exchange_passes _).sent, List.flatMap_cons, List.append_assoc]

/-- Every exchange has its own part of the wire. -/
lemma continuous (h : Carries n es n') : ∀ e ∈ es, e.Continuous n.reachable := by
  induction h with
  | nil => simp
  | cons o _ ih =>
    rw [(o.exchange_passes _).reachable] at ih
    exact List.forall_mem_cons.mpr ⟨o.exchange_continuous _, ih⟩

/-- What goes over the wire has the body of one of the orders or none. -/
lemma body_of_mem (h : Carries n es n') {sent : Sent} (member : sent ∈ es.flatMap (·.trail)) :
    sent.body = none ∨ ∃ e ∈ es, sent.body = e.order.body := by
  obtain ⟨e, among, part⟩ := List.mem_flatMap.mp member
  rcases (h.continuous e among).body_of_mem sent part with without | same
  · exact .inl without
  · exact .inr ⟨e, among, same⟩

/-- Replies are used up from the front. -/
lemma replies (h : Carries n es n') : n'.replies <:+ n.replies := by
  induction h with
  | nil => exact List.suffix_refl _
  | cons o _ ih => exact ih.trans (o.exchange_passes _).replies

/-- Someone waits in vain only after something was sent, and if a client had no patience or a reply
does not come in full. -/
lemma waited (h : Carries n es n') (late : n'.waited = true) : n.waited = true ∨
    es.flatMap (·.trail) ≠ [] ∧ ((∃ e ∈ es, e.order.client.patience = .none) ∨
      ∃ reply ∈ n.replies, reply.isPrompt = false) := by
  induction h with
  | nil => exact .inl late
  | cons o later ih =>
    rename_i n n' es
    have passes := o.exchange_passes n
    rw [List.flatMap_cons]
    rcases ih late with before | ⟨trail, why⟩
    · rcases passes.waited before with before | ⟨trail, why⟩
      · exact .inl before
      · exact .inr ⟨List.append_ne_nil_of_left_ne_nil trail _, why.imp_left
          fun impatient => ⟨_, List.mem_cons_self, impatient⟩⟩
    · refine .inr ⟨List.append_ne_nil_of_right_ne_nil _ trail, why.imp ?_ ?_⟩
      · rintro ⟨e, member, impatient⟩
        exact ⟨e, List.mem_cons_of_mem _ member, impatient⟩
      · rintro ⟨reply, member, late⟩
        exact ⟨reply, passes.replies.mem member, late⟩

end Carries

end WorkspaceSchema.Http
