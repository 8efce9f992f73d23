import WorkspaceSchema.Proofs.Run.Requests

/-!
# The requests of a run

A run sends at most five orders: for a token, for the list of schemas and for the insertion of the
schema, and for another token before each of the last two.  A `Conduct` tells them apart by what they
are for, and `Protocol` states the rules that they follow: which orders there may be, what has to come
back before the next one is given, and when exactly another token is asked for.

The proof takes the approaches to the list and to the insertion as they are found by `exists_approach`,
each for whatever was asked before, and puts them together.  `run_follows_protocol` is the result:
every run is carried by the exchanges of some conduct that follows the rules, and the wire holds these
exchanges and nothing else.
-/

namespace WorkspaceSchema.Run

open Directory.Client (Approach)

/-- The exchanges of a run, by what they are for. -/
structure Conduct where
  /-- For the first token. -/
  opening : Option Http.Exchange := none
  /-- For the list of schemas. -/
  listing : Approach := {}
  /-- For the insertion of the schema. -/
  insertion : Approach := {}

namespace Conduct

variable (c : Conduct)

/-- All exchanges, one after another. -/
def exchanges : List Http.Exchange :=
  c.opening.toList ++ (c.listing.exchanges ++ c.insertion.exchanges)

/-- The exchanges with the directory. -/
def calls : List Http.Exchange :=
  c.listing.call.toList ++ c.insertion.call.toList

/-- The requests for tokens up to the list. -/
def askedForListing : List Http.Exchange :=
  c.listing.asked c.opening.toList

/-- The requests for tokens up to the insertion. -/
def askedForInsertion : List Http.Exchange :=
  c.insertion.asked c.askedForListing

/-- Every exchange is for a token or with the directory. -/
lemma mem_askedForInsertion_or_mem_calls {e : Http.Exchange} (member : e ∈ c.exchanges) :
    e ∈ c.askedForInsertion ∨ e ∈ c.calls := by
  simp only [exchanges, askedForInsertion, askedForListing, calls, Approach.exchanges,
    Approach.asked, List.mem_append] at member ⊢
  tauto

end Conduct

/-- Whether an insertion is called for after the approach to the list: the run is in earnest, and the
list came and lacks the schema. -/
def Permits (s : Settings) (listing : Approach) : Prop :=
  s.dryRun = false ∧ ∃ e ∈ listing.call, ∃ l, e.Decodes SchemaList.parse l ∧ Lacks s l

/-- What was asked for was had: a token, a list, or a schema. -/
def Succeeds (a : Account.Source) (now : Clock) (e : Http.Exchange) : Prop :=
  match e.order.body with
  | some (.form _) => ∃ t, a.Grants now e t
  | none => ∃ l, e.Decodes SchemaList.parse l
  | some (.json _) => ∃ schema, e.Decodes Schema.parse schema

/-- Whether the last of some requests for tokens brought a token that expires soon. -/
def Due (a : Account.Source) (now : Clock) (asked : List Http.Exchange) : Prop :=
  ∃ t, a.lastToken? now asked = some t ∧ t.expiresWithin Token.refreshMargin now = true

/-- Whether the last of some requests for tokens brought a token that a header can carry. -/
def Authorized (a : Account.Source) (now : Clock) (asked : List Http.Exchange) : Prop :=
  ∃ t, a.lastToken? now asked = some t ∧ t.headerValue?.isSome = true

/-- The rules that the requests of a run follow. -/
structure Protocol (s : Settings) (a : Account.Source) (now : Clock) (c : Conduct) : Prop where
  /-- Tokens are asked for with the order of the account. -/
  token_orders : ∀ e ∈ c.askedForInsertion, ∃ form, a.form? now = some form ∧ e.order = a.order form
  /-- The directory is asked with the patience that the settings allow. -/
  directed : ∀ e ∈ c.calls, e.order.client = (client s a).transport
  /-- The directory is asked for the list first, and then for the insertion, at the same place. -/
  calls : c.calls.map (fun e => (e.order.method, e.order.target, e.order.body)) <+:
    [(.get, schemasUrl s, none), (.post, schemasUrl s, some (insertionBody s))]
  /-- A token is asked for first, if the key signs. -/
  opened : c.opening.isSome = true ↔ (a.form? now).isSome = true
  /-- Another token is asked for before the list if the first one expires soon. -/
  renewed_for_listing : c.listing.renewal.isSome = true ↔ Due a now c.opening.toList
  /-- The list is asked for if there is a token to ask with. -/
  listed : c.listing.call.isSome = true ↔ Authorized a now c.askedForListing
  /-- Another token is asked for before the insertion if there is an insertion, and the token obtained
  last expires soon. -/
  renewed_for_insertion : c.insertion.renewal.isSome = true ↔
    Permits s c.listing ∧ Due a now c.askedForListing
  /-- The insertion is asked for if it is called for and there is a token to ask with. -/
  inserted : c.insertion.call.isSome = true ↔
    Permits s c.listing ∧ Authorized a now c.askedForInsertion
  /-- Nothing is sent after a request that failed. -/
  stops : ∀ e ∈ c.exchanges.dropLast, Succeeds a now e

/-- What holds of all elements but the last one, in each of two lists, and of the last one of the first
list if anything follows, holds of all but the last one in both together. -/
lemma forall_mem_dropLast_append {α : Type} {P : α → Prop} {l l' : List α}
    (all : l' ≠ [] → ∀ x ∈ l, P x) (h : ∀ x ∈ l.dropLast, P x) (h' : ∀ x ∈ l'.dropLast, P x) :
    ∀ x ∈ (l ++ l').dropLast, P x := by
  intro x member
  rcases eq_or_ne l' [] with rfl | follows
  · rw [List.append_nil] at member
    exact h x member
  · rw [List.dropLast_append_of_ne_nil follows, List.mem_append] at member
    exact member.elim (all follows x) (h' x)

/-- An approach at a place that a run reaches or not. -/
structure Orderly (s : Settings) (a : Account.Source) (now : Clock) (p : Approach) (reached : Prop)
    (before : List Http.Exchange) (method : Http.Method) (body : Option Http.Body) : Prop where
  renewal_order : ∀ e ∈ p.renewal, ∃ form, a.form? now = some form ∧ e.order = a.order form
  call_order : ∀ e ∈ p.call, ∃ headers,
    e.order = (client s a).order method (schemasUrl s) body headers
  renewed : p.renewal.isSome = true ↔ reached ∧ Due a now before
  sent : p.call.isSome = true ↔ reached ∧ Authorized a now (p.asked before)

section Rules

variable {s : Settings} {a : Account.Source} {now : Clock} {p : Approach} {reached : Prop}
  {before : List Http.Exchange} {method : Http.Method} {body : Option Http.Body}

/-- A place that is not reached takes nothing. -/
lemma Orderly.of_not (h : ¬reached) : Orderly s a now {} reached before method body :=
  ⟨by simp, by simp, by simp [h], by simp [h]⟩

/-- A request of a client is in order where it is made. -/
lemma Orderly.of_fits {α : Type} {t : Token} {read : List UInt8 → Except Json.Error α}
    {b b' : Session} {result : Except Directory.Error α} (clock : b.clock = now)
    (last : a.lastToken? now before = some t) (h : reached)
    (fits : p.Fits a before t read ((client s a).order method (schemasUrl s) body) b result b') :
    Orderly s a now p reached before method body := by
  subst clock
  refine ⟨fits.renewal_order, fits.call_order, ?_, ?_⟩
  · rw [fits.renewal_due, and_iff_right h]
    unfold Due
    rw [last]
    simp
  · rw [fits.call_sent, and_iff_right h]
    rfl

/-- Nothing happens at a place that is not reached. -/
lemma Orderly.reached_of_begun (h : Orderly s a now p reached before method body)
    (begun : p.exchanges ≠ []) : reached := by
  rcases renewal : p.renewal with _ | e
  · rcases call : p.call with _ | e
    · exact absurd (by rw [Approach.exchanges, renewal, call]; rfl) begun
    · exact (h.sent.mp (by rw [call]; rfl)).1
  · exact (h.renewed.mp (by rw [renewal]; rfl)).1

/-- What an account asks with is a form. -/
lemma succeeds_of_grants {e : Http.Exchange} {t : Token}
    (order : ∃ form, a.form? now = some form ∧ e.order = a.order form) (h : a.Grants now e t) :
    Succeeds a now e := by
  obtain ⟨form, made, order⟩ := order
  obtain ⟨statement, -, rfl⟩ := Option.map_eq_some_iff.mp made
  unfold Succeeds
  rw [order]
  exact ⟨t, h⟩

/-- Where the request is sent, a new token was had if it was asked for. -/
lemma Orderly.renewal_succeeds (h : Orderly s a now p reached before method body)
    (sent : p.call.isSome = true) : ∀ e ∈ p.renewal, Succeeds a now e := by
  intro e member
  obtain ⟨-, t, last, -⟩ := h.sent.mp sent
  exact succeeds_of_grants (h.renewal_order e member) (Approach.grants_of_lastToken? last e member)

/-- An optional element is the last one. -/
lemma forall_mem_dropLast_toList {α : Type} {P : α → Prop} (o : Option α) :
    ∀ x ∈ o.toList.dropLast, P x := by
  cases o <;> simp

/-- Nothing follows a failure within an approach. -/
lemma Orderly.stops (h : Orderly s a now p reached before method body) :
    ∀ e ∈ p.exchanges.dropLast, Succeeds a now e := by
  refine forall_mem_dropLast_append (fun follows e member => ?_) (forall_mem_dropLast_toList _)
    (forall_mem_dropLast_toList _)
  refine h.renewal_succeeds ?_ e (Option.mem_toList.mp member)
  cases call : p.call with
  | none => exact absurd (by rw [call]; rfl) follows
  | some e => rfl

end Rules

/-! ### The rules from what happens at each place -/

section Places

variable {s : Settings} {a : Account.Source} {now : Clock} {c : Conduct} {p : Approach}
  {reached : Prop} {before : List Http.Exchange}

/-- A list that is followed by an insertion was read, and there was a token to ask for it with. -/
lemma Permits.succeeds (permits : Permits s p) (h : Orderly s a now p reached before .get none) :
    p.call.isSome = true ∧ ∀ e ∈ p.exchanges, Succeeds a now e := by
  obtain ⟨-, e, member, l, decodes, -⟩ := permits
  have sent : p.call.isSome = true := Option.isSome_of_mem member
  refine ⟨sent, fun e' member' => ?_⟩
  rcases List.mem_append.mp member' with renewal | call
  · exact h.renewal_succeeds sent e' (Option.mem_toList.mp renewal)
  · obtain rfl : e = e' := Option.mem_unique member (Option.mem_toList.mp call)
    obtain ⟨headers, order⟩ := h.call_order e member
    unfold Succeeds
    rw [order]
    exact ⟨l, decodes⟩

/-- The rules hold of a run if they hold at each place that it reaches. -/
lemma Protocol.of_orderly
    (opening_order : ∀ e ∈ c.opening, ∃ form, a.form? now = some form ∧ e.order = a.order form)
    (opened : c.opening.isSome = true ↔ (a.form? now).isSome = true)
    (listing : Orderly s a now c.listing (∃ t, a.lastToken? now c.opening.toList = some t)
      c.opening.toList .get none)
    (insertion : Orderly s a now c.insertion (Permits s c.listing) c.askedForListing .post
      (some (insertionBody s))) : Protocol s a now c where
  token_orders e member := by
    rcases List.mem_append.mp member with member | member
    · rcases List.mem_append.mp member with member | member
      · exact opening_order e (Option.mem_toList.mp member)
      · exact listing.renewal_order e (Option.mem_toList.mp member)
    · exact insertion.renewal_order e (Option.mem_toList.mp member)
  directed e member := by
    rcases List.mem_append.mp member with member | member
    · obtain ⟨headers, order⟩ := listing.call_order e (Option.mem_toList.mp member)
      rw [order]
      rfl
    · obtain ⟨headers, order⟩ := insertion.call_order e (Option.mem_toList.mp member)
      rw [order]
      rfl
  calls := by
    unfold Conduct.calls
    rcases list : c.listing.call with _ | e
    · rcases insert : c.insertion.call with _ | e'
      · exact List.nil_prefix
      · obtain ⟨permits, -⟩ := insertion.sent.mp (by rw [insert]; rfl)
        have sent := (permits.succeeds listing).1
        rw [list] at sent
        cases sent
    · obtain ⟨headers, order⟩ := listing.call_order e list
      rcases insert : c.insertion.call with _ | e'
      · rw [Option.toList_some, Option.toList_none, List.append_nil, List.map_singleton, order]
        exact ⟨_, rfl⟩
      · obtain ⟨headers', order'⟩ := insertion.call_order e' insert
        rw [Option.toList_some, Option.toList_some, List.singleton_append, List.map_cons,
          List.map_singleton, order, order']
        exact List.prefix_rfl
  opened := opened
  renewed_for_listing := by
    rw [listing.renewed]
    refine and_iff_right_of_imp ?_
    rintro ⟨t, last, -⟩
    exact ⟨t, last⟩
  listed := by
    rw [listing.sent]
    refine and_iff_right_of_imp ?_
    rintro ⟨t, last, -⟩
    rcases renewal : c.listing.renewal with _ | e
    · rw [Approach.asked, renewal, Option.toList_none, List.append_nil] at last
      exact ⟨t, last⟩
    · exact (listing.renewed.mp (by rw [renewal]; rfl)).1
  renewed_for_insertion := insertion.renewed
  inserted := insertion.sent
  stops := by
    refine forall_mem_dropLast_append (fun follows e member => ?_) (forall_mem_dropLast_toList _)
      (forall_mem_dropLast_append (fun follows => ?_) listing.stops insertion.stops)
    · obtain ⟨t, last⟩ : ∃ t, a.lastToken? now c.opening.toList = some t := by
        by_cases begun : c.insertion.exchanges = []
        · rw [begun, List.append_nil] at follows
          exact listing.reached_of_begun follows
        · have sent := ((insertion.reached_of_begun begun).succeeds listing).1
          exact (listing.sent.mp sent).1
      have opening : c.opening = some e := Option.mem_toList.mp member
      rw [opening, Option.toList_some, ← List.nil_append [e]] at last
      exact succeeds_of_grants (opening_order e opening) (a.grants_of_lastToken? last)
    · exact ((insertion.reached_of_begun follows).succeeds listing).2

end Places

/-! ### Every run -/

section Approaches

variable {s : Settings} {a : Account.Source} {b : Session} {t : Token} {form : Http.Body}
  {before : List Http.Exchange}

/-- After a list was read, a run takes an approach to the insertion, if that is called for. -/
lemma exists_insertion (l : SchemaList) (signs : a.form? b.clock = some form)
    (last : a.lastToken? b.clock before = some t) (held : b.token = some t) :
    ∃ q : Approach, Http.Carries b.network q.exchanges (afterListing s a l b).2.network ∧
      Orderly s a b.clock q (s.dryRun = false ∧ Lacks s l) before .post
        (some (insertionBody s)) := by
  unfold afterListing
  by_cases lacks : Lacks s l
  · rw [if_pos lacks]
    cases dryRun : s.dryRun with
    | true => exact ⟨{}, .nil _, .of_not (by simp)⟩
    | false =>
      obtain ⟨q, fits⟩ := Directory.Client.exists_approach (c := client s a) rfl .post (schemasUrl s)
        (some (insertionBody s)) Schema.parse (b := beforeInsertion s l b) signs last held
      refine ⟨q, ?_, .of_fits (b := beforeInsertion s l b) rfl last ⟨rfl, lacks⟩ fits⟩
      have carries := fits.carries
      change Http.Carries b.network q.exchanges ((insertion s a).runOn _).2.network at carries
      rw [if_neg Bool.false_ne_true]
      generalize (insertion s a).runOn (beforeInsertion s l b) = outcome at carries ⊢
      rcases outcome with ⟨e | created, b'⟩ <;> exact carries
  · rw [if_neg lacks]
    exact ⟨{}, .nil _, .of_not fun h => lacks h.2⟩

/-- After a token was obtained, a run takes an approach to the list, and one to the insertion if that
is called for. -/
lemma exists_approaches (signs : a.form? b.clock = some form)
    (last : a.lastToken? b.clock before = some t) (held : b.token = some t) :
    ∃ p q : Approach,
      Http.Carries b.network (p.exchanges ++ q.exchanges) (afterToken s a b).2.network ∧
      Orderly s a b.clock p (∃ t, a.lastToken? b.clock before = some t) before .get none ∧
      Orderly s a b.clock q (Permits s p) (p.asked before) .post (some (insertionBody s)) := by
  obtain ⟨p, fits⟩ := Directory.Client.exists_approach (c := client s a) rfl .get (schemasUrl s) none
    SchemaList.parse (b := beforeListing s b) signs last held
  change p.Fits a before t SchemaList.parse _ _ ((listing s a).runOn _).1
    ((listing s a).runOn _).2 at fits
  have orderly :
      Orderly s a b.clock p (∃ t, a.lastToken? b.clock before = some t) before .get none :=
    .of_fits (b := beforeListing s b) rfl last ⟨t, last⟩ fits
  unfold afterToken
  generalize (listing s a).runOn (beforeListing s b) = outcome at fits ⊢
  rcases outcome with ⟨e | l, b'⟩
  · refine ⟨p, {}, fits.carries.append (.nil _), orderly, .of_not ?_⟩
    rintro ⟨-, e', member, l, decodes, -⟩
    cases (fits.answered l).mpr ⟨e', member, decodes⟩
  · obtain ⟨t', last', held'⟩ := fits.exists_token
    have clock : b'.clock = b.clock := fits.clock
    change a.lastToken? b.clock _ = _ at last'
    rw [← clock] at signs last'
    obtain ⟨q, carries, later⟩ := exists_insertion (s := s) l signs last' held'
    have permits : Permits s p ↔ s.dryRun = false ∧ Lacks s l := by
      refine and_congr_right fun _ => ⟨?_, fun lacks => ?_⟩
      · rintro ⟨e, member, l', decodes, lacks⟩
        obtain rfl : l = l' := Except.ok.inj ((fits.answered l').mpr ⟨e, member, decodes⟩)
        exact lacks
      · obtain ⟨e, member, decodes⟩ := (fits.answered l).mp rfl
        exact ⟨e, member, l, decodes, lacks⟩
    refine ⟨p, q, fits.carries.append carries, orderly, ?_⟩
    rw [permits, ← clock]
    exact later

end Approaches

/-- Every run is carried by some conduct that follows the rules. -/
lemma exists_conduct (s : Settings) (files : Files) {b : Session} (fresh : b.token = none) :
    ∃ c : Conduct, Http.Carries b.network c.exchanges ((provision s files).runOn b).2.network ∧
      match credentials s files with
      | .error _ => c.exchanges = []
      | .ok credentials => ∃ a, credentials = .account a ∧ Protocol s a b.clock c := by
  rcases setup : credentials s files with e | credentials
  · rw [runOn_provision_of_error s setup]
    exact ⟨{}, .nil _, rfl⟩
  · obtain ⟨a, rfl⟩ := exists_account s setup
    suffices h : ∃ c : Conduct,
        Http.Carries b.network c.exchanges ((provision s files).runOn b).2.network ∧
          Protocol s a b.clock c by
      obtain ⟨c, carries, protocol⟩ := h
      exact ⟨c, carries, a, rfl, protocol⟩
    have nothing : Token.reusable? b.clock b.token = none := by
      rw [fresh]
      rfl
    rw [runOn_provision s a setup, Credentials.runOn_token, nothing]
    dsimp only
    cases made : a.form? b.clock with
    | none =>
      refine ⟨{}, .nil _, .of_orderly (by simp) (by simp [made]) (.of_not ?_) (.of_not ?_)⟩
      · rintro ⟨t, last⟩
        cases last
      · rintro ⟨-, e, member, -⟩
        cases member
    | some form =>
      -- The order for the first token is given; only if it is granted does anything follow.
      have member : ∀ e ∈ some ((a.order form).exchange b.network),
          ∃ form, a.form? b.clock = some form ∧ e.order = a.order form := by
        rintro e ⟨⟩
        exact ⟨form, made, rfl⟩
      have last : a.lastToken? b.clock [(a.order form).exchange b.network] =
          (a.granted b.clock ((a.order form).answer b.network)).toOption :=
        a.lastToken?_concat b.clock [] _
      dsimp only
      cases granted : a.granted b.clock ((a.order form).answer b.network) with
      | error e =>
        rw [granted] at last
        refine ⟨{ opening := some ((a.order form).exchange b.network) }, .single _ _,
          .of_orderly member (by simp [made]) (.of_not ?_) (.of_not ?_)⟩
        · rintro ⟨t, some⟩
          cases last.symm.trans some
        · rintro ⟨-, e, member, -⟩
          cases member
      | ok t =>
        rw [granted] at last
        obtain ⟨p, q, carries, listing, insertion⟩ := exists_approaches (s := s)
          (b := ⟨b.clock, (a.order form).after b.network, some t, b.log⟩) made last rfl
        exact ⟨⟨some ((a.order form).exchange b.network), p, q⟩, .cons _ carries,
          .of_orderly member (by simp [made]) listing insertion⟩

/-- Every run follows the rules: there is a conduct that carries it, and what the run adds to the wire
is what went over it for the exchanges of that conduct, each with its own request and the redirects
of that request.  Without credentials there are no exchanges. -/
theorem run_follows_protocol (s : Settings) (files : Files) (clock : Clock) (network : Http.Network) :
    let after := (run s files { clock, network }).2.network
    ∃ c : Conduct, Http.Carries network c.exchanges after ∧
      after.sent = network.sent ++ c.exchanges.flatMap (·.trail) ∧
      (∀ e ∈ c.exchanges, e.Continuous network.reachable) ∧
      match credentials s files with
      | .error _ => c.exchanges = []
      | .ok credentials => ∃ a, credentials = .account a ∧ Protocol s a clock c := by
  intro after
  obtain ⟨c, carries, protocol⟩ := exists_conduct s files (b := { clock, network }) rfl
  have same : after = ((provision s files).runOn { clock, network }).2.network := by
    unfold after
    rw [run_snd]
  rw [same]
  exact ⟨c, carries, carries.sent, carries.continuous, protocol⟩

end WorkspaceSchema.Run
