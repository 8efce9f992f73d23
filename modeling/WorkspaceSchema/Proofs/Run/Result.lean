import WorkspaceSchema.Proofs.Run.Protocol
import WorkspaceSchema.Proofs.Run.Sample

/-!
# The result of a run

A run ends with the first thing that goes wrong, and this file says so without the program: `Ends`
lists the ways in which a run may end, each with what has to come before it and what it leaves behind.
A token is needed at three stages.  `Reaches` tells in which session a run gets to a stage, and
`Unauthorized` why it may get no further there, so that the three stages share one rule.

`provision_eq_iff_ends` shows that a run ends in one of these ways and in no other.  In one direction
the run is followed step by step; in the other each way to end determines what the run does.  Time is
over only where nothing was to be had in time: if every reply comes in full or not at all, that is the
case only for a run that was given no time.
-/

namespace WorkspaceSchema.Run

/-- The points of a run at which it needs a token. -/
inductive Stage where
  | opening
  | listing
  | insertion
deriving DecidableEq

/-- The session in which a run comes to a stage, if it gets so far. -/
inductive Reaches (s : Settings) (a : Account.Source) (b₀ : Session) : Stage → Session → Prop where
  | opening : Reaches s a b₀ .opening b₀
  | listing {t : Token} {b : Session}
      (obtained : (Credentials.account a).token.runOn b₀ = (.ok t, b)) :
      Reaches s a b₀ .listing (beforeListing s b)
  | insertion {l : SchemaList} {b b' : Session} (before : Reaches s a b₀ .listing b)
      (listed : (Run.listing s a).runOn b = (.ok l, b')) (lacks : Lacks s l)
      (earnest : s.dryRun = false) : Reaches s a b₀ .insertion (beforeInsertion s l b')

/-- Why there is no token at a stage, or none that a header can carry, and the session then. -/
inductive Unauthorized (a : Account.Source) (b : Session) : Stage → Token.Error → Session → Prop where
  /-- No token is held or one that expires soon, and no other one can be had. -/
  | minting {stage : Stage} {e : Token.Error} {b' : Session}
      (due : b.token = none ∨
        ∃ t, b.token = some t ∧ t.expiresWithin Token.refreshMargin b.clock = true)
      (fails : a.fetch.runOn b = (.error e, b')) : Unauthorized a b stage e b'
  /-- There is a token, but no header can carry it. -/
  | header {stage : Stage} {t : Token} {b' : Session} (sends : stage ≠ .opening)
      (had : (Credentials.account a).token.runOn b = (.ok t, b')) (illegal : t.headerValue? = none) :
      Unauthorized a b stage ⟨false, .header⟩ b'

/-- How a run ends, and the session that it leaves. -/
inductive Ends (s : Settings) (files : Files) (b₀ : Session) :
    Except Error Outcome → Session → Prop where
  /-- The key file cannot be loaded, or the account cannot be set up. -/
  | credential {e : Account.Error}
      (broken : Account.load files s.credentialsFile = .error e ∨
        ∃ document, Account.load files s.credentialsFile = .ok document ∧
          (accountSetup s document).build = .error e) :
      Ends s files b₀ (.error (.credential e)) b₀
  /-- There is no token where one is needed. -/
  | authorization {a : Account.Source} {stage : Stage} {e : Token.Error} {b b' : Session}
      (setup : credentials s files = .ok (.account a)) (reached : Reaches s a b₀ stage b)
      (fails : Unauthorized a b stage e b') : Ends s files b₀ (.error (.authorization e)) b'
  /-- The list is asked for, and fails. -/
  | listing {a : Account.Source} {headers : Http.Headers} {e : Directory.Error} {b b' : Session}
      (setup : credentials s files = .ok (.account a)) (reached : Reaches s a b₀ .listing b)
      (authorized : ((Credentials.account a).headers.runOn b).1 = .ok headers)
      (fails : (listing s a).runOn b = (.error e, b')) :
      Ends s files b₀ (.error (.remoteService e)) b'
  /-- The insertion is asked for, and fails. -/
  | insertion {a : Account.Source} {headers : Http.Headers} {e : Directory.Error} {b b' : Session}
      (setup : credentials s files = .ok (.account a)) (reached : Reaches s a b₀ .insertion b)
      (authorized : ((Credentials.account a).headers.runOn b).1 = .ok headers)
      (fails : (insertion s a).runOn b = (.error e, b')) :
      Ends s files b₀ (.error (.remoteService e)) b'
  /-- The schema is in the list. -/
  | present {a : Account.Source} {l : SchemaList} {b b' : Session}
      (setup : credentials s files = .ok (.account a)) (reached : Reaches s a b₀ .listing b)
      (listed : (listing s a).runOn b = (.ok l, b')) (present : ¬Lacks s l) :
      Ends s files b₀ (.ok .alreadyExists)
        ((b'.told (.listed l.schemas.length)).told (.present s.schemaName s.customerId))
  /-- The schema is not in the list, and the run is not in earnest. -/
  | skipped {a : Account.Source} {l : SchemaList} {b b' : Session}
      (setup : credentials s files = .ok (.account a)) (reached : Reaches s a b₀ .listing b)
      (listed : (listing s a).runOn b = (.ok l, b')) (lacks : Lacks s l) (dry : s.dryRun = true) :
      Ends s files b₀ (.ok .dryRun)
        ((b'.told (.listed l.schemas.length)).told (.skipped s.schemaName s.customerId))
  /-- The schema is inserted. -/
  | created {a : Account.Source} {schema : Schema} {b b' : Session}
      (setup : credentials s files = .ok (.account a)) (reached : Reaches s a b₀ .insertion b)
      (inserted : (insertion s a).runOn b = (.ok schema, b')) :
      Ends s files b₀ (.ok (.created schema))
        ((b'.told (.inserted schema.schemaId)).told
          (.created schema.schemaName schema.schemaId s.customerId))

/-! ### Why there is no token -/

section Authorization

variable {a : Account.Source} {b b' : Session} {e : Token.Error}

/-- At the opening a run needs a token, and asks for no header. -/
lemma unauthorized_opening_iff :
    Unauthorized a b .opening e b' ↔ (Credentials.account a).token.runOn b = (.error e, b') := by
  rw [Credentials.runOn_token_eq_error_iff]
  constructor
  · rintro (⟨due, fails⟩ | ⟨sends, -, -⟩)
    · exact ⟨due, fails⟩
    · exact absurd rfl sends
  · rintro ⟨due, fails⟩
    exact .minting due fails

/-- At the other stages a run needs headers. -/
lemma unauthorized_iff {stage : Stage} (sends : stage ≠ .opening) :
    Unauthorized a b stage e b' ↔ (Credentials.account a).headers.runOn b = (.error e, b') := by
  rw [Credentials.runOn_headers_eq_error_iff, Credentials.runOn_token_eq_error_iff]
  constructor
  · rintro (⟨due, fails⟩ | ⟨-, had, illegal⟩)
    · exact .inl ⟨due, fails⟩
    · exact .inr ⟨_, had, illegal, rfl⟩
  · rintro (⟨due, fails⟩ | ⟨t, had, illegal, rfl⟩)
    · exact .minting due fails
    · exact .header sends had illegal

end Authorization

/-! ### What a run does from a stage on -/

section Stages

variable {s : Settings} {files : Files} {a : Account.Source} {b₀ b : Session}

/-- What the run comes to is decided by the list, once it is asked for. -/
lemma runOn_provision_of_listing (setup : credentials s files = .ok (.account a))
    (reached : Reaches s a b₀ .listing b) :
    (provision s files).runOn b₀ = match (listing s a).runOn b with
      | (.error e, b') => (.error (.ofDirectory e), b')
      | (.ok l, b') => afterListing s a l b' := by
  cases reached with
  | listing obtained =>
    rw [runOn_provision s a setup, obtained]
    rfl

/-- What the run comes to is decided by the insertion, once it is asked for. -/
lemma runOn_provision_of_insertion (setup : credentials s files = .ok (.account a))
    (reached : Reaches s a b₀ .insertion b) :
    (provision s files).runOn b₀ = match (insertion s a).runOn b with
      | (.error e, b') => (.error (.ofDirectory e), b')
      | (.ok schema, b') => (.ok (.created schema), (b'.told (.inserted schema.schemaId)).told
          (.created schema.schemaName schema.schemaId s.customerId)) := by
  cases reached with
  | insertion before listed lacks earnest =>
    rw [runOn_provision_of_listing setup before, listed]
    dsimp only
    unfold afterListing
    exact (if_pos lacks).trans (if_neg (by simp [earnest]))

/-- A request that fails although there is a token fails for a reason of its own. -/
lemma ofDirectory_of_authorized {α : Type} {method : Http.Method} {body : Option Http.Body}
    {read : List UInt8 → Except Json.Error α} {headers : Http.Headers} {e : Directory.Error}
    {b' : Session} (authorized : ((Credentials.account a).headers.runOn b).1 = .ok headers)
    (fails : ((client s a).execute method (schemasUrl s) body read).runOn b = (.error e, b')) :
    Error.ofDirectory e = .remoteService e := by
  unfold Error.ofDirectory
  rcases Directory.Client.runOn_execute_eq_error _ _ _ _ _ fails with
    ⟨error, rfl, failed⟩ | ⟨headers, -, other⟩
  · change (Credentials.account a).headers.runOn b = _ at failed
    rw [failed] at authorized
    cases authorized
  · rw [other]

/-- Each way to end is what the run does. -/
lemma runOn_provision_of_ends {result : Except Error Outcome} (h : Ends s files b₀ result b) :
    (provision s files).runOn b₀ = (result, b) := by
  cases h with
  | credential broken =>
    exact runOn_provision_of_error s ((credentials_eq_error_iff s).mpr broken) b₀
  | authorization setup reached fails =>
    -- Wherever the error of the credentials arises, it is the same error that comes out.
    cases reached with
    | opening => rw [runOn_provision s _ setup, unauthorized_opening_iff.mp fails]
    | listing obtained =>
      have failed := (unauthorized_iff (by simp)).mp fails
      rw [runOn_provision_of_listing setup (.listing obtained), listing,
        Directory.Client.runOn_execute_of_error _ _ _ _ _ failed]
      rfl
    | insertion before listed lacks earnest =>
      have failed := (unauthorized_iff (by simp)).mp fails
      rw [runOn_provision_of_insertion setup (.insertion before listed lacks earnest), insertion,
        Directory.Client.runOn_execute_of_error _ _ _ _ _ failed]
      rfl
  | listing setup reached authorized fails =>
    rw [runOn_provision_of_listing setup reached, fails]
    dsimp only
    rw [ofDirectory_of_authorized authorized fails]
  | insertion setup reached authorized fails =>
    rw [runOn_provision_of_insertion setup reached, fails]
    dsimp only
    rw [ofDirectory_of_authorized authorized fails]
  | present setup reached listed present =>
    rw [runOn_provision_of_listing setup reached, listed]
    dsimp only
    unfold afterListing
    rw [if_neg present]
  | skipped setup reached listed lacks dry =>
    rw [runOn_provision_of_listing setup reached, listed]
    dsimp only
    unfold afterListing
    rw [if_pos lacks, dry, if_pos rfl]
  | created setup reached inserted =>
    rw [runOn_provision_of_insertion setup reached, inserted]

/-- A request that fails where a token is needed ends the run in one of two ways. -/
lemma ends_of_failed {stage : Stage} {α : Type} {method : Http.Method} {body : Option Http.Body}
    {read : List UInt8 → Except Json.Error α} {e : Directory.Error} {b' : Session}
    (sends : stage ≠ .opening) (setup : credentials s files = .ok (.account a))
    (reached : Reaches s a b₀ stage b)
    (fails : ((client s a).execute method (schemasUrl s) body read).runOn b = (.error e, b'))
    (other : ∀ headers, ((Credentials.account a).headers.runOn b).1 = .ok headers →
      Ends s files b₀ (.error (.remoteService e)) b') :
    Ends s files b₀ (.error (.ofDirectory e)) b' := by
  rcases Directory.Client.runOn_execute_eq_error _ _ _ _ _ fails with
    ⟨error, rfl, failed⟩ | ⟨headers, authorized, -⟩
  · exact .authorization setup reached ((unauthorized_iff sends).mpr failed)
  · rw [ofDirectory_of_authorized authorized fails]
    exact other headers authorized

/-- A run ends in one of the ways. -/
lemma ends_provision (s : Settings) (files : Files) (b₀ : Session) :
    Ends s files b₀ ((provision s files).runOn b₀).1 ((provision s files).runOn b₀).2 := by
  rcases setup : credentials s files with e | credentials
  · rw [runOn_provision_of_error s setup]
    exact .credential ((credentials_eq_error_iff s).mp setup)
  · obtain ⟨a, rfl⟩ := exists_account s setup
    rcases obtained : (Credentials.account a).token.runOn b₀ with ⟨e | t, b⟩
    · rw [runOn_provision s a setup, obtained]
      exact .authorization setup .opening (unauthorized_opening_iff.mpr obtained)
    · have reached : Reaches s a b₀ .listing _ := .listing obtained
      rw [runOn_provision_of_listing setup reached]
      rcases listed : (listing s a).runOn (beforeListing s b) with ⟨e | l, b'⟩
      · exact ends_of_failed (by simp) setup reached listed
          fun headers authorized => .listing setup reached authorized listed
      · dsimp only
        unfold afterListing
        by_cases lacks : Lacks s l
        · cases dryRun : s.dryRun with
          | true =>
            rw [if_pos lacks, if_pos rfl]
            exact .skipped setup reached listed lacks dryRun
          | false =>
            rw [if_pos lacks, if_neg Bool.false_ne_true]
            have reached' := Reaches.insertion reached listed lacks dryRun
            rcases inserted : (insertion s a).runOn (beforeInsertion s l b') with ⟨e | schema, b''⟩
            · exact ends_of_failed (by simp) setup reached' inserted
                fun headers authorized => .insertion setup reached' authorized inserted
            · exact .created setup reached' inserted
        · rw [if_neg lacks]
          exact .present setup reached listed lacks

/-- What a run does, whatever time it takes, is one of the ways to end and no other one. -/
lemma provision_eq_iff_ends {result : Except Error Outcome} :
    (provision s files).runOn b₀ = (result, b) ↔ Ends s files b₀ result b := by
  constructor
  · intro h
    have ends := ends_provision s files b₀
    rwa [h] at ends
  · exact runOn_provision_of_ends

end Stages

/-! ### The time allowed -/

/-- A client without patience is that of a run that is given no time. -/
lemma Protocol.isZero_of_impatient {s : Settings} {a : Account.Source} {now : Clock} {c : Conduct}
    (h : Protocol s a now c) {e : Http.Exchange} (member : e ∈ c.exchanges)
    (impatient : e.order.client.patience = .none) : s.timeout.isZero = true := by
  rcases c.mem_askedForInsertion_or_mem_calls member with asked | called
  · obtain ⟨form, -, order⟩ := h.token_orders e asked
    rw [order] at impatient
    cases impatient
  · rw [h.directed e called] at impatient
    change (if s.timeout.isZero = true then _ else _) = _ at impatient
    split at impatient
    · assumption
    · cases impatient

/-- Where every reply comes in full or not at all, time is over only for a run that is given none, and
that has sent something. -/
lemma isLate_iff (s : Settings) (files : Files) {b : Session} (fresh : b.token = none)
    (unsent : b.network.sent = []) (idle : b.network.waited = false)
    (prompt : ∀ reply ∈ b.network.replies, reply.isPrompt = true) :
    isLate s b ((provision s files).runOn b).2 = true ↔
      s.timeout.isZero = true ∧ ((provision s files).runOn b).2.network.sent ≠ [] := by
  obtain ⟨c, carries, rules⟩ := exists_conduct s files fresh
  unfold isLate
  rw [Bool.or_eq_true, Bool.and_eq_true, decide_eq_true_iff, unsent, List.length_nil,
    List.length_pos_iff]
  refine or_iff_right_of_imp fun waited => ?_
  rcases carries.waited waited with before | ⟨trail, ⟨e, member, impatient⟩ | ⟨reply, member, late⟩⟩
  · rw [idle] at before
    cases before
  · refine ⟨?_, ?_⟩
    · cases setup : credentials s files with
      | error e' =>
        rw [setup] at rules
        have nothing : c.exchanges = [] := rules
        rw [nothing] at member
        cases member
      | ok credentials =>
        rw [setup] at rules
        obtain ⟨a, -, protocol⟩ := rules
        exact protocol.isZero_of_impatient member impatient
    · rwa [carries.sent, unsent]
  · rw [prompt reply member] at late
    cases late

/-- A run ends with the first thing that goes wrong, or else well, in one of the ways that `Ends` lists
and in no other: wherever every reply comes in full or not at all.  The one exception is a run that is
given no time, which is too late as soon as it has sent something. -/
theorem run_eq_iff_ends (s : Settings) (files : Files) (clock : Clock) (reachable : Bool)
    (replies : List Http.Reply) (prompt : ∀ reply ∈ replies, reply.isPrompt = true) :
    let b₀ : Session := { clock, network := { reachable, replies } }
    if s.timeout.isZero = true ∧ (run s files b₀).2.network.sent ≠ [] then
      (run s files b₀).1 = .error (.timeout s.timeout)
    else ∀ result after, run s files b₀ = (result, after) ↔ Ends s files b₀ result after := by
  intro b₀
  have late := isLate_iff s files (b := b₀) rfl rfl rfl prompt
  rw [run_snd]
  split
  case isTrue tooLate =>
    unfold run
    dsimp only
    rw [if_pos (late.mpr tooLate)]
  case isFalse inTime =>
    intro result after
    rw [← provision_eq_iff_ends]
    unfold run
    dsimp only
    rw [if_neg (mt late.mp inTime)]

/-- The run of the sample account that finds no schema comes to the insertion. -/
lemma exists_reaches_sample {k : RsaKey} (usable : IsUsable k) (later : List Http.Reply) :
    ∃ b, Reaches sampleSettings (sampleSource k) (sampleSession (sampleReplies "A" ++ later)) .insertion b ∧
      b.token = some sampleToken ∧ b.network.reachable = true ∧ b.network.replies = later := by
  obtain ⟨form, signs⟩ := usable.exists_form
  obtain ⟨b, obtained, held, reached, next⟩ : ∃ b, (Credentials.account (sampleSource k)).token.runOn
      (sampleSession (sampleReplies "A" ++ later)) = (.ok sampleToken, b) ∧ b.token = some sampleToken ∧
      b.network.reachable = true ∧ b.network.replies = .answer 200 [] (Utf8.ofString "\x7b\x7d") :: later :=
    ⟨_, runOn_token_sample signs rfl rfl rfl, rfl, rfl, rfl⟩
  have empty : SchemaList.parse (Utf8.ofString "\x7b\x7d") = .ok {} := rfl
  obtain ⟨b', listed, held, reached, left⟩ := exists_runOn_execute_sample (k := k)
    (b := beforeListing sampleSettings b) held reached next .get none empty
  exact ⟨_, .insertion (.listing obtained) listed (by decide) rfl, held, reached, left⟩

/-- The sample account gets a token, an empty list and the schema that it inserts, and its run ends well. -/
theorem run_creates_sample :
    let replies := sampleReplies "A" ++ [.answer 200 [] (Utf8.ofString "\x7b\"schemaName\":\"S\"\x7d")]
    (∀ reply ∈ replies, reply.isPrompt = true) ∧ ∃ schema after,
      run sampleSettings (sampleFiles (sampleRsaKey 7 5 6 5)) (sampleSession replies) =
        (.ok (.created schema), after) ∧ schema.schemaName = "S" := by
  obtain ⟨usable, -⟩ := isUsable_samples
  generalize sampleRsaKey 7 5 6 5 = k at usable ⊢
  intro replies
  have prompt : ∀ reply ∈ replies, reply.isPrompt = true := List.all_eq_true.mp (by decide)
  obtain ⟨b, reached, held, reachable, left⟩ :=
    exists_reaches_sample usable [.answer 200 [] (Utf8.ofString "\x7b\"schemaName\":\"S\"\x7d")]
  have kept : Schema.parse (Utf8.ofString "\x7b\"schemaName\":\"S\"\x7d") = .ok { schemaName := "S" } := rfl
  obtain ⟨after, inserted, -⟩ := exists_runOn_execute_sample (k := k) held reachable left .post
    (some (insertionBody sampleSettings)) kept
  have decided := run_eq_iff_ends sampleSettings (sampleFiles k) ⟨0, 0⟩ true replies prompt
  have timed : sampleSettings.timeout.isZero = false := by decide
  dsimp only at decided
  rw [if_neg (by simp [timed])] at decided
  exact ⟨prompt, _, _, (decided _ _).mpr (.created (credentials_sample usable) reached inserted), rfl⟩

end WorkspaceSchema.Run
