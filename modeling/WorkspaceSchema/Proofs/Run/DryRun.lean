import WorkspaceSchema.Proofs.Run.Result

/-!
# Dry runs

A dry run is meant to show what a run in earnest would do, at no risk.  Both are compared here from one
session and one key file on, with settings that differ in nothing else.

Up to the membership test the two do the same.  So either the run in earnest never comes to the
insertion, and then the dry run is the very same run; or it does, and then the dry run has stopped right
there (`runOn_provision_dry_of_reaches`), having sent what the other one has sent so far.

What a dry run sends holds no schema in any case.  This is read off the rules of `Protocol`: with no
insertion called for, what remains are forms for tokens and a request without a body, and redirects
bring in no other body.
-/

namespace WorkspaceSchema

namespace Settings

/-- The same settings, for a dry run. -/
def dry (s : Settings) : Settings :=
  { s with dryRun := true }

/-- The same settings, in earnest. -/
def earnest (s : Settings) : Settings :=
  { s with dryRun := false }

end Settings

namespace Run

/-! ### What a dry run sends -/

/-- The exchanges of a dry run carry no document. -/
lemma Protocol.body_ne_json {s : Settings} {a : Account.Source} {now : Clock} {c : Conduct}
    (rules : Protocol s a now c) (dry : s.dryRun = true) {e : Http.Exchange}
    (member : e ∈ c.exchanges) (text : String) : e.order.body ≠ some (.json text) := by
  have uninserted : c.insertion.call = none := by
    cases call : c.insertion.call with
    | none => rfl
    | some e' =>
      have permits : Permits s c.listing := (rules.inserted.mp (by rw [call]; rfl)).1
      cases dry.symm.trans permits.1
  rcases c.mem_askedForInsertion_or_mem_calls member with asked | called
  · obtain ⟨form, made, order⟩ := rules.token_orders e asked
    rw [order]
    exact a.body_order_ne made text
  · have calls := rules.calls
    rw [Conduct.calls, uninserted, Option.toList_none, List.append_nil] at calls called
    have listed : c.listing.call = some e := Option.mem_toList.mp called
    rw [listed, Option.toList_some, List.map_singleton, List.cons_prefix_cons] at calls
    have order := calls.1
    rw [(Prod.mk.inj (Prod.mk.inj order).2).2]
    intro same
    cases same

/-- A dry run adds nothing to the wire that carries a document. -/
lemma exists_trail_of_dry {s : Settings} (dry : s.dryRun = true) (files : Files) {b : Session}
    (fresh : b.token = none) :
    ∃ trail, (run s files b).2.network.sent = b.network.sent ++ trail ∧
      ∀ sent ∈ trail, ∀ text, sent.body ≠ some (.json text) := by
  obtain ⟨c, carries, rules⟩ := exists_conduct s files fresh
  rw [run_snd]
  refine ⟨c.exchanges.flatMap (·.trail), carries.sent, fun sent member text => ?_⟩
  have plain : ∀ e ∈ c.exchanges, e.order.body ≠ some (.json text) := by
    intro e among
    cases setup : credentials s files with
    | error e' =>
      rw [setup] at rules
      have nothing : c.exchanges = [] := rules
      rw [nothing] at among
      cases among
    | ok credentials =>
      rw [setup] at rules
      obtain ⟨a, -, protocol⟩ := rules
      exact protocol.body_ne_json dry among text
  rcases carries.body_of_mem member with without | ⟨e, among, same⟩
  · rw [without]
    exact fun h => nomatch h
  · rw [same]
    exact plain e among

/-! ### The two runs -/

section Comparison

variable {s : Settings} {files : Files} {a : Account.Source} {b₀ b : Session}

/-- Where the run in earnest comes to the insertion, the dry run stops, having sent as much. -/
lemma runOn_provision_dry_of_reaches (setup : credentials s files = .ok (.account a))
    (reached : Reaches s.earnest a b₀ .insertion b) :
    ∃ d, (provision s.dry files).runOn b₀ = (.ok .dryRun, d) ∧ d.network = b.network := by
  cases reached with
  | insertion before listed lacks earnest =>
    rename_i l b b'
    cases before with
    | listing obtained =>
      rename_i t b
      have listed' : (listing s.dry a).runOn (beforeListing s.dry b) = (.ok l, b') := listed
      have lacks' : Lacks s.dry l := lacks
      have stops : afterListing s.dry a l b' = (.ok .dryRun,
          (b'.told (.listed l.schemas.length)).told (.skipped s.schemaName s.customerId)) := by
        unfold afterListing
        rw [if_pos lacks']
        exact if_pos rfl
      rw [runOn_provision_of_listing (s := s.dry) setup (.listing obtained), listed']
      exact ⟨_, stops, rfl⟩

/-- Where the run in earnest does not come to the insertion, the dry run is the same run. -/
lemma runOn_provision_dry_of_not_reaches
    (short : ∀ a b, credentials s files = .ok (.account a) → ¬Reaches s.earnest a b₀ .insertion b) :
    (provision s.dry files).runOn b₀ = (provision s.earnest files).runOn b₀ := by
  rcases setup : credentials s files with e | credentials
  · rw [runOn_provision_of_error s.dry setup, runOn_provision_of_error s.earnest setup]
  · obtain ⟨a, rfl⟩ := exists_account s setup
    rw [runOn_provision s.dry a setup, runOn_provision s.earnest a setup]
    rcases obtained : (Credentials.account a).token.runOn b₀ with ⟨e | t, b⟩
    · rfl
    · have reached : Reaches s.earnest a b₀ .listing (beforeListing s.earnest b) := .listing obtained
      have asks : listing s.dry a = listing s.earnest a := rfl
      have begins : beforeListing s.dry b = beforeListing s.earnest b := rfl
      dsimp only
      unfold afterToken
      rw [asks, begins]
      rcases listed : (listing s.earnest a).runOn (beforeListing s.earnest b) with ⟨e | l, b'⟩
      · rfl
      · have present : ¬Lacks s.earnest l :=
          fun lacks => short a _ setup (.insertion reached listed lacks rfl)
        have present' : ¬Lacks s.dry l := present
        dsimp only
        unfold afterListing
        rw [if_neg present, if_neg present']
        rfl

/-- A run in earnest never ends like a dry run. -/
lemma runOn_provision_earnest_ne (b₀ : Session) :
    ((provision s.earnest files).runOn b₀).1 ≠ .ok .dryRun := by
  intro skipped
  have ends := ends_provision s.earnest files b₀
  rw [skipped] at ends
  generalize ((provision s.earnest files).runOn b₀).2 = after at ends
  cases ends with
  | skipped setup reached listed lacks dry => cases dry

/-- A run that comes to the insertion was given time. -/
lemma Reaches.isZero_eq_false (reached : Reaches s a b₀ .insertion b) : s.timeout.isZero = false := by
  cases reached with
  | insertion before listed lacks earnest =>
    cases zero : s.timeout.isZero with
    | false => rfl
    | true =>
      have impatient : (client s a).transport.patience = .none := by
        unfold Directory.Client.transport client
        exact if_pos zero
      exact absurd (congrArg Prod.fst listed)
        (Directory.Client.runOn_execute_of_impatient impatient _ _ _ _ _ _)

/-- A run that comes to the insertion has sent there what belongs to the insertion, and before it what
was sent until then. -/
lemma sent_prefix_of_reaches (setup : credentials s files = .ok (.account a))
    (reached : Reaches s a b₀ .insertion b) :
    b.network.sent <+: ((provision s files).runOn b₀).2.network.sent := by
  obtain ⟨es, carries⟩ := Directory.Client.exists_carries_execute (c := client s a) rfl .post
    (schemasUrl s) (some (insertionBody s)) Schema.parse b
  have sent := carries.sent
  change ((insertion s a).runOn b).2.network.sent = _ at sent
  rw [runOn_provision_of_insertion setup reached]
  generalize (insertion s a).runOn b = outcome at sent ⊢
  rcases outcome with ⟨e | schema, b'⟩ <;> exact ⟨_, sent.symm⟩

end Comparison

/-- A dry run shows what a run in earnest would do, wherever every reply comes in full or not at all.
What it sends is what the run in earnest sends first, and holds no document.  It says that it is a dry
run exactly if the run in earnest comes to the insertion, and is the very same run otherwise. -/
theorem dry_run_previews_run (s : Settings) (files : Files) (clock : Clock) (reachable : Bool)
    (replies : List Http.Reply) (prompt : ∀ reply ∈ replies, reply.isPrompt = true) :
    let b₀ : Session := { clock, network := { reachable, replies } }
    let (result, after) := run s.dry files b₀
    after.network.sent <+: (run s.earnest files b₀).2.network.sent ∧
      (∀ sent ∈ after.network.sent, ∀ text, sent.body ≠ some (.json text)) ∧
      (result = .ok .dryRun ↔ ∃ a b, credentials s files = .ok (.account a) ∧
        Reaches s.earnest a b₀ .insertion b) ∧
      (result ≠ .ok .dryRun → run s.earnest files b₀ = (result, after)) := by
  intro b₀
  have harmless : ∀ sent ∈ (run s.dry files b₀).2.network.sent, ∀ text,
      sent.body ≠ some (.json text) := by
    obtain ⟨trail, sent, plain⟩ := exists_trail_of_dry (s := s.dry) rfl files (b := b₀) rfl
    rwa [sent]
  by_cases reaches : ∃ a b, credentials s files = .ok (.account a) ∧
      Reaches s.earnest a b₀ .insertion b
  · obtain ⟨a, b, setup, reached⟩ := reaches
    obtain ⟨d, stopped, network⟩ := runOn_provision_dry_of_reaches setup reached
    have inTime : isLate s.dry b₀ d = false := by
      have late := isLate_iff s.dry files (b := b₀) rfl rfl rfl prompt
      have timed : s.dry.timeout.isZero = false := reached.isZero_eq_false
      rw [stopped, timed] at late
      simpa using late
    have answered : run s.dry files b₀ = (.ok .dryRun, d) := by
      unfold run
      rw [stopped]
      dsimp only
      rw [inTime]
      rfl
    rw [answered] at harmless ⊢
    refine ⟨?_, harmless, iff_of_true rfl ⟨a, b, setup, reached⟩, fun h => absurd rfl h⟩
    rw [run_snd, network]
    exact sent_prefix_of_reaches (s := s.earnest) setup reached
  · have same : run s.earnest files b₀ = run s.dry files b₀ := by
      unfold run
      rw [runOn_provision_dry_of_not_reaches fun a b setup reached => reaches ⟨a, b, setup, reached⟩]
      rfl
    have other : (run s.dry files b₀).1 ≠ .ok .dryRun := by
      rw [← same]
      unfold run
      dsimp only
      split
      · exact fun h => nomatch h
      · exact runOn_provision_earnest_ne b₀
    rw [same]
    exact ⟨List.prefix_rfl, harmless, iff_of_false other reaches, fun _ => rfl⟩

/-- Where no schema is found, the run of the sample account comes to the insertion, and its dry run says so. -/
theorem dry_run_of_sample :
    let b₀ := sampleSession (sampleReplies "A")
    (∀ reply ∈ sampleReplies "A", reply.isPrompt = true) ∧
      (run sampleSettings.dry (sampleFiles (sampleRsaKey 7 5 6 5)) b₀).1 = .ok .dryRun ∧
      (run sampleSettings.dry (sampleFiles (sampleRsaKey 7 5 6 5)) b₀).2.network.sent <+:
        (run sampleSettings.earnest (sampleFiles (sampleRsaKey 7 5 6 5)) b₀).2.network.sent := by
  obtain ⟨usable, -⟩ := isUsable_samples
  generalize sampleRsaKey 7 5 6 5 = k at usable ⊢
  intro b₀
  have prompt : ∀ reply ∈ sampleReplies "A", reply.isPrompt = true := List.all_eq_true.mp (by decide)
  have setup := credentials_sample usable
  obtain ⟨b, reached, -⟩ := exists_reaches_sample usable []
  rw [List.append_nil] at reached
  -- Nothing else matters of the key file.
  generalize sampleFiles k = files at setup ⊢
  have previews := dry_run_previews_run sampleSettings files ⟨0, 0⟩ true (sampleReplies "A") prompt
  extract_lets b₁ at previews
  rcases outcome : run sampleSettings.dry files b₁ with ⟨result, after⟩
  rw [outcome] at previews
  obtain ⟨before, -, stops, -⟩ := previews
  rw [show run sampleSettings.dry files b₀ = (result, after) from outcome]
  exact ⟨prompt, stops.mpr ⟨sampleSource k, b, setup, reached⟩, before⟩

end Run

end WorkspaceSchema
