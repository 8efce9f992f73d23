import Mathlib.Data.List.DropRight
import WorkspaceSchema.Directory.Client
import WorkspaceSchema.Proofs.Url.Percent

/-!
# Where a client asks

The endpoint of a client is the text that was set last, without the slashes at its end.  That is the one
beginning of the text with nothing but slashes behind it and none at its own end
(`exists_trimSlashes`), so neither more slashes nor trimming once more makes a difference.

The text of a request's target is this beginning, with the customer for one segment of a fixed path behind it.
`Percent.isSegment_segment` and `Percent.decode_segment` say what such a segment looks like and what it stands
for.
-/

namespace WorkspaceSchema.Directory

/-- A text of slashes. -/
def slashes (n : Nat) : String :=
  String.ofList (List.replicate n '/')

namespace ClientSetup

/-! ### Slashes at the end -/

/-- What is trimmed is a text without its last slashes. -/
lemma toList_trimSlashes (s : String) : (trimSlashes s).toList = s.toList.rdropWhile (· = '/') :=
  String.toList_ofList

/-- A text is its trimmed part with some slashes behind it, and the trimmed part does not end with one. -/
lemma exists_trimSlashes (s : String) :
    (∃ n, s = trimSlashes s ++ slashes n) ∧ (trimSlashes s).toList.getLast? ≠ some '/' := by
  constructor
  · have only : ∀ c ∈ s.toList.rtakeWhile (· = '/'), c = '/' := by
      intro c member
      have slash := List.mem_rtakeWhile_imp (p := fun c => decide (c = '/')) member
      exact of_decide_eq_true slash
    have whole : s.toList.rdropWhile (· = '/') ++ s.toList.rtakeWhile (· = '/') = s.toList :=
      List.rdropWhile_append_rtakeWhile ..
    rw [List.eq_replicate_of_mem only] at whole
    refine ⟨(s.toList.rtakeWhile (· = '/')).length, ?_⟩
    apply String.toList_inj.mp
    rw [String.toList_append, toList_trimSlashes, slashes, String.toList_ofList, whole]
  · intro last
    rw [toList_trimSlashes] at last
    have filled : s.toList.rdropWhile (· = '/') ≠ [] := by
      intro empty
      rw [empty] at last
      cases last
    have other := List.rdropWhile_last_not (· = '/') s.toList filled
    rw [List.getLast?_eq_some_getLast filled] at last
    exact other (decide_eq_true (Option.some.inj last))

/-- More slashes are trimmed as well. -/
lemma trimSlashes_append_slashes (s : String) (n : Nat) : trimSlashes (s ++ slashes n) = trimSlashes s := by
  apply String.toList_inj.mp
  rw [toList_trimSlashes, toList_trimSlashes, String.toList_append, slashes, String.toList_ofList]
  induction n with
  | zero => rw [List.replicate_zero, List.append_nil]
  | succ n ih =>
    rw [List.replicate_succ', ← List.append_assoc, List.rdropWhile_concat_pos _ _ _ (by decide), ih]

/-! ### Setting up -/

/-- Settings in which the endpoint was set to a text, and has not been set again since. -/
inductive AimsAt (endpoint : String) : ClientSetup → Prop where
  | withEndpoint (setup : ClientSetup) : AimsAt endpoint (setup.withEndpoint endpoint)
  | withCredentials {setup : ClientSetup} (credentials : Credentials) (before : AimsAt endpoint setup) :
      AimsAt endpoint (setup.withCredentials credentials)
  | withTimeout {setup : ClientSetup} (timeout : Duration) (before : AimsAt endpoint setup) :
      AimsAt endpoint (setup.withTimeout timeout)

/-- The text that was set is trimmed, and stays as it is then. -/
lemma AimsAt.endpoint_eq {endpoint : String} {setup : ClientSetup} (aims : AimsAt endpoint setup) :
    setup.endpoint = trimSlashes endpoint := by
  induction aims with
  | withEndpoint setup => rfl
  | withCredentials credentials before ih => exact ih
  | withTimeout timeout before ih => exact ih

/-- A client is as it was set up. -/
lemma endpoint_of_build? {setup : ClientSetup} {c : Client} (built : setup.build? = some c) :
    c.endpoint = setup.endpoint := by
  unfold build? at built
  obtain ⟨credentials, -, rfl⟩ := Option.map_eq_some_iff.mp built
  rfl

end ClientSetup

/-! ### Targets -/

/-- Different customers have different targets. -/
lemma Client.schemasUrl_injective (c : Client) : Function.Injective c.schemasUrl := by
  intro customer customer' same
  unfold schemasUrl at same
  have same := congrArg String.toList same
  simp only [String.toList_append] at same
  have segments := List.append_cancel_left (List.append_cancel_right same)
  exact Url.Percent.segment_injective (String.toList_inj.mp segments)

namespace ClientSetup

/-- The target of a client's requests is the text that its endpoint was set to, without the slashes at the end,
and the path of the schemas behind it.  The path has the customer for one segment, made of unreserved characters
and triplets, that stands for the customer's bytes; so different customers have different targets.  The endpoint
may be set with any number of slashes behind it, and be set to what it has become. -/
theorem schemasUrl_of_aimsAt {endpoint : String} {setup : ClientSetup} {c : Client}
    (aims : AimsAt endpoint setup) (built : setup.build? = some c) :
    (∃ base n, endpoint = base ++ slashes n ∧ base.toList.getLast? ≠ some '/' ∧
      ∀ customer, ∃ segment,
        c.schemasUrl customer = base ++ "/admin/directory/v1/customer/" ++ segment ++ "/schemas" ∧
        Url.Percent.IsSegment segment.toList ∧
        Url.Percent.decode (Utf8.ofString segment) = Utf8.ofString customer) ∧
      (∀ customer customer', customer ≠ customer' → c.schemasUrl customer ≠ c.schemasUrl customer') ∧
      (∀ s : ClientSetup, (s.withEndpoint endpoint).withEndpoint endpoint = s.withEndpoint endpoint ∧
        s.withEndpoint (s.withEndpoint endpoint).endpoint = s.withEndpoint endpoint) ∧
      ∀ (s : ClientSetup) (n : Nat), s.withEndpoint (endpoint ++ slashes n) = s.withEndpoint endpoint := by
  have placed : c.endpoint = trimSlashes endpoint := (endpoint_of_build? built).trans aims.endpoint_eq
  refine ⟨?_, ?_, ?_, ?_⟩
  · obtain ⟨⟨n, whole⟩, last⟩ := exists_trimSlashes endpoint
    refine ⟨trimSlashes endpoint, n, whole, last, ?_⟩
    intro customer
    refine ⟨Url.Percent.segment customer, ?_, ?_, ?_⟩
    · rw [Client.schemasUrl, placed]
    · exact Url.Percent.isSegment_segment customer
    · exact Url.Percent.decode_segment customer
  · intro customer customer' differ same
    exact differ (c.schemasUrl_injective same)
  · intro s
    constructor
    · rfl
    · have trimmed : trimSlashes (trimSlashes endpoint) = trimSlashes endpoint := trimSlashes_trimSlashes endpoint
      unfold withEndpoint
      rw [trimmed]
  · intro s n
    unfold withEndpoint
    rw [trimSlashes_append_slashes]

/-- Settings for a place that is given with two slashes behind it, and other settings later. -/
def localSetup : ClientSetup :=
  ((({} : ClientSetup).withEndpoint "http://[::1]//").withCredentials .static).withTimeout (.ofSeconds 5)

/-- A client with these settings has different targets for a customer with a slash in its name and for one with the
triplet of a slash. -/
theorem schemasUrl_of_aimsAt_sample :
    AimsAt "http://[::1]//" localSetup ∧ localSetup.build? = some ⟨.static, "http://[::1]", .ofSeconds 5⟩ ∧
      Client.schemasUrl ⟨.static, "http://[::1]", .ofSeconds 5⟩ "a/b" ≠
        Client.schemasUrl ⟨.static, "http://[::1]", .ofSeconds 5⟩ "a%2Fb" := by
  have aims : AimsAt "http://[::1]//" localSetup := .withTimeout _ (.withCredentials _ (.withEndpoint {}))
  have built : localSetup.build? = some ⟨.static, "http://[::1]", .ofSeconds 5⟩ := rfl
  obtain ⟨-, different, -⟩ := schemasUrl_of_aimsAt aims built
  exact ⟨aims, built, different "a/b" "a%2Fb" (by decide)⟩

end ClientSetup

end WorkspaceSchema.Directory
