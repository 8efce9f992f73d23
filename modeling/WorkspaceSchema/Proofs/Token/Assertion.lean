import WorkspaceSchema.Proofs.Account
import WorkspaceSchema.Proofs.Base64
import WorkspaceSchema.Proofs.Credentials
import WorkspaceSchema.Proofs.Json.Parser
import WorkspaceSchema.Proofs.Run.Sample
import WorkspaceSchema.Text.Split

/-!
# Reading an assertion

A token endpoint takes an assertion apart: there are three parts with dots between them, of which the
first two are documents and the third is a signature.  `Token.Assertion.read?` does what such an endpoint
does, and `read?_compact` says that it finds what was stated, whatever texts the statement is made of.

None of the three parts has a dot in it, as they are written in Base64, and a document is read back from
its text with its members in order.  The dates have to fit 64 bits.
-/

namespace WorkspaceSchema

namespace Token.Assertion

/-- The document in one part of a statement. -/
def document? (part : List Char) : Option Json := do
  let text ← Base64.decode? part
  (Json.parse text).toOption

/-- The two documents and the signature of a statement. -/
def read? (statement : String) : Option (Json × Json × List UInt8) := do
  let [header, claims, signature] := Text.splitAll (· = '.') statement.toList | none
  return (← document? header, ← document? claims, ← Base64.decode? signature)

variable (a : Assertion)

/-- A document is found in the part that was written for it. -/
lemma document?_encoded {j : Json} (readable : j.isReadable Json.maxLevels = true) :
    document? (encoded j) = some j.sorted := by
  unfold document? encoded
  rw [Base64.decode?_encode]
  change (Json.parse (Json.bytes j)).toOption = _
  rw [← Json.ofString_print, Json.parse_ofString_print readable]
  rfl

/-- The parts of a statement are those that were put together. -/
lemma splitAll_compact (signature : List UInt8) :
    Text.splitAll (· = '.') (a.compact signature).toList =
      [encoded a.header, encoded a.claims, Base64.encode signature] := by
  have dotless (bytes : List UInt8) : ∀ c ∈ Base64.encode bytes, decide (c = '.') = false := by
    intro c member
    exact decide_eq_false fun dot => Account.not_mem_encode bytes (dot ▸ member)
  have together : (a.compact signature).toList =
      encoded a.header ++ '.' :: (encoded a.claims ++ '.' :: Base64.encode signature) := by
    unfold compact signed
    simp
  unfold encoded at together ⊢
  rw [together, Text.splitAll_append_cons (dotless _) rfl, Text.splitAll_append_cons (dotless _) rfl,
    Text.splitAll_eq_singleton (dotless _)]

lemma isReadable_header : a.header.isReadable Json.maxLevels = true :=
  rfl

/-- The header in order. -/
lemma sorted_header :
    a.header.sorted = .object [("alg", .text "RS256"), ("kid", .text a.keyId), ("typ", .text "JWT")] := by
  have names : ["alg", "kid", "typ"].Pairwise (· < ·) := by decide
  unfold header
  simp only [Json.sorted, Json.sortedMembers]
  exact Json.ofMembers_eq_of_perm (.cons _ (.swap _ _ _)) (List.pairwise_map.mp names)

/-- The claims can be read as long as their dates fit 64 bits. -/
lemma isReadable_claims (earliest : -(Json.negativeLimit : Int) ≤ a.issuedAt)
    (latest : a.expiresAt < Json.significandLimit) : a.claims.isReadable Json.maxLevels = true := by
  have later : a.expiresAt = a.issuedAt + 3600 := rfl
  have dates : (-(Json.negativeLimit : Int) ≤ a.expiresAt ∧ a.expiresAt < Json.significandLimit) ∧
      -(Json.negativeLimit : Int) ≤ a.issuedAt ∧ a.issuedAt < Json.significandLimit := by omega
  unfold claims
  change (decide (127 ≠ 0) && List.all _ _) = true
  cases a.subject <;> simpa [Json.isReadable] using dates

/-- The claims in order. -/
lemma sorted_claims :
    a.claims.sorted = .object ([
      ("aud", .text a.audience),
      ("exp", .number (.integer a.expiresAt)),
      ("iat", .number (.integer a.issuedAt)),
      ("iss", .text a.issuer),
      ("scope", .text a.scope)] ++ (a.subject.map fun subject => ("sub", Json.text subject)).toList) := by
  have names : ["aud", "exp", "iat", "iss", "scope", "sub"].Pairwise (· < ·) := by decide
  unfold claims
  -- The issuer and the scope come first in the statement, and behind the other three in order.
  cases a.subject with
  | none =>
    simp only [Json.sorted, List.append_nil, Json.sortedMembers]
    refine Json.ofMembers_eq_of_perm (@List.perm_append_comm _ [_, _] [_, _, _]) ?_
    exact List.pairwise_map.mp (names.sublist (List.sublist_append_left _ ["sub"]))
  | some subject =>
    simp only [Json.sorted, List.cons_append, List.nil_append, Json.sortedMembers]
    refine Json.ofMembers_eq_of_perm ((@List.perm_append_comm _ [_, _] [_, _, _]).append_right [_]) ?_
    exact List.pairwise_map.mp names

/-- What was stated is read in a statement, with the signature. -/
theorem read?_compact (earliest : -(Json.negativeLimit : Int) ≤ a.issuedAt)
    (latest : a.expiresAt < Json.significandLimit) (signature : List UInt8) :
    read? (a.compact signature) = some (a.header.sorted, a.claims.sorted, signature) := by
  unfold read?
  rw [a.splitAll_compact]
  simp [document?_encoded a.isReadable_header, document?_encoded (a.isReadable_claims earliest latest),
    Base64.decode?_encode]

end Token.Assertion

namespace Account

/-- The scopes of an account are had back from the text that is stated, if no scope has a space in it. -/
lemma splitAll_scope {scopes : List String} (asked : scopes ≠ [])
    (spaceless : ∀ scope ∈ scopes, ' ' ∉ scope.toList) :
    (Text.splitAll (· = ' ') (" ".intercalate scopes).toList).map String.ofList = scopes := by
  have whole : ∀ part ∈ scopes.map String.toList, ∀ c ∈ part, decide (c = ' ') = false := by
    simp only [List.forall_mem_map]
    intro scope member c here
    exact decide_eq_false fun space => spaceless scope member (space ▸ here)
  rw [String.toList_intercalate]
  change (Text.splitAll _ ([' '].intercalate _)).map _ = _
  rw [Text.splitAll_intercalate rfl (mt List.map_eq_nil_iff.mp asked) whole]
  simp

/-- An account that is set up asks for some scopes. -/
lemma Setup.scopes_ne_nil_of_build {s : Setup} {a : Source} (built : s.build = .ok a) : s.scopes ≠ [] := by
  intro none
  have missing : s.scopes.isEmpty = true := List.isEmpty_iff.mpr none
  unfold build at built
  split at built
  · cases built
  · split at built
    · cases built
    · split at built
      · cases built
      · split at built
        · cases built
        · cases built
  · cases built

/-- An account that is set up either cannot sign, and then nothing is sent, or it posts to its endpoint,
beside the kind of grant, a statement in which one reads what it has to state: how it is signed and with
which key, and who asks whom for what on whose behalf, from ten seconds ago on for an hour.  The scopes can
be told apart if there are no spaces in them. -/
theorem Setup.fetch_posts_assertion {s : Setup} {a : Source} (built : s.build = .ok a) {b : Session}
    (earliest : -2 ^ 63 ≤ b.clock.day - 10) (latest : b.clock.day - 10 + 3600 < 2 ^ 63) :
    a.form? b.clock = none ∧ a.fetch.runOn b = (.error ⟨false, .signing⟩, b) ∨
      ∃ key tokenUri statement signature, ∃ order : Http.Order,
        Key.ofJson s.document = .ok key ∧
        tokenUri = (s.tokenUri.or key.tokenUri).getD defaultTokenUri ∧
        order = ⟨⟨.endless⟩, .post, tokenUri, [],
          some (.form [("grant_type", Token.grantType), ("assertion", statement)])⟩ ∧
        a.fetch.runOn b = (a.granted b.clock (order.answer b.network),
          { b with network := order.after b.network }) ∧
        Token.Assertion.read? statement = some (
          .object [("alg", .text "RS256"), ("kid", .text key.privateKeyId), ("typ", .text "JWT")],
          .object ([
            ("aud", .text tokenUri),
            ("exp", .number (.integer (b.clock.day - 10 + 3600))),
            ("iat", .number (.integer (b.clock.day - 10))),
            ("iss", .text key.clientEmail),
            ("scope", .text (" ".intercalate s.scopes))] ++
            (s.subject.map fun subject => ("sub", Json.text subject)).toList),
          signature) ∧
        ((∀ scope ∈ s.scopes, ' ' ∉ scope.toList) →
          (Text.splitAll (· = ' ') (" ".intercalate s.scopes).toList).map String.ofList = s.scopes) := by
  obtain ⟨members, object, read, scopes, subject, tokenUri⟩ := exists_key_of_build built
  rw [a.runOn_fetch]
  cases made : a.form? b.clock with
  | none => exact .inl ⟨rfl, rfl⟩
  | some form =>
    unfold Source.form? Token.Assertion.sign? at made
    simp only [Option.map_map, Option.map_eq_some_iff] at made
    obtain ⟨signature, -, rfl⟩ := made
    have found := (a.assertion b.clock).read?_compact earliest (by
      change b.clock.day - 10 + 3600 < (18446744073709551616 : Nat)
      omega) signature
    rw [Token.Assertion.sorted_header, Token.Assertion.sorted_claims] at found
    refine .inr ⟨a.key, a.tokenUri, (a.assertion b.clock).compact signature, signature, _, ?_, tokenUri, rfl,
      rfl, ?_, splitAll_scope (scopes_ne_nil_of_build built)⟩
    · rw [object, read]
    · rw [found, ← scopes, ← subject]
      rfl

open Run in
/-- What an account posts in the first second of 1970. -/
theorem Setup.fetch_posts_assertion_of_sample :
    (accountSetup sampleSettings (sampleKey (sampleRsaKey 7 5 6 5)).document).build =
        .ok (sampleSource (sampleRsaKey 7 5 6 5)) ∧
      ∃ statement signature, Token.Assertion.read? statement = some (
        .object [("alg", .text "RS256"), ("kid", .text "1"), ("typ", .text "JWT")],
        .object [
          ("aud", .text "http://[::1]/token"),
          ("exp", .number (.integer 3590)),
          ("iat", .number (.integer (-10))),
          ("iss", .text "robot@example.com"),
          ("scope", .text (" ".intercalate Directory.scopes)),
          ("sub", .text "admin@example.com")],
        signature) := by
  obtain ⟨consistent, adequate, short, signs⟩ := isUsable_samples.1
  generalize sampleRsaKey 7 5 6 5 = k at *
  have built := build_sample consistent adequate short
  have posts := fetch_posts_assertion
    (b := { clock := ⟨0, 0⟩, network := { reachable := true, replies := [] } }) built (by decide) (by decide)
  refine ⟨built, ?_⟩
  rcases posts with ⟨mute, -⟩ | ⟨key, tokenUri, statement, signature, order, read, uri, -, -, found, -⟩
  · rw [mute] at signs
    cases signs
  · obtain rfl : sampleKey k = key := Except.ok.inj ((sampleKey k).ofJson_document.symm.trans read)
    subst uri
    exact ⟨statement, signature, found⟩

end Account

end WorkspaceSchema
