import WorkspaceSchema.Proofs.KeyFile
import WorkspaceSchema.Proofs.Run.Requests

/-!
# An account on the machine itself

What is said of all runs is illustrated by runs of one account.  The endpoints that it uses are on the machine
itself, and its key is left open.  `IsUsable` says what a key needs, and two keys that differ in their exponents are
shown to have it (`isUsable_samples`).

Whatever the key is, the account gets a token with the first reply (`runOn_token_sample`), and with this token each
request to the directory gets the next one (`exists_runOn_execute_sample`).
-/

namespace WorkspaceSchema.Run

/-! ### The account -/

/-- Two primes of 1024 bits. -/
def samplePrimes : Nat × Nat :=
  (Nat.pow 2 1024 - 105, Nat.pow 2 1024 - 179)

/-- A key with these primes and a public exponent, given how many times the totients of the modulus and
of the primes go into its products with the other exponents. -/
def sampleRsaKey (exponent times first second : Nat) : RsaKey :=
  let (p, q) := samplePrimes
  { modulus := p * q
    publicExponent := exponent
    privateExponent := (1 + times * ((p - 1) * (q - 1))) / exponent
    firstPrime := p
    secondPrime := q
    firstExponent := (1 + first * (p - 1)) / exponent
    secondExponent := (1 + second * (q - 1)) / exponent
    coefficient := (5 * p - 1) / 74 }

/-- The key of an account with one of these keys. -/
def sampleKey (k : RsaKey) : Account.Key where
  clientEmail := "robot@example.com"
  privateKeyId := "1"
  privateKey := k.text

/-- The key file of the account. -/
def sampleFiles (k : RsaKey) : Files :=
  fun _ => .ok (Utf8.ofString (sampleKey k).document.print)

/-- Settings whose endpoints are on the machine itself. -/
def sampleSettings : Settings where
  credentialsFile := "key.json"
  adminEmail := "admin@example.com"
  endpoint := "http://[::1]"
  tokenUri := some "http://[::1]/token"

/-- The account with one of these keys. -/
def sampleSource (k : RsaKey) : Account.Source where
  key := sampleKey k
  signingKey := k
  scopes := Directory.scopes
  subject := some "admin@example.com"
  tokenUri := "http://[::1]/token"

lemma build_sample {k : RsaKey} (consistent : k.isConsistent = true) (adequate : k.isAdequate = true)
    (short : k.privateExponent < k.modulus) :
    (accountSetup sampleSettings (sampleKey k).document).build = .ok (sampleSource k) :=
  Account.Setup.build_document rfl (RsaKey.ofPem_text consistent adequate short) rfl

/-- What the account signs does not depend on the key. -/
lemma isSome_form?_sample (k : RsaKey) :
    ((sampleSource k).form? ⟨0, 0⟩).isSome = (k.sign? (Utf8.encode (Token.Assertion.signed {
      keyId := "1"
      issuer := "robot@example.com"
      scope := " ".intercalate Directory.scopes
      audience := "http://[::1]/token"
      subject := some "admin@example.com"
      madeAt := 0 }))).isSome := by
  unfold Account.Source.form? Token.Assertion.sign?
  rw [Option.isSome_map, Option.isSome_map]
  rfl

/-- Whether a key is accepted and signs what the account states. -/
def IsUsable (k : RsaKey) : Prop :=
  k.isConsistent = true ∧ k.isAdequate = true ∧ k.privateExponent < k.modulus ∧
    ((sampleSource k).form? ⟨0, 0⟩).isSome = true

lemma IsUsable.exists_form {k : RsaKey} (usable : IsUsable k) :
    ∃ form, (sampleSource k).form? ⟨0, 0⟩ = some form := by
  obtain ⟨-, -, -, signs⟩ := usable
  exact Option.isSome_iff_exists.mp signs

set_option maxRecDepth 100000 in
lemma isUsable_samples : IsUsable (sampleRsaKey 7 5 6 5) ∧ IsUsable (sampleRsaKey 11 6 6 10) := by
  unfold IsUsable
  rw [isSome_form?_sample, isSome_form?_sample]
  decide +kernel

lemma load_sample (k : RsaKey) :
    Account.load (sampleFiles k) sampleSettings.credentialsFile = .ok (sampleKey k).document :=
  Account.load_document rfl

/-- The account is set up from its key file. -/
lemma credentials_sample {k : RsaKey} (usable : IsUsable k) :
    credentials sampleSettings (sampleFiles k) = .ok (.account (sampleSource k)) := by
  obtain ⟨consistent, adequate, short, -⟩ := usable
  rw [credentials_eq, load_sample]
  dsimp only
  rw [build_sample consistent adequate short]
  rfl

/-! ### What it is answered -/

/-- The body of a response that grants a token. -/
def sampleGrant (text : String) : List UInt8 :=
  Utf8.ofString ("\x7b\"access_token\":\"" ++ text ++ "\",\"token_type\":\"Bearer\"\x7d")

/-- The replies to a run that is granted a token and finds no schema. -/
def sampleReplies (text : String) : List Http.Reply :=
  [.answer 200 [] (sampleGrant text), .answer 200 [] (Utf8.ofString "\x7b\x7d")]

/-- A session with these replies. -/
def sampleSession (replies : List Http.Reply) : Session where
  clock := ⟨0, 0⟩
  network := { reachable := true, replies }

/-- A place on the machine itself. -/
def samplePlace (path : List String) : Url where
  scheme := "http"
  host := some (.ipv6 [0, 0, 0, 0, 0, 0, 0, 1])
  path := .segments path

/-- A token that does not expire. -/
def sampleToken : Token := ⟨"A", "Bearer", none⟩

lemma target_order_sample (k : RsaKey) (form : Http.Body) :
    Http.Client.target ((sampleSource k).order form).target = .ok (samplePlace ["token"], []) := by
  change Http.Client.target "http://[::1]/token" = _
  rfl

lemma replies_length_after_sample (k : RsaKey) (form : Http.Body) (text : String) :
    (((sampleSource k).order form).after { reachable := true, replies := sampleReplies text }).replies.length
      = 1 := by
  rw [Http.Order.after_eq]
  unfold Http.Order.request?
  rw [target_order_sample]
  rfl

/-- The first reply grants the token. -/
lemma runOn_token_sample {k : RsaKey} {form : Http.Body} (signs : (sampleSource k).form? ⟨0, 0⟩ = some form)
    {b : Session} (clock : b.clock = ⟨0, 0⟩) (fresh : b.token = none) {later : List Http.Reply}
    (network : b.network = { reachable := true, replies := .answer 200 [] (sampleGrant "A") :: later }) :
    (Credentials.account (sampleSource k)).token.runOn b = (.ok sampleToken, { b with
      network := {
        reachable := true
        replies := later
        sent := [⟨.post, "http://[::1]/token", [("content-type", form.contentType)], some form⟩] }
      token := some sampleToken }) := by
  have granted : (sampleSource k).granted b.clock (((sampleSource k).order form).answer b.network) =
      .ok sampleToken := by
    unfold Http.Order.answer Http.Client.send
    rw [target_order_sample, network]
    rfl
  have after : ((sampleSource k).order form).after b.network = {
      reachable := true
      replies := later
      sent := [⟨.post, "http://[::1]/token", [("content-type", form.contentType)], some form⟩] } := by
    rw [Http.Order.after_eq]
    unfold Http.Order.request?
    rw [target_order_sample, network]
    rfl
  have due : Token.reusable? b.clock b.token = none := by
    rw [fresh]
    rfl
  have signs' : (sampleSource k).form? b.clock = some form := clock ▸ signs
  rw [Credentials.runOn_token, due, signs']
  dsimp only
  rw [granted, after]
  rfl

/-- A request to the directory takes the token that is held, and gets the next reply. -/
lemma exists_runOn_execute_sample {α : Type} {k : RsaKey} {b : Session} (held : b.token = some sampleToken)
    (reached : b.network.reachable = true) {bytes : List UInt8} {later : List Http.Reply}
    (next : b.network.replies = .answer 200 [] bytes :: later) (method : Http.Method) (body : Option Http.Body)
    {read : List UInt8 → Except Json.Error α} {x : α} (reads : read bytes = .ok x) :
    ∃ b', ((client sampleSettings (sampleSource k)).execute method (schemasUrl sampleSettings) body read).runOn b =
        (.ok x, b') ∧ b'.token = some sampleToken ∧ b'.network.reachable = true ∧ b'.network.replies = later := by
  obtain ⟨clock, ⟨reachable, replies, sent, waited⟩, token, log⟩ := b
  dsimp only at held reached next
  subst held reached next
  let n : Http.Network := ⟨true, .answer 200 [] bytes :: later, sent, waited⟩
  let o := (client sampleSettings (sampleSource k)).order method (schemasUrl sampleSettings) body
    [("authorization", "Bearer A")]
  have authorized : (client sampleSettings (sampleSource k)).credentials.headers.runOn
      ⟨clock, n, some sampleToken, log⟩ =
      (.ok [("authorization", "Bearer A")], ⟨clock, n, some sampleToken, log⟩) := by
    have account : (client sampleSettings (sampleSource k)).credentials = .account (sampleSource k) := rfl
    rw [account, Credentials.runOn_headers, Credentials.runOn_token]
    rfl
  have place : Http.Client.target o.target =
      .ok (samplePlace ["admin", "directory", "v1", "customer", "my_customer", "schemas"], []) := by
    change Http.Client.target "http://[::1]/admin/directory/v1/customer/my_customer/schemas" = _
    rfl
  have answer : o.answer n = .ok ⟨samplePlace ["admin", "directory", "v1", "customer", "my_customer", "schemas"],
      200, [], .ok bytes⟩ := by
    unfold Http.Order.answer Http.Client.send
    rw [place]
    rfl
  have left : (o.after n).reachable = true ∧ (o.after n).replies = later := by
    rw [Http.Order.after_eq]
    unfold Http.Order.request?
    rw [place]
    exact ⟨rfl, rfl⟩
  have decoded : Directory.Client.received read (o.answer n) = .ok x :=
    Directory.Client.received_eq_ok_iff (e := o.exchange n).mpr ⟨_, bytes, answer, rfl, rfl, reads⟩
  rw [Directory.Client.runOn_execute, authorized]
  exact ⟨_, Prod.ext decoded rfl, rfl, left⟩

end WorkspaceSchema.Run
