import WorkspaceSchema.Proofs.Account
import WorkspaceSchema.Proofs.Der
import WorkspaceSchema.Proofs.Json.Parser

/-!
# Key files that are accepted

Every RSA key of an accepted size whose numbers fit together has a text that it is read back from
(`RsaKey.ofPem_text`), if its private exponent lies below its modulus.  An exponent beyond it could have
too many bytes to be written.

A key with such a text has a document, and the document a file.  The file is accepted, and a service
account is set up from it that signs with the key (`Account.load_document`,
`Account.Setup.build_document`).
-/

namespace WorkspaceSchema

/-! ### The numbers of a key -/

namespace RsaKey

/-- The numbers that are written for a key; the first is the version of the form. -/
def numbers (k : RsaKey) : List Nat :=
  [0, k.modulus, k.publicExponent, k.privateExponent, k.firstPrime, k.secondPrime, k.firstExponent,
    k.secondExponent, k.coefficient]

/-- The numbers of a key in DER. -/
def der (k : RsaKey) : List UInt8 :=
  Der.written 0x30 (k.numbers.flatMap Der.writtenNatural)

variable {k : RsaKey}

/-- No number of a key has more bits than the modulus may have. -/
lemma bitLength_numbers_le (consistent : k.isConsistent = true) (adequate : k.isAdequate = true)
    (short : k.privateExponent < k.modulus) : ∀ n ∈ k.numbers, Modular.bitLength n ≤ 8192 := by
  simp only [isConsistent, isPublicExponent, Modular.isInverse, Bool.and_eq_true, decide_eq_true_eq]
    at consistent
  simp only [isAdequate, Bool.and_eq_true, decide_eq_true_eq] at adequate
  obtain ⟨⟨⟨⟨⟨⟨⟨⟨⟨-, -, exponent⟩, first⟩, second⟩, product⟩, -⟩, -⟩, firstExponent, -⟩,
    secondExponent, -⟩, coefficient, -⟩ := consistent
  have le_first : k.firstPrime ≤ k.modulus :=
    product ▸ Nat.le_mul_of_pos_right k.firstPrime (by omega)
  have le_second : k.secondPrime ≤ k.modulus :=
    product ▸ Nat.le_mul_of_pos_left k.secondPrime (by omega)
  have within {n : Nat} (le : n ≤ k.modulus) : Modular.bitLength n ≤ 8192 :=
    (Modular.bitLength_le_of_le le).trans adequate.2
  simp only [numbers, List.forall_mem_cons]
  exact ⟨by decide, within (Nat.le_refl _), by omega, within (by omega), within le_first,
    within le_second, within (by omega), within (by omega), within (by omega), List.forall_mem_nil _⟩

/-- Nine numbers of as many bits. -/
lemma length_numbers_le (few : ∀ n ∈ k.numbers, Modular.bitLength n ≤ 8192) :
    (k.numbers.flatMap Der.writtenNatural).length ≤ 9279 := by
  have count : k.numbers.length = 9 := rfl
  have all := Der.length_flatMap_writtenNatural_le (by decide) few
  rw [count] at all
  omega

/-- The numbers of a key are read back. -/
lemma ofDer?_der (few : ∀ n ∈ k.numbers, Modular.bitLength n ≤ 8192) : ofDer? k.der = some k := by
  have fits : ∀ n ∈ k.numbers, Modular.bitLength (Modular.bitLength n / 8 + 1) ≤ 32 := by
    intro n member
    have := few n member
    refine (Modular.bitLength_le_of_le (n := 1025) ?_).trans (by decide)
    omega
  have taken := Der.take?_written 0x30
    ((Modular.bitLength_le_of_le (length_numbers_le few)).trans (by decide)) []
  have read := Der.naturals?_writtenNatural fits []
  have count : k.numbers.length = 9 := rfl
  rw [count] at read
  rw [List.append_nil] at taken read
  unfold ofDer? der
  rw [taken]
  dsimp only
  rw [read]
  rfl

end RsaKey

namespace PrivateKey

/-- An RSA key in DER, with its algorithm. -/
def rsaDer (k : RsaKey) : List UInt8 :=
  Der.written 0x30 (Der.writtenNatural 0 ++
    (Der.written 0x30 rsaAlgorithm ++ (Der.written 0x04 k.der ++ [])))

/-- A key whose numbers fit together is loaded. -/
theorem load?_rsaDer {k : RsaKey} (consistent : k.isConsistent = true) (adequate : k.isAdequate = true)
    (short : k.privateExponent < k.modulus) : load? (rsaDer k) = some (.rsa k) := by
  have few := RsaKey.bitLength_numbers_le consistent adequate short
  have numbers := RsaKey.length_numbers_le few
  have limit {n : Nat} (le : n ≤ 16384) : Modular.bitLength n ≤ 32 :=
    (Modular.bitLength_le_of_le le).trans (by decide)
  have der : k.der.length ≤ 9285 :=
    (Der.length_written_le 0x30 (limit (numbers.trans (by decide)))).trans (Nat.add_le_add_right numbers 6)
  have key := Der.length_written_le 0x04 (limit (der.trans (by decide)))
  have whole : (Der.writtenNatural 0 ++
      (Der.written 0x30 rsaAlgorithm ++ (Der.written 0x04 k.der ++ []))).length ≤ 16384 := by
    have version : (Der.writtenNatural 0).length = 3 := rfl
    have algorithm : (Der.written 0x30 rsaAlgorithm).length = 15 := rfl
    rw [List.append_nil, List.length_append, List.length_append, version, algorithm]
    omega
  have taken := Der.take?_written 0x30 (limit whole) []
  rw [List.append_nil] at taken
  unfold load? rsaDer
  simp only [taken, Der.natural?_writtenNatural (n := 0) (by decide),
    Der.take?_written 0x30 (show Modular.bitLength rsaAlgorithm.length ≤ 32 by decide),
    Der.take?_written 0x04 (limit (der.trans (by decide))), Option.bind_eq_bind, Option.bind_some]
  change ofAlgorithm? rsaAlgorithm k.der none = _
  unfold ofAlgorithm?
  rw [if_neg (by decide), if_neg (by decide), if_pos rfl, RsaKey.ofDer?_der few]
  dsimp only
  rw [consistent, adequate]
  rfl

end PrivateKey

/-! ### The text of a key -/

namespace Pem

/-- The label of the items of a kind. -/
def Kind.label : Kind → String
  | .certificate => "CERTIFICATE"
  | .publicKey => "PUBLIC KEY"
  | .rsaKey => "RSA PRIVATE KEY"
  | .privateKey => "PRIVATE KEY"
  | .ecKey => "EC PRIVATE KEY"
  | .revocationList => "X509 CRL"
  | .certificateRequest => "CERTIFICATE REQUEST"

/-- The line that begins an item, without its end. -/
def Kind.beginning (kind : Kind) : List Char :=
  "-----BEGIN ".toList ++ kind.label.toList ++ "-----".toList

/-- The line that ends an item, without its end. -/
def Kind.ending (kind : Kind) : List Char :=
  "-----END ".toList ++ kind.label.toList ++ "-----".toList

/-- The first line of an item is one line, and its label is found in it. -/
lemma Kind.beginning_spec (kind : Kind) : (Utf8.encode kind.beginning).all (!endsLine ·) = true ∧
    startMark.isPrefixOf (Utf8.encode kind.beginning ++ [0x0A]) = true ∧
    labelOf? (Utf8.encode kind.beginning ++ [0x0A]) = some (Utf8.ofString kind.label) := by
  cases kind <;> decide

/-- The last line of an item is one line and begins no other item, and its label names the kind. -/
lemma Kind.ending_spec (kind : Kind) : (Utf8.encode kind.ending).all (!endsLine ·) = true ∧
    startMark.isPrefixOf (Utf8.encode kind.ending ++ [0x0A]) = false ∧
    (endMark (Utf8.ofString kind.label)).isPrefixOf (Utf8.encode kind.ending ++ [0x0A]) = true ∧
    Kind.ofLabel? (Utf8.ofString kind.label) = some kind := by
  cases kind <;> decide

/-- The text of an item: three lines. -/
def Item.text (i : Item) : String :=
  String.ofList (i.kind.beginning ++ ('\n' ::
    (Base64.encodePadded i.der ++ ('\n' :: (i.kind.ending ++ ['\n'])))))

/-- A line goes as far as its end. -/
lemma lines_append {line : List UInt8} (inside : ∀ b ∈ line, endsLine b = false) (rest : List UInt8) :
    lines (line ++ 0x0A :: rest) = (line ++ [0x0A]) :: lines rest := by
  induction line with
  | nil => rfl
  | cons b line ih =>
    rw [List.cons_append, lines, inside b (List.mem_cons_self ..), if_neg Bool.false_ne_true,
      ih fun b' member => inside b' (List.mem_cons_of_mem b member)]
    rfl

/-- A byte that stands between the lines of an item. -/
lemma mem_encodePadded {der : List UInt8} {b : UInt8}
    (member : b ∈ Utf8.encode (Base64.encodePadded der)) : endsLine b = false ∧ b ≠ 0x2D := by
  have digit : ∀ n < 64, (String.utf8EncodeChar (Base64.digit ('+', '/') n)).all
      (fun b => !endsLine b && b ≠ 0x2D) = true := by decide
  obtain ⟨c, written, here⟩ := List.mem_flatMap.mp member
  rcases Base64.mem_encodeWith written with pad | ⟨n, small, rfl⟩
  · obtain rfl := List.mem_singleton.mp pad
    obtain rfl := List.mem_singleton.mp here
    decide
  · simpa using List.all_eq_true.mp (digit n small) b here

/-- A line without a dash begins or ends nothing. -/
lemma isPrefixOf_eq_false {mark line : List UInt8} (dash : mark.head? = some 0x2D)
    (none : ∀ b ∈ line, b ≠ 0x2D) : mark.isPrefixOf line = false := by
  rw [← Bool.not_eq_true, List.isPrefixOf_iff_prefix]
  intro ahead
  exact none _ (ahead.mem (List.mem_of_mem_head? dash)) rfl

/-- An item is found in its text. -/
theorem first_text (i : Item) : first (Utf8.ofString i.text) = .ok (some i) := by
  obtain ⟨kind, der⟩ := i
  obtain ⟨oneLine, begins, labelled⟩ := kind.beginning_spec
  obtain ⟨oneLine', begins', ends, known⟩ := kind.ending_spec
  -- The line between the other two begins or ends nothing, since there is no dash in it.
  have dashless : ∀ b ∈ Utf8.encode (Base64.encodePadded der) ++ [0x0A], b ≠ 0x2D := by
    intro b member
    rcases List.mem_append.mp member with digit | final
    · exact (mem_encodePadded digit).2
    · obtain rfl := List.mem_singleton.mp final
      decide
  have split : Utf8.ofString (Item.text ⟨kind, der⟩) = Utf8.encode kind.beginning ++ 0x0A ::
      (Utf8.encode (Base64.encodePadded der) ++ 0x0A :: (Utf8.encode kind.ending ++ 0x0A :: [])) := by
    unfold Utf8.ofString Item.text
    rw [String.toList_ofList]
    simp only [Utf8.encode_append, Utf8.encode_cons, Utf8.encode_nil]
    rfl
  unfold first
  rw [split, lines_append (by simpa using oneLine),
    lines_append fun b member => (mem_encodePadded member).1, lines_append (by simpa using oneLine')]
  rw [search, if_pos begins, labelled]
  dsimp only
  rw [search, isPrefixOf_eq_false rfl dashless, if_neg Bool.false_ne_true,
    isPrefixOf_eq_false rfl dashless, if_neg Bool.false_ne_true, search, begins',
    if_neg Bool.false_ne_true, if_pos ends, known, List.nil_append,
    Base64.decodeLenient_encodePadded der (by simp [Base64.isBlank])]

end Pem

namespace RsaKey

/-- The text of a key. -/
def text (k : RsaKey) : String :=
  Pem.Item.text ⟨.privateKey, PrivateKey.rsaDer k⟩

/-- A key whose numbers fit together is read back from its text. -/
theorem ofPem_text {k : RsaKey} (consistent : k.isConsistent = true) (adequate : k.isAdequate = true)
    (short : k.privateExponent < k.modulus) : ofPem k.text = .ok k := by
  unfold ofPem text
  rw [Pem.first_text]
  dsimp only
  rw [if_neg (by decide), PrivateKey.load?_rsaDer consistent adequate short]

end RsaKey

/-! ### The file of a key -/

/-- A file that holds a text is read as a text. -/
lemma Files.readText_encode {files : Files} {path : String} {cs : List Char}
    (written : files path = .ok (Utf8.encode cs)) : files.readText path = .ok (Utf8.encode cs) := by
  unfold readText
  rw [written]
  simp only [bind, Except.bind, Utf8.invalidIndex?_encode]
  rfl

namespace Account

/-- The document of a key. -/
def Key.document (k : Key) : Json :=
  .object (Json.textMembers [("client_email", some k.clientEmail), ("private_key", some k.privateKey),
    ("private_key_id", some k.privateKeyId), ("project_id", k.projectId), ("token_uri", k.tokenUri),
    ("type", some keyType), ("universe_domain", k.universeDomain)])

/-- A key is taken from its document. -/
lemma Key.ofJson_document (k : Key) : ofJson k.document = .ok k := by
  obtain ⟨clientEmail, privateKeyId, privateKey, projectId, tokenUri, universeDomain⟩ := k
  cases projectId <;> cases tokenUri <;> cases universeDomain <;> rfl

lemma Key.isReadable_document (k : Key) : Json.isReadable Json.maxLevels k.document = true := by
  obtain ⟨clientEmail, privateKeyId, privateKey, projectId, tokenUri, universeDomain⟩ := k
  cases projectId <;> cases tokenUri <;> cases universeDomain <;> rfl

lemma Key.sorted_document (k : Key) : k.document.sorted = k.document := by
  have names : ["client_email", "private_key", "private_key_id", "project_id", "token_uri", "type",
    "universe_domain"].Pairwise (· < ·) := by decide
  exact Json.sorted_textMembers (List.pairwise_map.mp names)

/-- Documents of keys that are the same but for the private key are so themselves. -/
lemma Key.without_document {k k' : Key} (same : k.withoutSecret = k'.withoutSecret) :
    k.document.without privateKeyName = k'.document.without privateKeyName := by
  have written (k : Key) :
      k.document.without privateKeyName = k.withoutSecret.document.without privateKeyName := by
    obtain ⟨clientEmail, privateKeyId, privateKey, projectId, tokenUri, universeDomain⟩ := k
    cases projectId <;> cases tokenUri <;> cases universeDomain <;> rfl
  rw [written, same, ← written]

/-- A file is accepted that holds the document of a key. -/
theorem load_document {files : Files} {path : String} {k : Key}
    (written : files path = .ok (Utf8.ofString k.document.print)) : load files path = .ok k.document := by
  unfold load
  rw [Files.readText_encode written]
  dsimp only
  rw [← Utf8.ofString, Json.parse_ofString_print k.isReadable_document, k.sorted_document]

/-- An account is set up from the document of a key that has a text, if there are scopes to ask for. -/
theorem Setup.build_document {s : Setup} {k : Key} {signingKey : RsaKey}
    (document : s.document = k.document) (read : RsaKey.ofPem k.privateKey = .ok signingKey)
    (asked : s.scopes.isEmpty = false) :
    s.build = .ok {
      key := k
      signingKey
      scopes := s.scopes
      subject := s.subject
      tokenUri := (s.tokenUri.or k.tokenUri).getD defaultTokenUri } := by
  have type : k.document.member? "type" = some (.text keyType) := by
    obtain ⟨clientEmail, privateKeyId, privateKey, projectId, tokenUri, universeDomain⟩ := k
    cases projectId <;> cases tokenUri <;> cases universeDomain <;> rfl
  unfold build
  rw [document, type]
  dsimp only
  rw [if_neg (not_not_intro rfl), k.ofJson_document]
  dsimp only
  rw [read]
  dsimp only
  rw [asked, if_neg Bool.false_ne_true]

end Account

end WorkspaceSchema
