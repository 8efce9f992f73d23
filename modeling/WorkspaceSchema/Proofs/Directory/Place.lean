import WorkspaceSchema.Proofs.Settings
import WorkspaceSchema.Proofs.Directory.Calls
import WorkspaceSchema.Proofs.Url.Parser

/-!
# Where calls to a directory go

The request for a call, `Client.requested?`, is made with the headers that the credentials give, and
`Client.sends` says what goes over the wire for it.  Its target is the text of the endpoint, without the slashes
at its end, with a path written behind it, and only that is read as a URL.

For an endpoint of the web with something in it that a host can be read from, the target names the place that the
endpoint names, or is no URL at all (`Client.samePlace_of_target`): what names the host ends at the path, and
blanks that end up before the path are in no host.  But where there are only slashes behind the scheme, they are
taken away, and what is read as the host is the first part of the path (`Client.locate_of_fillers`).
-/

namespace WorkspaceSchema

/-! ### Requests for calls -/

/-- The customer that a call is about. -/
def Store.Call.customer : Store.Call → String
  | .list customer => customer
  | .insert customer _ => customer

namespace Directory.Client

variable (c : Client) (b : Session) (call : Store.Call)

/-- The request that is made for a call: none if there are no headers for it, or if the target of the call is no
place in the web. -/
def requested? : Option Http.Request :=
  match (c.credentials.headers.runOn b).1 with
  | .error _ => none
  | .ok headers => (c.orderOf call headers).request?

/-- What goes over the wire for a call, when its headers have been had: the request that is made for it, and
behind it what redirects make of that. -/
def Sends : Prop :=
  match c.requested? b call with
  | none => (c.make call b).2.network.sent = (c.credentials.headers.runOn b).2.network.sent
  | some r => ∃ rest, Http.Continues r rest ∧
    (c.make call b).2.network.sent = (c.credentials.headers.runOn b).2.network.sent ++
      if (c.credentials.headers.runOn b).2.network.reachable then (r :: rest).map Http.Request.toSent else []

lemma sends : c.Sends b call := by
  unfold Sends requested?
  rcases outcome : c.credentials.headers.runOn b with ⟨e | headers, b'⟩
  · exact congrArg Http.Network.sent (c.make_of_error b outcome call).2.1
  · obtain ⟨passes, continuous⟩ := (c.orderOf call headers).exchange_spec b'.network
    dsimp only
    rw [c.make_of_headers b outcome call, passes.sent]
    unfold Http.Exchange.Continuous at continuous
    have order : ((c.orderOf call headers).exchange b'.network).order = c.orderOf call headers := rfl
    rw [order] at continuous
    cases request : (c.orderOf call headers).request? with
    | none =>
      rw [request] at continuous
      dsimp only at continuous ⊢
      rw [continuous, List.append_nil]
    | some r =>
      rw [request] at continuous
      obtain ⟨rest, later, trail⟩ := continuous
      exact ⟨rest, later, congrArg (_ ++ ·) trail⟩

/-- A request is made if there are headers and the target is a place in the web. -/
lemma requested?_eq_some_iff {r : Http.Request} : c.requested? b call = some r ↔
    ∃ headers, (c.credentials.headers.runOn b).1 = .ok headers ∧
      (c.orderOf call headers).request? = some r := by
  unfold requested?
  cases (c.credentials.headers.runOn b).1 <;> simp

/-- A call has the schemas of its customer for its target. -/
lemma target_orderOf (headers : Http.Headers) :
    (c.orderOf call headers).target = c.schemasUrl call.customer := by
  cases call <;> rfl

end Directory.Client

namespace Http

/-- The place of a request is the place of its target. -/
lemma Order.url_of_request? {o : Order} {r : Request} (about : o.request? = some r) :
    ∃ user, Client.target o.target = .ok (r.url, user) := by
  unfold request? at about
  rcases taken : Client.target o.target with failure | ⟨place, user⟩
  · rw [taken] at about
    cases about
  · rw [taken] at about
    cases about
    exact ⟨user, rfl⟩

end Http

/-! ### Where an endpoint points -/

namespace Url

/-- Two URLs lead to the same place by the same way. -/
structure SamePlace (u v : Url) : Prop where
  scheme : u.scheme = v.scheme
  host : u.host = v.host
  port : u.port = v.port

/-- The user is no part of the place. -/
lemma samePlace_of_separateUser {url place : Url} {user : Http.Headers}
    (separated : Http.Client.separateUser url = (place, user)) : place.SamePlace url := by
  unfold Http.Client.separateUser at separated
  split at separated
  · obtain ⟨rfl, -⟩ := Prod.mk.inj separated
    exact ⟨rfl, rfl, rfl⟩
  · obtain ⟨rfl, -⟩ := Prod.mk.inj separated
    exact ⟨rfl, rfl, rfl⟩

/-- The schemes of the web are those of remote places in the network. -/
lemma of_isWebScheme {scheme : String} (web : Http.Client.isWebScheme scheme = true) :
    isSpecial scheme = true ∧ scheme ≠ "file" ∧
      ∀ rest, cutScheme (trim (scheme.toList ++ ':' :: rest)) = some (scheme, trimEnd rest) := by
  unfold Http.Client.isWebScheme at web
  simp only [Bool.or_eq_true, decide_eq_true_eq] at web
  rcases web with rfl | rfl
  · refine ⟨by decide, by decide, ?_⟩
    intro rest
    rw [cutScheme_trim (List.all_eq_true.mp (by decide))]
    rfl
  · refine ⟨by decide, by decide, ?_⟩
    intro rest
    rw [cutScheme_trim (List.all_eq_true.mp (by decide))]
    rfl

section Web

variable {scheme text : String} {rest : List Char}

/-- A URL of the web is read from its authority. -/
lemma parse_of_web (web : Http.Client.isWebScheme scheme = true)
    (reads : text.toList = scheme.toList ++ ':' :: rest) :
    parse text = (authority scheme (authorityText (trimEnd rest))).map fun u =>
      withTail { u with path := pathAfterHost true (pathText (trimEnd rest)) } (cutTail (trimEnd rest)) := by
  obtain ⟨network, remote, cut⟩ := of_isWebScheme web
  exact parse_of_network (reads ▸ cut rest) network remote

/-- Such a URL leads to the place that its authority names. -/
lemma exists_of_parse_of_web (web : Http.Client.isWebScheme scheme = true)
    (reads : text.toList = scheme.toList ++ ':' :: rest) {url : Url} (parsed : parse text = .ok url) :
    ∃ u, authority scheme (authorityText (trimEnd rest)) = .ok u ∧ url.SamePlace u := by
  rw [parse_of_web web reads] at parsed
  cases read : authority scheme (authorityText (trimEnd rest)) with
  | error fault =>
    rw [read] at parsed
    cases parsed
  | ok u =>
    rw [read] at parsed
    cases parsed
    exact ⟨u, rfl, rfl, rfl, rfl⟩

end Web

end Url

namespace Directory

/-- A character that names nothing in front of a host: a slash, or one that is dropped wherever it stands. -/
def isFiller (c : Char) : Bool :=
  Url.isSlash true c || !Url.isKept c

/-- An endpoint that has something behind its scheme that a host can be read from. -/
def NamesHost (endpoint : String) : Prop :=
  ∃ c ∈ (endpoint.toList.dropWhile (· ≠ ':')).tail, isFiller c = false

/-- The path of the schemas of a customer as it is written behind an endpoint and a slash. -/
def pathOf (customer : String) : List Char :=
  "admin/directory/v1/customer/".toList ++ (Url.Percent.segment customer).toList ++ "/schemas".toList

/-- Such paths have nothing to trim, and neither query nor fragment. -/
lemma isPlain_of_mem_pathOf {customer : String} {c : Char} (member : c ∈ pathOf customer) :
    Url.isPlain c = true := by
  have ascii : ∀ n < 128, Url.Percent.isSegmentChar (Char.ofNat n) = true →
      Url.isPlain (Char.ofNat n) = true := by decide
  have fixed : ("admin/directory/v1/customer/".toList ++ "/schemas".toList).all Url.isPlain = true := by decide
  rw [List.all_append, Bool.and_eq_true, List.all_eq_true, List.all_eq_true] at fixed
  unfold pathOf at member
  rw [List.mem_append, List.mem_append] at member
  rcases member with (member | member) | member
  · exact fixed.1 c member
  · exact Url.Percent.of_isSegmentChar ascii (Url.Percent.isSegmentChar_of_mem member)
  · exact fixed.2 c member

/-- Nothing is trimmed at the end of such a path. -/
lemma trimEnd_append_pathOf (front : List Char) (customer : String) :
    Url.trimEnd (front ++ '/' :: pathOf customer) = front.filter Url.isKept ++ '/' :: pathOf customer := by
  have kept : (pathOf customer).filter Url.isKept = pathOf customer :=
    List.filter_eq_self.mpr fun c member => Url.isKept_of_isPlain (isPlain_of_mem_pathOf member)
  have last : "/schemas".toList = "/schema".toList ++ ['s'] := rfl
  obtain ⟨before, same⟩ : ∃ before, '/' :: pathOf customer = before ++ ['s'] := by
    unfold pathOf
    rw [last, ← List.append_assoc, ← List.cons_append]
    exact ⟨_, rfl⟩
  rw [same, ← List.append_assoc, Url.trimEnd_concat (by decide), List.append_assoc, ← same, List.filter_append,
    List.filter_cons_of_pos (by decide), kept]

/-- The text of a client's endpoint is that of the place it was built for, without slashes at the end. -/
lemma Client.toList_schemasUrl {setup : ClientSetup} {endpoint : String} {c : Client}
    (built : (setup.withEndpoint endpoint).build? = some c) {name rest : List Char}
    (reads : endpoint.toList = name ++ ':' :: rest) (customer : String) :
    (c.schemasUrl customer).toList = name ++ ':' :: (rest.rdropWhile (· = '/') ++ '/' :: pathOf customer) := by
  have placed : c.endpoint = ClientSetup.trimSlashes endpoint := by
    unfold ClientSetup.build? at built
    obtain ⟨credentials, -, rfl⟩ := Option.map_eq_some_iff.mp built
    rfl
  have trimmed : (ClientSetup.trimSlashes endpoint).toList = endpoint.toList.rdropWhile (· = '/') :=
    String.toList_ofList
  have path : "/admin/directory/v1/customer/".toList ++ (Url.Percent.segment customer).toList ++
      "/schemas".toList = '/' :: pathOf customer := rfl
  unfold schemasUrl
  rw [placed, String.toList_append, String.toList_append, String.toList_append, trimmed, reads,
    Url.rdropWhile_append_cons (by decide), ← path]
  simp only [List.append_assoc, List.cons_append]

/-- The first part of the path is read as a host. -/
lemma parse_admin : Url.Host.parse "admin".toList = .ok (.name "admin") := by
  have decoded : Utf8.decode? (Url.Percent.decode (Utf8.encode "admin".toList)) = some "admin".toList := rfl
  have ascii : Url.Name.toAscii? "admin".toList = some "admin".toList := by decide +kernel
  have legal : "admin".toList.any Url.Host.isForbidden = false := by
    unfold Url.Host.isForbidden
    simp only [String.contains_char_eq]
    rfl
  have named : Url.Host.endsInNumber "admin".toList = false := rfl
  unfold Url.Host.parse
  split
  · next opened => cases opened
  · rw [decoded, Option.bind_some, ascii]
    dsimp only
    rw [legal, named]
    rfl

/-- It is read as the whole authority where nothing else is there. -/
lemma authority_admin {scheme : String} (network : Url.isSpecial scheme = true) :
    Url.authority scheme "admin".toList = .ok { scheme, host := some (.name "admin") } := by
  have whole : Url.cutPort false (Url.cutLast (· = '@') "admin".toList).2 = ("admin".toList, none) := rfl
  unfold Url.authority
  dsimp only
  rw [whole, network]
  dsimp only
  rw [if_neg (by decide), if_pos rfl, parse_admin]
  rfl

namespace Client

section Endpoint

variable {setup : ClientSetup} {endpoint scheme : String} {c : Client} {rest : List Char}

/-- The target of a call is read from what is left of the endpoint and from the path behind it. -/
lemma exists_of_parse_schemasUrl (built : (setup.withEndpoint endpoint).build? = some c)
    (web : Http.Client.isWebScheme scheme = true) (reads : endpoint.toList = scheme.toList ++ ':' :: rest)
    (customer : String) {url : Url} (parsed : Url.parse (c.schemasUrl customer) = .ok url) :
    ∃ u, url.SamePlace u ∧ Url.authority scheme (Url.authorityText
      ((rest.rdropWhile (· = '/')).filter Url.isKept ++ '/' :: pathOf customer)) = .ok u := by
  obtain ⟨u, read, same⟩ := Url.exists_of_parse_of_web web (toList_schemasUrl built reads customer) parsed
  rw [trimEnd_append_pathOf] at read
  exact ⟨u, same, read⟩

/-- Nothing but slashes is read from the beginning of a text that names no host. -/
lemma isSlash_of_fillers (fillers : ∀ ch ∈ rest, isFiller ch = true) {front : List Char} (part : front <+: rest) :
    ∀ ch ∈ front.filter Url.isKept, Url.isSlash true ch = true := by
  intro ch member
  obtain ⟨member, kept⟩ := List.mem_filter.mp member
  have filler := fillers ch (part.subset member)
  simpa [isFiller, kept] using filler

/-- Where the endpoint names a host, the target of a call has the place that the endpoint has. -/
lemma samePlace_of_target (built : (setup.withEndpoint endpoint).build? = some c)
    (web : Http.Client.isWebScheme scheme = true) (reads : endpoint.toList = scheme.toList ++ ':' :: rest)
    (named : ∃ ch ∈ rest, isFiller ch = false) {customer : String} {place : Url} {user : Http.Headers}
    (taken : Http.Client.target (c.schemasUrl customer) = .ok (place, user)) :
    ∃ u, Url.parse endpoint = .ok u ∧ u.host.isSome = true ∧ place.SamePlace u := by
  obtain ⟨network, -, -⟩ := Url.of_isWebScheme web
  obtain ⟨located, -⟩ := Http.Client.target_eq_ok_iff.mp taken
  obtain ⟨url, parsed, separated, -⟩ := Http.Client.locate_eq_ok_iff.mp located
  have same := Url.samePlace_of_separateUser separated
  obtain ⟨u, same', read⟩ := exists_of_parse_schemasUrl built web reads customer parsed
  have named' : ∃ ch ∈ rest, Url.isSlash true ch = false ∧ Url.isKept ch = true := by
    simpa [isFiller] using named
  rcases Url.authorityText_rdropWhile named' (pathOf customer) with equal | ⟨front, b, blank, ends⟩
  · rw [equal] at read
    have parsed' := Url.parse_of_web web reads
    rw [read] at parsed'
    refine ⟨_, parsed', (Url.of_authority read).2, ?_⟩
    exact ⟨same.scheme.trans same'.scheme, same.host.trans same'.host, same.port.trans same'.port⟩
  · obtain ⟨fault, refused⟩ := Url.exists_fault_of_blank network blank front
    rw [ends, refused] at read
    cases read

/-- The URL that is read from what is behind a scheme, with the first part of the path for the host. -/
def adminUrl (scheme : String) (behind : List Char) : Url :=
  Url.withTail { scheme, host := some (.name "admin"), path := Url.pathAfterHost true (Url.pathText behind) }
    (Url.cutTail behind)

/-- Where the endpoint names no host, the target of a call names the first part of the path. -/
lemma parse_of_fillers (built : (setup.withEndpoint endpoint).build? = some c)
    (web : Http.Client.isWebScheme scheme = true) (reads : endpoint.toList = scheme.toList ++ ':' :: rest)
    (fillers : ∀ ch ∈ rest, isFiller ch = true) (customer : String) :
    Url.parse (c.schemasUrl customer) =
      .ok (adminUrl scheme ((rest.rdropWhile (· = '/')).filter Url.isKept ++ '/' :: pathOf customer)) := by
  obtain ⟨network, -, -⟩ := Url.of_isWebScheme web
  have admin : Url.authorityText ((rest.rdropWhile (· = '/')).filter Url.isKept ++ '/' :: pathOf customer) =
      "admin".toList := by
    rw [Url.authorityText_append_of_slashes (isSlash_of_fillers fillers (List.rdropWhile_prefix _ _))]
    rfl
  have parsed := Url.parse_of_web web (toList_schemasUrl built reads customer)
  rw [trimEnd_append_pathOf, admin, authority_admin network] at parsed
  exact parsed

/-- Such an endpoint is no URL, and the target of a call is a place in the web. -/
lemma locate_of_fillers (built : (setup.withEndpoint endpoint).build? = some c)
    (web : Http.Client.isWebScheme scheme = true) (reads : endpoint.toList = scheme.toList ++ ':' :: rest)
    (fillers : ∀ ch ∈ rest, isFiller ch = true) (customer : String) :
    (∃ fault, Url.parse endpoint = .error fault) ∧
      ∃ url, Url.parse (c.schemasUrl customer) = .ok url ∧ url.host = some (.name "admin") ∧
        Http.Client.locate (c.schemasUrl customer) = .ok (url, []) := by
  obtain ⟨network, -, -⟩ := Url.of_isWebScheme web
  constructor
  · have nothing : Url.authorityText (Url.trimEnd rest) = [] := by
      rw [← List.append_nil (Url.trimEnd rest)]
      exact Url.authorityText_append_of_slashes (isSlash_of_fillers fillers (List.rdropWhile_prefix _ _)) []
    refine ⟨.emptyHost, ?_⟩
    rw [Url.parse_of_web web reads, nothing, Url.authority_nil network]
    rfl
  · have parsed := parse_of_fillers built web reads fillers customer
    have requestable : Http.Client.isRequestable (some (.name "admin")) = true := by
      unfold Http.Client.isRequestable
      simp only [String.contains_char_eq]
      rfl
    exact ⟨_, parsed, rfl, Http.Client.locate_eq_ok_iff.mpr ⟨_, parsed, rfl, web, requestable⟩⟩

/-- A request goes there, unless its target is too long. -/
lemma requested?_of_fillers {b : Session} {headers : Http.Headers}
    (authorized : (c.credentials.headers.runOn b).1 = .ok headers) (call : Store.Call) {url : Url}
    (located : Http.Client.locate (c.schemasUrl call.customer) = .ok (url, [])) :
    if Http.Client.isShort url then ∃ r, c.requested? b call = some r ∧ r.url = url
    else c.requested? b call = none := by
  unfold requested? Http.Order.request? Http.Client.target
  rw [authorized]
  dsimp only
  rw [target_orderOf, located]
  dsimp only
  cases Http.Client.isShort url with
  | false => rfl
  | true => exact ⟨_, rfl, rfl⟩

end Endpoint

/-- An endpoint that passes the check of the settings has a scheme of the web, and something behind it. -/
lemma exists_scheme_of_fault? {s : Settings} (valid : s.fault? = none) :
    ∃ scheme rest, Http.Client.isWebScheme scheme = true ∧ s.endpoint.toList = scheme.toList ++ ':' :: rest ∧
      (s.endpoint.toList.dropWhile (· ≠ ':')).tail = rest := by
  have sensible : s.IsSensible := Settings.fault?_eq_none_iff.mp valid
  rcases sensible.endpoint with ⟨rest, same⟩ | ⟨rest, same⟩ <;> rw [same, String.toList_append]
  · exact ⟨"http", '/' :: '/' :: rest.toList, rfl, rfl, rfl⟩
  · exact ⟨"https", '/' :: '/' :: rest.toList, rfl, rfl, rfl⟩

/-- A request for a call goes where the endpoint points, if the endpoint passes the check of the settings and
names a host: to its scheme, host and port, when it is read as a URL.  If it names none, it is no URL, and a
request goes out nevertheless, to the host that the first part of the path names, unless its URL is too long. -/
theorem requests_go_where_pointed {s : Settings} (valid : s.fault? = none) {setup : ClientSetup} {c : Client}
    (built : (setup.withEndpoint s.endpoint).build? = some c) (b : Session) (call : Store.Call) :
    c.Sends b call ∧
    (NamesHost s.endpoint → ∀ r, c.requested? b call = some r →
      ∃ u, Url.parse s.endpoint = .ok u ∧ u.host.isSome = true ∧ r.url.SamePlace u) ∧
    (¬NamesHost s.endpoint → (∃ fault, Url.parse s.endpoint = .error fault) ∧
      ∃ url, Url.parse (c.schemasUrl call.customer) = .ok url ∧ url.host = some (.name "admin") ∧
        ∀ headers, (c.credentials.headers.runOn b).1 = .ok headers →
          if Http.Client.isShort url then ∃ r, c.requested? b call = some r ∧ r.url = url
          else c.requested? b call = none) := by
  obtain ⟨scheme, rest, web, reads, tail⟩ := exists_scheme_of_fault? valid
  unfold NamesHost
  rw [tail]
  refine ⟨c.sends b call, ?_, ?_⟩
  · intro named r requested
    obtain ⟨headers, -, request⟩ := (c.requested?_eq_some_iff b call).mp requested
    obtain ⟨user, taken⟩ := Http.Order.url_of_request? request
    rw [target_orderOf] at taken
    exact samePlace_of_target built web reads named taken
  · intro unnamed
    have fillers : ∀ ch ∈ rest, isFiller ch = true := by simpa using unnamed
    obtain ⟨broken, url, parsed, admin, located⟩ := locate_of_fillers built web reads fillers call.customer
    refine ⟨broken, url, parsed, admin, ?_⟩
    intro headers authorized
    exact requested?_of_fillers authorized call located

/-- Settings with some endpoint. -/
def sampleSettings (endpoint : String) : Settings where
  credentialsFile := "key.json"
  adminEmail := "admin@example.com"
  endpoint := endpoint

/-- The set-up of a client that needs no account. -/
def sampleSetup : ClientSetup := { credentials := some .static }

/-- A session in which a host can be reached. -/
def quietSession : Session where
  clock := ⟨0, 0⟩
  network := { reachable := true, replies := [] }

/-- An endpoint on the machine itself. -/
theorem request_goes_to_local_host :
    let s := sampleSettings "http://[::1]/"
    let c : Client := ⟨.static, "http://[::1]", .ofSeconds 30⟩
    s.fault? = none ∧ (sampleSetup.withEndpoint s.endpoint).build? = some c ∧ NamesHost s.endpoint ∧
      ∃ r, c.requested? quietSession (.list "c") = some r ∧
        ∃ u, Url.parse s.endpoint = .ok u ∧ u.host.isSome = true ∧ r.url.SamePlace u := by
  have valid : (sampleSettings "http://[::1]/").fault? = none := by decide
  have built : (sampleSetup.withEndpoint (sampleSettings "http://[::1]/").endpoint).build? =
      some ⟨.static, "http://[::1]", .ofSeconds 30⟩ := rfl
  have named : NamesHost (sampleSettings "http://[::1]/").endpoint := ⟨'[', by decide, by decide⟩
  obtain ⟨-, pointed, -⟩ := requests_go_where_pointed valid built quietSession (.list "c")
  exact ⟨valid, built, named, _, rfl, pointed named _ rfl⟩

/-- An endpoint without a host passes the check of the settings, and is no URL, but a request goes out. -/
theorem request_without_host :
    let s := sampleSettings "http://"
    let c : Client := ⟨.static, "http:", .ofSeconds 30⟩
    s.fault? = none ∧ (sampleSetup.withEndpoint s.endpoint).build? = some c ∧
      (∃ fault, Url.parse s.endpoint = .error fault) ∧
      ∃ (r : Http.Request) (rest : List Http.Sent),
        (c.make (.list "c") quietSession).2.network.sent = r.toSent :: rest ∧
        r.url.host = some (.name "admin") := by
  have built : (sampleSetup.withEndpoint (sampleSettings "http://").endpoint).build? =
      some ⟨.static, "http:", .ofSeconds 30⟩ := rfl
  have reads : (sampleSettings "http://").endpoint.toList = "http".toList ++ ':' :: ['/', '/'] := by decide
  have fillers : ∀ ch ∈ ['/', '/'], isFiller ch = true := List.all_eq_true.mp (by decide)
  have web : Http.Client.isWebScheme "http" = true := by decide
  obtain ⟨broken, url, parsed, admin, located⟩ := locate_of_fillers built web reads fillers "c"
  have requested :=
    requested?_of_fillers (c := ⟨.static, "http:", .ofSeconds 30⟩) (b := quietSession) rfl (.list "c") located
  have short : Http.Client.isShort url = true := by
    have read := parse_of_fillers built web reads fillers "c"
    rw [parsed] at read
    rw [Except.ok.inj read]
    decide +kernel
  rw [if_pos short] at requested
  obtain ⟨r, requested, rfl⟩ := requested
  have sends := sends ⟨.static, "http:", .ofSeconds 30⟩ quietSession (.list "c")
  unfold Sends at sends
  rw [requested] at sends
  obtain ⟨rest, -, sent⟩ := sends
  exact ⟨by decide, built, broken, r, rest.map Http.Request.toSent, sent, admin⟩

end Client

end Directory

end WorkspaceSchema
