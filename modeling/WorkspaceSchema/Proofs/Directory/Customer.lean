import WorkspaceSchema.Proofs.Directory.Place

/-!
# How customers are named in requests

A customer is written as one segment of a path, whatever it is called, and the path is then walked along:
`segmentsOf` says what is left of it.  That is the path as it was written (`walk_namesOf`), but for two
customers.  One dot and two dots consist of unreserved characters, so they stand for themselves, and mean no
segments.

An endpoint with nothing behind its host is read alike in every text that begins as it does
(`BareEndpoint.Begins.target_eq_ok_iff`), so the URL of a request is that of the endpoint with the path that is
left (`Client.locate_schemasUrl_eq_ok_iff`).
-/

namespace WorkspaceSchema

namespace Url

/-- Another path has no influence on the user. -/
lemma separateUser_along (u : Url) (path : Path) : Http.Client.separateUser (u.along path) =
    ((Http.Client.separateUser u).1.along path, (Http.Client.separateUser u).2) := by
  have same : (u.along path).user? = u.user? := rfl
  unfold Http.Client.separateUser
  rw [same]
  cases u.user? <;> rfl

/-- URLs of one place that are written alike have paths that are written alike. -/
lemma renderPath_eq_of_print_eq {u : Url} {path path' : Path}
    (same : (u.along path).print = (u.along path').print) :
    (u.along path).renderPath = (u.along path').renderPath := by
  obtain ⟨front, whole⟩ : ∃ front, ∀ path, (u.along path).print = front ++ (u.along path).renderPath := by
    have tail (s : String) : s ++ "" ++ "" = s := by simp
    exact ⟨u.scheme ++ ":" ++ (if u.host.isSome then "//" ++ u.renderUser ++ u.renderHost else ""),
      fun path => tail _⟩
  rw [whole, whole] at same
  have same := congrArg String.toList same
  rw [String.toList_append, String.toList_append] at same
  exact String.toList_inj.mp (List.append_cancel_left same)

end Url

namespace Directory

/-! ### The path of a request -/

/-- The names in the path of the schemas of a customer as it is written. -/
def namesOf (customer : String) : List String :=
  ["admin", "directory", "v1", "customer", Url.Percent.segment customer, "schemas"]

/-- The segments of the path that is left when the path of the schemas of a customer is walked along.  Dots are
no segments of their own. -/
def segmentsOf (customer : String) : List String :=
  if customer = "." then ["admin", "directory", "v1", "customer", "schemas"]
  else if customer = ".." then ["admin", "directory", "v1", "schemas"]
  else namesOf customer

/-- A segment has no slashes in it. -/
lemma isSlash_of_mem_segment {customer : String} {c : Char}
    (member : c ∈ (Url.Percent.segment customer).toList) : Url.isSlash true c = false := by
  have ascii : ∀ n < 128, Url.Percent.isSegmentChar (Char.ofNat n) = true →
      (!Url.isSlash true (Char.ofNat n)) = true := by decide
  simpa using Url.Percent.of_isSegmentChar (p := fun c => !Url.isSlash true c) ascii
    (Url.Percent.isSegmentChar_of_mem member)

/-- No name in the path has a slash in it. -/
lemma isSlash_of_mem_namesOf {customer : String} :
    ∀ name ∈ (namesOf customer).map String.toList, ∀ c ∈ name, Url.isSlash true c = false := by
  have fixed : ["admin", "directory", "v1", "customer", "schemas"].all
      (·.toList.all (!Url.isSlash true ·)) = true := by decide
  simp only [List.all_cons, List.all_nil, Bool.and_true, Bool.and_eq_true, List.all_eq_true,
    Bool.not_eq_true'] at fixed
  obtain ⟨admin, directory, v1, customers, schemas⟩ := fixed
  simp only [namesOf, List.map_cons, List.map_nil, List.forall_mem_cons]
  exact ⟨admin, directory, v1, customers, fun c => isSlash_of_mem_segment, schemas, List.forall_mem_nil _⟩

/-- The path that is written is cut into its names. -/
lemma splitAll_pathOf (customer : String) :
    Text.splitAll (Url.isSlash true) (pathOf customer) = (namesOf customer).map String.toList := by
  have front : "admin/directory/v1/customer/".toList = "admin".toList ++ ['/'] ++ ("directory".toList ++ ['/'] ++
      ("v1".toList ++ ['/'] ++ ("customer".toList ++ ['/']))) := rfl
  have back : "/schemas".toList = ['/'] ++ "schemas".toList := rfl
  have joined : pathOf customer = ['/'].intercalate ((namesOf customer).map String.toList) := by
    unfold pathOf namesOf
    rw [front, back]
    simp only [List.map_cons, List.map_nil, List.intercalate_cons_cons, List.intercalate_singleton,
      List.append_assoc]
  rw [joined]
  exact Text.splitAll_intercalate (by decide) (List.cons_ne_nil _ _) isSlash_of_mem_namesOf

/-- The names are walked along. -/
lemma walk_namesOf (customer : String) :
    (Url.walk [] ((namesOf customer).map String.toList)).reverse = segmentsOf customer := by
  unfold segmentsOf
  split
  · next dot =>
    rw [dot]
    rfl
  · split
    · next dots =>
      rw [dots]
      rfl
    · next dot dots =>
      have plain : ∀ name ∈ namesOf customer, Url.IsName name := by
        simp only [namesOf, List.forall_mem_cons]
        exact ⟨⟨rfl, rfl, rfl⟩, ⟨rfl, rfl, rfl⟩, ⟨rfl, rfl, rfl⟩, ⟨rfl, rfl, rfl⟩, Url.isName_segment dot dots,
          ⟨rfl, rfl, rfl⟩, List.forall_mem_nil _⟩
      rw [Url.walk_names plain, List.append_nil, List.reverse_reverse]

/-- The path that is written is read as the segments that are left. -/
lemma pathAfterHost_pathOf (customer : String) :
    Url.pathAfterHost true ('/' :: pathOf customer) = .segments (segmentsOf customer) := by
  have path : Url.pathAfterHost true ('/' :: pathOf customer) = .segments
      (Url.walk [] (Text.splitAll (Url.isSlash true) (pathOf customer))).reverse := rfl
  rw [path, splitAll_pathOf, walk_namesOf]

/-- The text of the path that is left. -/
def schemasPath (customer : String) : String :=
  if customer = "." then "/admin/directory/v1/customer/schemas"
  else if customer = ".." then "/admin/directory/v1/schemas"
  else "/admin/directory/v1/customer/" ++ Url.Percent.segment customer ++ "/schemas"

/-- The segments that are left are written so. -/
lemma renderPath_along (u : Url) (customer : String) :
    (u.along (.segments (segmentsOf customer))).renderPath = schemasPath customer := by
  have front : "/admin/directory/v1/customer/" =
      "" ++ "/" ++ "admin" ++ "/" ++ "directory" ++ "/" ++ "v1" ++ "/" ++ "customer" ++ "/" := by decide
  have back : "/schemas" = "/" ++ "schemas" := by decide
  have begins : (segmentsOf customer).head? = some "admin" := by
    unfold segmentsOf namesOf
    split_ifs <;> rfl
  unfold Url.renderPath Url.along
  dsimp only
  rw [begins, if_neg (by simp)]
  unfold segmentsOf schemasPath namesOf
  split_ifs
  · decide
  · decide
  · rw [front, back]
    simp only [String.join, List.map_cons, List.map_nil, List.foldl_cons, List.foldl_nil, String.append_assoc]

/-- Such a path is longer than those that are left of dots. -/
lemma length_path (id : String) : 36 < ("/admin/directory/v1/customer/" ++ id ++ "/schemas").length := by
  have front : "/admin/directory/v1/customer/".length = 29 := by decide
  have back : "/schemas".length = 8 := by decide
  rw [String.length_append, String.length_append, front, back]
  omega

/-- The paths of two customers differ. -/
theorem schemasPath_injective : Function.Injective schemasPath := by
  have dot : "/admin/directory/v1/customer/schemas".length = 36 := by decide
  have dots : "/admin/directory/v1/schemas".length = 27 := by decide
  intro s t same
  have long := length_path (Url.Percent.segment s)
  have long' := length_path (Url.Percent.segment t)
  have lengths := congrArg String.length same
  unfold schemasPath at same lengths
  split_ifs at same lengths with s_dot t_dot t_dots s_dots t_dot t_dots t_dot t_dots
  · rw [s_dot, t_dot]
  · omega
  · omega
  · omega
  · rw [s_dots, t_dots]
  · omega
  · omega
  · omega
  · have same := congrArg String.toList same
    simp only [String.toList_append, List.append_assoc] at same
    have same := List.append_cancel_right (List.append_cancel_left same)
    exact Url.Percent.segment_injective (String.toList_inj.mp same)

/-! ### Endpoints with nothing behind the host -/

/-- A character of host and port as they are written in an endpoint. -/
def isPlaceChar (c : Char) : Bool :=
  Url.isPlain c && !Url.isSlash true c

/-- An endpoint of which a scheme, a host and perhaps a port are written, and any number of slashes behind them. -/
structure BareEndpoint where
  scheme : String
  place : String
  slashes : String
  scheme_named : ∀ ch ∈ scheme.toList, Url.isSchemeChar ch = true
  place_filled : place ≠ ""
  place_named : ∀ ch ∈ place.toList, isPlaceChar ch = true
  only_slashes : ∀ ch ∈ slashes.toList, ch = '/'

namespace BareEndpoint

variable (e : BareEndpoint)

/-- The text of an endpoint. -/
def text : String :=
  e.scheme ++ "://" ++ e.place ++ e.slashes

/-- The scheme that is read. -/
def lowered : String :=
  String.ofList (e.scheme.toList.map Char.toLower)

/-- What an endpoint is read as, but for the path: a URL of the web. -/
structure Names (u : Url) : Prop where
  letter : (e.scheme.toList.head?.map Url.isLetter).getD false = true
  web : Http.Client.isWebScheme e.lowered = true
  read : Url.authority e.lowered e.place.toList = .ok u

/-- A text that begins as an endpoint does, with a path behind it. -/
structure Begins (text : String) (path : List Char) : Prop where
  reads : text.toList = e.scheme.toList ++ ':' :: ('/' :: '/' :: e.place.toList ++ path)
  plain : ∀ ch ∈ path, Url.isPlain ch = true
  behind : path = [] ∨ ∃ rest, path = '/' :: rest

lemma begins_text : e.Begins e.text e.slashes.toList where
  reads := by
    have mark : "://".toList = ':' :: '/' :: '/' :: [] := rfl
    unfold text
    simp only [String.toList_append, mark, List.append_assoc, List.cons_append, List.nil_append]
  plain ch member := by
    rw [e.only_slashes ch member]
    decide
  behind := by
    cases slashes : e.slashes.toList with
    | nil => exact .inl rfl
    | cons first rest =>
      have slash : first = '/' := e.only_slashes first (by simp [slashes])
      exact .inr ⟨rest, by rw [slash]⟩

variable {e} {text : String} {path : List Char} {place : Url} {user : Http.Headers}

/-- The scheme and what is behind it are read. -/
lemma Begins.cut (h : e.Begins text path) : Url.cutScheme (Url.trim text.toList) =
    if (e.scheme.toList.head?.map Url.isLetter).getD false then
      some (e.lowered, '/' :: '/' :: e.place.toList ++ path)
    else none := by
  have plain : ∀ ch ∈ '/' :: '/' :: e.place.toList ++ path, Url.isPlain ch = true := by
    intro ch member
    simp only [List.cons_append, List.mem_cons, List.mem_append] at member
    rcases member with rfl | rfl | member | member
    · decide
    · decide
    · exact (Bool.and_eq_true_iff.mp (e.place_named ch member)).1
    · exact h.plain ch member
  rw [h.reads, Url.cutScheme_trim e.scheme_named, Url.trimEnd_of_forall plain]
  rfl

/-- A text that begins so is read as the endpoint is, with another path. -/
lemma Begins.parse (h : e.Begins text path) (letter : (e.scheme.toList.head?.map Url.isLetter).getD false = true)
    (web : Http.Client.isWebScheme e.lowered = true) :
    Url.parse text = (Url.authority e.lowered e.place.toList).map (·.along (Url.pathAfterHost true path)) := by
  obtain ⟨network, remote, -⟩ := Url.of_isWebScheme web
  have cut := h.cut.trans (if_pos letter)
  have filled : e.place.toList ≠ [] := by
    rw [ne_eq, String.toList_eq_nil_iff]
    exact e.place_filled
  have named : ∀ ch ∈ e.place.toList, Url.isAuthorityChar ch = true := by
    intro ch member
    have here := e.place_named ch member
    unfold isPlaceChar Url.isPlain at here
    unfold Url.isAuthorityChar
    simp_all
  have body : ∀ ch ∈ path, Url.isBodyChar ch = true := by
    intro ch member
    exact (Bool.and_eq_true_iff.mp (h.plain ch member)).2
  exact Url.parse_of_plain cut network remote filled named body h.behind

/-- Such a text names a place of the web if the endpoint does, and the path is what is behind it. -/
lemma Begins.locate_eq_ok_iff (h : e.Begins text path) : Http.Client.locate text = .ok (place, user) ↔
    ∃ u, e.Names u ∧ Http.Client.isRequestable u.host = true ∧ (Http.Client.separateUser u).2 = user ∧
      place = (Http.Client.separateUser u).1.along (Url.pathAfterHost true path) := by
  rw [Http.Client.locate_eq_ok_iff]
  constructor
  · rintro ⟨url, parsed, separated, web, requestable⟩
    have same := Url.samePlace_of_separateUser separated
    cases letter : (e.scheme.toList.head?.map Url.isLetter).getD false with
    | false =>
      unfold Url.parse at parsed
      rw [h.cut, letter] at parsed
      cases parsed
    | true =>
      have scheme := Url.scheme_of_parse (h.cut.trans (if_pos letter)) parsed
      rw [same.scheme, scheme] at web
      rw [h.parse letter web] at parsed
      cases read : Url.authority e.lowered e.place.toList with
      | error fault =>
        rw [read] at parsed
        cases parsed
      | ok u =>
        rw [read] at parsed
        cases parsed
        rw [Url.separateUser_along] at separated
        obtain ⟨rfl, rfl⟩ := Prod.mk.inj separated
        refine ⟨u, ⟨letter, web, read⟩, ?_, rfl, rfl⟩
        rw [same.host] at requestable
        exact requestable
  · rintro ⟨u, names, requestable, rfl, rfl⟩
    have same := Url.samePlace_of_separateUser (Prod.mk.eta (p := Http.Client.separateUser u)).symm
    refine ⟨u.along (Url.pathAfterHost true path), ?_, Url.separateUser_along u _, ?_, ?_⟩
    · rw [h.parse names.letter names.web, names.read]
      rfl
    · change Http.Client.isWebScheme (Http.Client.separateUser u).1.scheme = true
      rw [same.scheme, (Url.of_authority names.read).1]
      exact names.web
    · change Http.Client.isRequestable (Http.Client.separateUser u).1.host = true
      rw [same.host]
      exact requestable

end BareEndpoint

namespace Client

variable {e : BareEndpoint} {setup : ClientSetup} {c : Client}

/-- The target of a call begins as the endpoint does. -/
lemma begins_schemasUrl (built : (setup.withEndpoint e.text).build? = some c) (customer : String) :
    e.Begins (c.schemasUrl customer) ('/' :: pathOf customer) where
  reads := by
    have trimmed : ('/' :: '/' :: e.place.toList ++ e.slashes.toList).rdropWhile (· = '/') =
        '/' :: '/' :: e.place.toList := by
      rcases List.eq_nil_or_concat e.place.toList with none | ⟨front, last, same⟩
      · exact absurd (String.toList_eq_nil_iff.mp none) e.place_filled
      · have mark : decide (last = '/') = false := by
          have named := e.place_named last (by simp [same])
          rw [decide_eq_false_iff_not]
          rintro rfl
          cases named
        have nothing : e.slashes.toList.rdropWhile (· = '/') = [] :=
          List.rdropWhile_eq_nil_iff.mpr fun ch member => decide_eq_true (e.only_slashes ch member)
        have shape (cs : List Char) :
            '/' :: '/' :: (front ++ [last]) ++ cs = '/' :: '/' :: front ++ last :: cs := by
          simp
        rw [same, List.concat_eq_append, shape, Url.rdropWhile_append_cons mark, nothing, ← shape,
          List.append_nil]
    rw [toList_schemasUrl built e.begins_text.reads, trimmed]
  plain ch member := by
    rcases List.mem_cons.mp member with rfl | member
    · decide
    · exact isPlain_of_mem_pathOf member
  behind := .inr ⟨_, rfl⟩

/-- The place of a call is the endpoint, with the path that is left for the customer. -/
lemma locate_schemasUrl_eq_ok_iff (built : (setup.withEndpoint e.text).build? = some c) {customer : String}
    {place : Url} {user : Http.Headers} : Http.Client.locate (c.schemasUrl customer) = .ok (place, user) ↔
      ∃ base, Http.Client.locate e.text = .ok (base, user) ∧
        place = base.along (.segments (segmentsOf customer)) := by
  rw [(begins_schemasUrl built customer).locate_eq_ok_iff, pathAfterHost_pathOf]
  constructor
  · rintro ⟨u, names, requestable, rfl, rfl⟩
    exact ⟨_, e.begins_text.locate_eq_ok_iff.mpr ⟨u, names, requestable, rfl, rfl⟩, rfl⟩
  · rintro ⟨base, taken, rfl⟩
    obtain ⟨u, names, requestable, rfl, rfl⟩ := e.begins_text.locate_eq_ok_iff.mp taken
    exact ⟨u, names, requestable, rfl, rfl⟩

/-- The URL of a request for a call is the endpoint, with the path that is left for the customer, and it is not too
long. -/
lemma exists_base_of_requested? (built : (setup.withEndpoint e.text).build? = some c) {b : Session}
    {call : Store.Call} {r : Http.Request} (requested : c.requested? b call = some r) :
    ∃ base user, Http.Client.locate e.text = .ok (base, user) ∧ Http.Client.isShort r.url = true ∧
      r.url = base.along (.segments (segmentsOf call.customer)) := by
  obtain ⟨headers, -, request⟩ := (c.requested?_eq_some_iff b call).mp requested
  obtain ⟨user, taken⟩ := Http.Order.url_of_request? request
  rw [target_orderOf] at taken
  obtain ⟨located, short⟩ := Http.Client.target_eq_ok_iff.mp taken
  obtain ⟨base, located, same⟩ := (locate_schemasUrl_eq_ok_iff built).mp located
  exact ⟨base, user, located, short, same⟩

/-- A request is made if there are headers for it, the endpoint is a place of the web and its URL is not too long. -/
lemma exists_requested?_iff (built : (setup.withEndpoint e.text).build? = some c) (b : Session)
    (call : Store.Call) : (∃ r, c.requested? b call = some r) ↔
      (∃ headers, (c.credentials.headers.runOn b).1 = .ok headers) ∧
        ∃ base user, Http.Client.locate e.text = .ok (base, user) ∧
          Http.Client.isShort (base.along (.segments (segmentsOf call.customer))) = true := by
  constructor
  · rintro ⟨r, requested⟩
    obtain ⟨base, user, located, short, same⟩ := exists_base_of_requested? built requested
    obtain ⟨headers, authorized, -⟩ := (c.requested?_eq_some_iff b call).mp requested
    rw [same] at short
    exact ⟨⟨headers, authorized⟩, base, user, located, short⟩
  · rintro ⟨⟨headers, authorized⟩, base, user, located, short⟩
    have taken : Http.Client.target (c.schemasUrl call.customer) =
        .ok (base.along (.segments (segmentsOf call.customer)), user) :=
      Http.Client.target_eq_ok_iff.mpr ⟨(locate_schemasUrl_eq_ok_iff built).mpr ⟨base, located, rfl⟩, short⟩
    have request : ∃ r, (c.orderOf call headers).request? = some r := by
      unfold Http.Order.request?
      rw [target_orderOf, taken]
      exact ⟨_, rfl⟩
    obtain ⟨r, request⟩ := request
    exact ⟨r, (c.requested?_eq_some_iff b call).mpr ⟨headers, authorized, request⟩⟩

end Client

/-- A URL that has a customer for one segment of its path, between the fixed ones, and no query. -/
def HasCustomer (url : Url) (customer : String) : Prop :=
  url.query = none ∧ ∃ id, url.renderPath = "/admin/directory/v1/customer/" ++ id ++ "/schemas" ∧
    '/' ∉ id.toList ∧ Url.decodePart? id = some customer

/-- That is so unless the customer is a dot or two. -/
lemma hasCustomer_along_iff (base : Url) (customer : String) :
    HasCustomer (base.along (.segments (segmentsOf customer))) customer ↔
      customer ≠ "." ∧ customer ≠ ".." := by
  have dot : "/admin/directory/v1/customer/schemas".length = 36 := by decide
  have dots : "/admin/directory/v1/schemas".length = 27 := by decide
  unfold HasCustomer
  rw [renderPath_along]
  constructor
  · rintro ⟨-, id, same, -⟩
    have long := length_path id
    rw [← same] at long
    constructor
    · rintro rfl
      have short : (schemasPath ".").length = 36 := dot
      omega
    · rintro rfl
      have short : (schemasPath "..").length = 27 := dots
      omega
  · rintro ⟨plain, plain'⟩
    have path : schemasPath customer =
        "/admin/directory/v1/customer/" ++ Url.Percent.segment customer ++ "/schemas" := by
      unfold schemasPath
      rw [if_neg plain, if_neg plain']
    have whole : '/' ∉ (Url.Percent.segment customer).toList := by
      intro member
      cases isSlash_of_mem_segment member
    exact ⟨rfl, _, path, whole, Url.Percent.decodePart?_segment customer⟩

namespace Client

/-- A request for a call, at an endpoint with nothing behind the host, has no query, and the path that is left for
the customer of the call.  The customer is one segment of that path unless it is a dot or two.  Requests for
different customers have different URLs in any case. -/
theorem customer_is_one_segment (e : BareEndpoint) {setup : ClientSetup} {c : Client}
    (built : (setup.withEndpoint e.text).build? = some c) :
    (∀ b call, c.Sends b call ∧
      ((∃ r, c.requested? b call = some r) ↔ (∃ headers, (c.credentials.headers.runOn b).1 = .ok headers) ∧
        ∃ base user, Http.Client.locate e.text = .ok (base, user) ∧
          Http.Client.isShort (base.along (.segments (segmentsOf call.customer))) = true) ∧
      ∀ r, c.requested? b call = some r →
        r.url.query = none ∧ r.url.renderPath = schemasPath call.customer ∧
        (HasCustomer r.url call.customer ↔ call.customer ≠ "." ∧ call.customer ≠ "..")) ∧
    ∀ b b' call call' r r', c.requested? b call = some r → c.requested? b' call' = some r' →
      call.customer ≠ call'.customer → r.url.print ≠ r'.url.print := by
  constructor
  · intro b call
    refine ⟨c.sends b call, exists_requested?_iff built b call, ?_⟩
    intro r requested
    obtain ⟨base, user, -, -, url⟩ := exists_base_of_requested? built requested
    rw [url]
    exact ⟨rfl, renderPath_along base call.customer, hasCustomer_along_iff base call.customer⟩
  · intro b b' call call' r r' requested requested' differ same
    obtain ⟨base, user, located, -, url⟩ := exists_base_of_requested? built requested
    obtain ⟨base', user', located', -, url'⟩ := exists_base_of_requested? built requested'
    rw [located] at located'
    obtain ⟨rfl, -⟩ := Prod.mk.inj (Except.ok.inj located')
    rw [url, url'] at same
    have path := Url.renderPath_eq_of_print_eq same
    rw [renderPath_along, renderPath_along] at path
    exact differ (schemasPath_injective path)

/-- An endpoint on the machine itself, with two slashes behind it. -/
def sampleEndpoint : BareEndpoint where
  scheme := "http"
  place := "[::1]"
  slashes := "//"
  scheme_named := List.all_eq_true.mp (by decide)
  place_filled := by decide
  place_named := List.all_eq_true.mp (by decide)
  only_slashes := fun ch member => by simpa using member

/-- A customer with a slash in its name is one segment. -/
theorem customer_with_slash_is_one_segment :
    let c : Client := ⟨.static, "http://[::1]", .ofSeconds 30⟩
    (sampleSetup.withEndpoint sampleEndpoint.text).build? = some c ∧
      ∃ r, c.requested? quietSession (.list "a/b") = some r ∧ HasCustomer r.url "a/b" := by
  have built : (sampleSetup.withEndpoint sampleEndpoint.text).build? =
      some ⟨.static, "http://[::1]", .ofSeconds 30⟩ := rfl
  obtain ⟨calls, -⟩ := customer_is_one_segment sampleEndpoint built
  obtain ⟨-, -, requests⟩ := calls quietSession (.list "a/b")
  exact ⟨built, _, rfl, (requests _ rfl).2.2.mpr ⟨by decide, by decide⟩⟩

/-- A customer that is a dot is no segment of the path: the request goes where no customer is named. -/
theorem customer_dot_is_no_segment :
    let c : Client := ⟨.static, "http://[::1]", .ofSeconds 30⟩
    (sampleSetup.withEndpoint sampleEndpoint.text).build? = some c ∧
      (c.make (.list ".") quietSession).2.network.sent.map (·.url) =
        ["http://[::1]/admin/directory/v1/customer/schemas"] ∧
      ∃ r, c.requested? quietSession (.list ".") = some r ∧ ¬HasCustomer r.url "." := by
  refine ⟨rfl, rfl, _, rfl, ?_⟩
  intro named
  have other := ((hasCustomer_along_iff (Run.samplePlace []) ".").mp named).1
  exact other rfl

end Client

end Directory

end WorkspaceSchema
