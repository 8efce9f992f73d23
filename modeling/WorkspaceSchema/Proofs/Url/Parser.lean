import WorkspaceSchema.Url.Parser
import WorkspaceSchema.Proofs.Url.Host
import Mathlib.Data.List.DropRight
import Mathlib.Data.List.Sections

/-!
# How URLs of the network are read

The text of such a URL is trimmed, and its scheme ends at the first colon (`cutScheme_trim`).  Of what follows,
`authorityText` is the part that names user, host and port: slashes in front of it do not count, and it ends
before the next slash, the query or the fragment.  `parse_of_network` puts a URL together from that part and
from what is behind it.

So texts with the same scheme and the same `authorityText` name the same host, wherever else they differ.  An
authority with a blank at its end is never read (`exists_fault_of_blank`).

Behind the host, names are reached one after another when the path is walked along (`walk_names`).  A segment
made of a text is a name unless the text is a dot or two (`isName_segment`): however a dot is spelled, the segment
would stand for the dot.
-/

namespace WorkspaceSchema.Url

/-! ### Cutting -/

/-- What is cut off begins with the first character to cut at. -/
lemma fst_cut (p : Char → Bool) (cs : List Char) : (cut p cs).1 = cs.takeWhile (!p ·) := by
  induction cs with
  | nil => rfl
  | cons c cs ih =>
    rw [cut]
    by_cases here : p c = true
    · simp [here]
    · simp [here, ih]

/-- Nothing is cut off where there is nothing to cut at. -/
lemma cut_of_forall {p : Char → Bool} {cs : List Char} (without : ∀ c ∈ cs, p c = false) :
    cut p cs = (cs, none) := by
  induction cs with
  | nil => rfl
  | cons c cs ih =>
    rw [cut, ih fun c' member => without c' (List.mem_cons_of_mem c member)]
    simp [without c]

/-- A text is cut at the first character to cut at. -/
lemma cut_append_cons {p : Char → Bool} {cs : List Char} (without : ∀ c ∈ cs, p c = false) {mark : Char}
    (marks : p mark = true) (rest : List Char) : cut p (cs ++ mark :: rest) = (cs, some rest) := by
  induction cs with
  | nil => rw [List.nil_append, cut, if_pos marks]
  | cons c cs ih =>
    rw [List.cons_append, cut, ih fun c' member => without c' (List.mem_cons_of_mem c member)]
    simp [without c]

/-- A character that begins neither a query nor a fragment. -/
def isBodyChar (c : Char) : Bool :=
  c ≠ '#' && c ≠ '?'

/-- What is left without query and fragment. -/
lemma body_cutTail (cs : List Char) : (cutTail cs).body = cs.takeWhile isBodyChar := by
  unfold cutTail
  dsimp only
  rw [fst_cut, fst_cut, List.takeWhile_takeWhile]
  congr 1
  funext c
  simp [isBodyChar, and_comm]

/-- A text without query and fragment is left as it is. -/
lemma cutTail_of_forall {cs : List Char} (plain : ∀ c ∈ cs, isBodyChar c = true) :
    cutTail cs = ⟨cs, none, none⟩ := by
  have fragment : cut (· = '#') cs = (cs, none) := by
    apply cut_of_forall
    intro c member
    have here := plain c member
    simp_all [isBodyChar]
  have query : cut (· = '?') cs = (cs, none) := by
    apply cut_of_forall
    intro c member
    have here := plain c member
    simp_all [isBodyChar]
  unfold cutTail
  rw [fragment]
  dsimp only
  rw [query]

/-! ### Trimming -/

/-- A character that is not dropped wherever it stands. -/
def isKept (c : Char) : Bool :=
  c ≠ '\t' && c ≠ '\n' && c ≠ '\r'

/-- A text trimmed at its end, and without the characters that are dropped wherever they stand. -/
def trimEnd (cs : List Char) : List Char :=
  (cs.rdropWhile Name.isBlank).filter isKept

/-- What is dropped at the end of a text comes after the last character that is not. -/
lemma rdropWhile_append_cons {p : Char → Bool} {mark : Char} (stays : p mark = false)
    (before cs : List Char) :
    (before ++ mark :: cs).rdropWhile p = before ++ mark :: cs.rdropWhile p := by
  induction cs using List.reverseRecOn with
  | nil =>
    rw [List.rdropWhile_concat_neg _ _ _ (by simp [stays]), List.rdropWhile_nil]
  | append_singleton cs c ih =>
    rw [← List.cons_append, ← List.append_assoc, List.rdropWhile_concat, List.rdropWhile_concat, ih]
    split
    · rfl
    · simp

/-- A text that ends with a character that can be seen is not trimmed at its end. -/
lemma trimEnd_concat {c : Char} (visible : Name.isBlank c = false) (cs : List Char) :
    trimEnd (cs ++ [c]) = (cs ++ [c]).filter isKept := by
  unfold trimEnd
  rw [List.rdropWhile_concat_neg _ _ _ (by simp [visible])]

/-- A slash at the end of a text is kept. -/
lemma trimEnd_of_slash (front : List Char) : trimEnd (front ++ ['/']) = front.filter isKept ++ ['/'] := by
  rw [trimEnd_concat (by decide), List.filter_append]
  rfl

/-- The characters of schemes can be seen, and are no colons. -/
lemma of_isSchemeChar {c : Char} (h : isSchemeChar c = true) :
    Name.isBlank c = false ∧ isKept c = true ∧ decide (c = ':') = false := by
  have small : c.toNat < 128 := by
    simp only [isSchemeChar, isLetter, Bool.or_eq_true, Bool.and_eq_true, decide_eq_true_eq,
      Char.le_def, UInt32.le_iff_toNat_le] at h
    rcases h with ((((⟨-, h⟩ | ⟨-, h⟩) | ⟨-, h⟩) | rfl) | rfl) | rfl
    · exact Nat.lt_of_le_of_lt h (by decide)
    · exact Nat.lt_of_le_of_lt h (by decide)
    · exact Nat.lt_of_le_of_lt h (by decide)
    all_goals decide
  have ascii : ∀ n < 128, isSchemeChar (Char.ofNat n) = true → Name.isBlank (Char.ofNat n) = false ∧
      isKept (Char.ofNat n) = true ∧ decide (Char.ofNat n = ':') = false := by
    decide
  have here := ascii c.toNat small
  rw [Char.ofNat_toNat] at here
  exact here h

/-- A text is trimmed behind the scheme. -/
lemma trim_of_scheme {name : List Char} (named : ∀ c ∈ name, isSchemeChar c = true) (rest : List Char) :
    trim (name ++ ':' :: rest) = name ++ ':' :: trimEnd rest := by
  have start : (name ++ ':' :: rest).dropWhile Name.isBlank = name ++ ':' :: rest := by
    cases name with
    | nil => rfl
    | cons c name =>
      exact List.dropWhile_cons_of_neg (by simp [(of_isSchemeChar (named c List.mem_cons_self)).1])
  have kept : name.filter isKept = name :=
    List.filter_eq_self.mpr fun c member => (of_isSchemeChar (named c member)).2.1
  change (((name ++ ':' :: rest).dropWhile Name.isBlank).rdropWhile Name.isBlank).filter isKept = _
  rw [start, rdropWhile_append_cons (by decide), List.filter_append, kept, List.filter_cons_of_pos (by decide)]
  rfl

/-- The scheme of a text ends at the first colon, and begins with a letter. -/
theorem cutScheme_trim {name : List Char} (named : ∀ c ∈ name, isSchemeChar c = true) (rest : List Char) :
    cutScheme (trim (name ++ ':' :: rest)) =
      if (name.head?.map isLetter).getD false then
        some (String.ofList (name.map Char.toLower), trimEnd rest)
      else none := by
  unfold cutScheme
  rw [trim_of_scheme named,
    cut_append_cons (fun c member => (of_isSchemeChar (named c member)).2.2) (by decide)]
  dsimp only
  rw [List.all_eq_true.mpr named, Bool.and_true]

/-! ### What is read -/

/-- A URL of which user, host and port are read has the scheme that it is read with, and a host. -/
lemma of_authority {scheme : String} {cs : List Char} {u : Url} (read : authority scheme cs = .ok u) :
    u.scheme = scheme ∧ u.host.isSome = true := by
  unfold authority at read
  dsimp only at read
  split at read
  · cases read
  · simp only [bind, Except.bind] at read
    split at read
    all_goals
      split at read
      · cases read
      · split at read
        · cases read
        · cases read
          exact ⟨rfl, rfl⟩

/-- With its path it has that scheme, too. -/
lemma scheme_of_located {scheme : String} {cs : List Char} {u : Url} (read : located scheme cs = .ok u) :
    u.scheme = scheme := by
  unfold located at read
  simp only [bind, Except.bind] at read
  split at read
  · cases read
  · next named =>
    cases read
    exact (of_authority named).1

/-- A URL has the scheme that it is read with. -/
theorem scheme_of_afterScheme {scheme : String} {cs : List Char} {u : Url}
    (read : afterScheme scheme cs = .ok u) : u.scheme = scheme := by
  unfold afterScheme at read
  split at read
  · next isFile =>
    -- However a file is read, its scheme is the same.
    rw [isFile]
    unfold file at read
    simp only [bind, Except.bind, pure, Except.pure] at read
    repeat' split at read
    all_goals cases read <;> rfl
  · split at read
    · exact scheme_of_located read
    · split at read
      · exact scheme_of_located read
      · cases read
        rfl
      · cases read
        rfl

/-- A URL has the scheme that its text begins with. -/
theorem scheme_of_parse {text scheme : String} {rest : List Char}
    (cut : cutScheme (trim text.toList) = some (scheme, rest)) {u : Url} (parsed : parse text = .ok u) :
    u.scheme = scheme := by
  unfold parse at parsed
  rw [cut] at parsed
  dsimp only at parsed
  cases read : afterScheme scheme (cutTail rest).body with
  | error fault =>
    rw [read] at parsed
    cases parsed
  | ok v =>
    rw [read] at parsed
    cases parsed
    exact scheme_of_afterScheme (u := v) read

/-! ### User, host and port -/

/-- A character of user, host and port. -/
def isAuthorityChar (c : Char) : Bool :=
  !isSlash true c && isBodyChar c

/-- What names user, host and port behind the scheme of a network URL. -/
def authorityText (cs : List Char) : List Char :=
  (cs.dropWhile (isSlash true)).takeWhile isAuthorityChar

/-- What stands behind user, host and port, up to query and fragment. -/
def pathText (cs : List Char) : List Char :=
  ((cs.takeWhile isBodyChar).dropWhile (isSlash true)).drop (authorityText cs).length

/-- Slashes stand in front of query and fragment. -/
lemma isBodyChar_of_isSlash {c : Char} (slash : isSlash true c = true) : isBodyChar c = true := by
  unfold isSlash at slash
  simp only [Bool.true_and, Bool.or_eq_true, decide_eq_true_eq] at slash
  rcases slash with rfl | rfl <;> decide

/-- It is the same whether slashes in front or the tail are dropped first. -/
lemma dropWhile_takeWhile (cs : List Char) :
    (cs.takeWhile isBodyChar).dropWhile (isSlash true) =
      (cs.dropWhile (isSlash true)).takeWhile isBodyChar := by
  induction cs with
  | nil => rfl
  | cons c cs ih =>
    by_cases slash : isSlash true c = true
    · rw [List.takeWhile_cons_of_pos (isBodyChar_of_isSlash slash), List.dropWhile_cons_of_pos slash,
        List.dropWhile_cons_of_pos slash, ih]
    · rw [List.dropWhile_cons_of_neg slash]
      by_cases body : isBodyChar c = true
      · rw [List.takeWhile_cons_of_pos body, List.dropWhile_cons_of_neg slash]
      · rw [List.takeWhile_cons_of_neg body, List.dropWhile_nil]

/-- The part behind the slashes is found in the text without its tail. -/
lemma takeWhile_body (cs : List Char) :
    ((cs.takeWhile isBodyChar).dropWhile (isSlash true)).takeWhile (!isSlash true ·) = authorityText cs := by
  rw [dropWhile_takeWhile, List.takeWhile_takeWhile]
  unfold authorityText
  congr 1
  funext c
  simp [isAuthorityChar]

/-- A network URL is read from its authority and its path. -/
theorem parse_of_network {text scheme : String} {rest : List Char}
    (cut : cutScheme (trim text.toList) = some (scheme, rest)) (network : isSpecial scheme = true)
    (remote : scheme ≠ "file") :
    parse text = (authority scheme (authorityText rest)).map fun u =>
      withTail { u with path := pathAfterHost true (pathText rest) } (cutTail rest) := by
  unfold parse
  rw [cut]
  dsimp only
  unfold afterScheme located
  rw [if_neg remote, if_pos network, network, body_cutTail]
  dsimp only
  rw [takeWhile_body]
  cases authority scheme (authorityText rest) <;> rfl

/-! ### Texts with the same authority -/

section AuthorityText

variable {cs : List Char}

/-- Slashes in front of a text do not matter. -/
lemma authorityText_append_of_slashes {slashes : List Char} (only : ∀ c ∈ slashes, isSlash true c = true)
    (cs : List Char) : authorityText (slashes ++ cs) = authorityText cs := by
  unfold authorityText
  rw [List.dropWhile_append_of_pos only]

/-- What names a host ends before a slash. -/
lemma authorityText_append_slash (named : ∃ c ∈ cs, isSlash true c = false) (rest : List Char) :
    authorityText (cs ++ '/' :: rest) = authorityText cs := by
  have left : cs.dropWhile (isSlash true) ≠ [] := by
    obtain ⟨c, member, plain⟩ := named
    intro none
    rw [List.dropWhile_eq_nil_iff.mp none c member] at plain
    cases plain
  unfold authorityText
  rw [List.dropWhile_append, if_neg (by simpa using left), List.takeWhile_append]
  split
  · next whole =>
    rw [List.takeWhile_cons_of_neg (by decide), List.append_nil]
    exact (List.takeWhile_prefix _).eq_of_length whole |>.symm
  · rfl

/-- A blank at the end of a text does not matter, or what names a host ends with it. -/
lemma authorityText_concat {b : Char} (blank : Name.isBlank b = true) (cs : List Char) :
    authorityText (cs ++ [b]) = authorityText cs ∨
      authorityText (cs ++ [b]) = cs.dropWhile (isSlash true) ++ [b] := by
  have slash : isSlash true b = false :=
    Name.of_isBlank (p := fun b => isSlash true b = false) (by decide) blank
  have plain : isAuthorityChar b = true :=
    Name.of_isBlank (p := fun b => isAuthorityChar b = true) (by decide) blank
  have grown : (cs ++ [b]).dropWhile (isSlash true) = cs.dropWhile (isSlash true) ++ [b] := by
    rw [List.dropWhile_append, List.dropWhile_cons_of_neg (by simp [slash])]
    split
    · next none => rw [List.isEmpty_iff.mp none, List.nil_append]
    · rfl
  unfold authorityText
  rw [grown, List.takeWhile_append]
  split
  · exact .inr (by rw [List.takeWhile_cons_of_pos plain, List.takeWhile_nil])
  · exact .inl rfl

/-- Blanks at the end of a text do not matter, or what names a host ends with one of them. -/
lemma authorityText_append_blanks {blanks : List Char} (blank : ∀ b ∈ blanks, Name.isBlank b = true) :
    authorityText (cs ++ blanks) = authorityText cs ∨
      ∃ front b, Name.isBlank b = true ∧ authorityText (cs ++ blanks) = front ++ [b] := by
  induction blanks using List.reverseRecOn with
  | nil =>
    rw [List.append_nil]
    exact .inl rfl
  | append_singleton bs b ih =>
    have last : Name.isBlank b = true := blank b (by simp)
    rw [← List.append_assoc]
    rcases authorityText_concat last (cs ++ bs) with same | ends
    · rw [same]
      exact ih fun b' member => blank b' (List.mem_append_left _ member)
    · exact .inr ⟨_, b, last, ends⟩

/-- A text whose slashes at the end are taken away, and another path is written behind it, names the same host as
before, or what names the host ends with a blank. -/
lemma authorityText_rdropWhile {rest : List Char}
    (named : ∃ c ∈ rest, isSlash true c = false ∧ isKept c = true) (path : List Char) :
    authorityText ((rest.rdropWhile (· = '/')).filter isKept ++ '/' :: path) = authorityText (trimEnd rest) ∨
      ∃ front b, Name.isBlank b = true ∧
        authorityText ((rest.rdropWhile (· = '/')).filter isKept ++ '/' :: path) = front ++ [b] := by
  have split : rest.rdropWhile (· = '/') ++ rest.rtakeWhile (· = '/') = rest :=
    List.rdropWhile_append_rtakeWhile
  have slashes : ∀ c ∈ rest.rtakeWhile (· = '/'), c = '/' := fun c member =>
    of_decide_eq_true (List.mem_rtakeWhile_imp (p := (· = '/')) member)
  have named' : ∃ c ∈ (rest.rdropWhile (· = '/')).filter isKept, isSlash true c = false := by
    obtain ⟨c, member, plain, kept⟩ := named
    refine ⟨c, List.mem_filter.mpr ⟨?_, kept⟩, plain⟩
    rw [← split] at member
    rcases List.mem_append.mp member with before | after
    · exact before
    · obtain rfl := slashes c after
      cases plain
  rw [authorityText_append_slash named']
  have same := List.eq_replicate_of_mem slashes
  cases taken : (rest.rtakeWhile (· = '/')).length with
  | zero =>
    -- Nothing is taken away.  Blanks at the end are trimmed only where no path is written behind them.
    rw [List.length_eq_zero_iff.mp taken, List.append_nil] at split
    rw [split]
    have blanks : rest.rdropWhile Name.isBlank ++ rest.rtakeWhile Name.isBlank = rest :=
      List.rdropWhile_append_rtakeWhile
    have whole : rest.filter isKept = trimEnd rest ++ (rest.rtakeWhile Name.isBlank).filter isKept := by
      unfold trimEnd
      rw [← List.filter_append, blanks]
    rw [whole]
    exact authorityText_append_blanks fun b member => List.mem_rtakeWhile_imp (List.mem_filter.mp member).1
  | succ n =>
    -- There are slashes at the end, and so nothing is trimmed.
    rw [taken] at same
    have trimmed : trimEnd rest = (rest.rdropWhile (· = '/')).filter isKept ++ '/' :: List.replicate n '/' := by
      conv_lhs => rw [← split, same, List.replicate_succ', ← List.append_assoc, trimEnd_of_slash]
      rw [List.filter_append, List.filter_replicate_of_pos (by decide), List.append_assoc,
        ← List.replicate_succ', List.replicate_succ]
    rw [trimmed, authorityText_append_slash named']
    exact .inl rfl

end AuthorityText

/-! ### Texts with nothing to trim -/

/-- A character that stands before query and fragment and is never trimmed. -/
def isPlain (c : Char) : Bool :=
  !Name.isBlank c && isBodyChar c

/-- Only blanks are dropped. -/
lemma isKept_of_isPlain {c : Char} (plain : isPlain c = true) : isKept c = true := by
  unfold isKept
  simp only [Bool.and_eq_true, decide_eq_true_eq]
  refine ⟨⟨?_, ?_⟩, ?_⟩ <;> rintro rfl <;> cases plain

/-- Plain characters stay. -/
lemma trimEnd_of_forall {cs : List Char} (plain : ∀ c ∈ cs, isPlain c = true) : trimEnd cs = cs := by
  have visible : ∀ c ∈ cs, ¬Name.isBlank c = true := by
    intro c member
    have here := (Bool.and_eq_true_iff.mp (plain c member)).1
    simpa using here
  unfold trimEnd
  rw [List.rdropWhile_eq_self_iff.mpr fun filled => visible _ (List.getLast_mem filled)]
  exact List.filter_eq_self.mpr fun c member => isKept_of_isPlain (plain c member)

/-- A URL with another path, and without query and fragment. -/
def along (u : Url) (path : Path) : Url :=
  { u with path, query := none, fragment := none }

/-- A URL of the network that has nothing to trim, and no query and no fragment. -/
theorem parse_of_plain {text scheme : String} {place path : List Char}
    (cut : cutScheme (trim text.toList) = some (scheme, '/' :: '/' :: place ++ path))
    (network : isSpecial scheme = true) (remote : scheme ≠ "file") (filled : place ≠ [])
    (named : ∀ c ∈ place, isAuthorityChar c = true) (plain : ∀ c ∈ path, isBodyChar c = true)
    (behind : path = [] ∨ ∃ rest, path = '/' :: rest) :
    parse text = (authority scheme place).map (·.along (pathAfterHost true path)) := by
  obtain ⟨first, others, rfl⟩ := List.exists_cons_of_ne_nil filled
  have mark : isSlash true first = false := by
    have here := named first List.mem_cons_self
    unfold isAuthorityChar at here
    simp_all
  have whole : ∀ c ∈ '/' :: '/' :: first :: others ++ path, isBodyChar c = true := by
    intro c member
    simp only [List.cons_append, List.mem_cons, List.mem_append] at member
    rcases member with rfl | rfl | rfl | member | member
    · decide
    · decide
    · exact (Bool.and_eq_true_iff.mp (named _ List.mem_cons_self)).2
    · exact (Bool.and_eq_true_iff.mp (named c (List.mem_cons_of_mem _ member))).2
    · exact plain c member
  have front : ('/' :: '/' :: first :: others ++ path).dropWhile (isSlash true) = first :: others ++ path := by
    rw [List.cons_append, List.dropWhile_cons_of_pos (by decide), List.cons_append,
      List.dropWhile_cons_of_pos (by decide), List.cons_append, List.dropWhile_cons_of_neg (by simp [mark])]
  have read : authorityText ('/' :: '/' :: first :: others ++ path) = first :: others := by
    unfold authorityText
    rw [front, List.takeWhile_append_of_pos named]
    rcases behind with rfl | ⟨rest, rfl⟩
    · rw [List.takeWhile_nil, List.append_nil]
    · rw [List.takeWhile_cons_of_neg (by decide), List.append_nil]
  have left : pathText ('/' :: '/' :: first :: others ++ path) = path := by
    unfold pathText
    rw [List.takeWhile_eq_self_iff.mpr whole, front, read, List.drop_left]
  rw [parse_of_network cut network remote, read, left, cutTail_of_forall whole]
  rfl

/-! ### Authorities that are refused -/

/-- Where a host is needed there has to be one. -/
lemma authority_nil {scheme : String} (network : isSpecial scheme = true) :
    authority scheme [] = .error .emptyHost := by
  unfold authority
  rw [network]
  rfl

/-- What is cut off behind the last mark ends as the text does. -/
lemma snd_cutLast_concat {p : Char → Bool} {b : Char} (plain : p b = false) (cs : List Char) :
    ∃ front, (cutLast p (cs ++ [b])).2 = front ++ [b] := by
  unfold cutLast
  dsimp only
  rw [fst_cut, List.reverse_append, List.reverse_singleton, List.singleton_append,
    List.takeWhile_cons_of_pos (by simp [plain]), List.reverse_cons]
  exact ⟨_, rfl⟩

/-- The port ends as the text does, or the host if there is no port. -/
lemma cutPort_concat {b : Char} (plain : b ≠ ':') (bracketed : Bool) (cs : List Char) :
    (∃ host, cutPort bracketed (cs ++ [b]) = (host ++ [b], none)) ∨
      ∃ host port, cutPort bracketed (cs ++ [b]) = (host, some (port ++ [b])) := by
  induction cs generalizing bracketed with
  | nil =>
    refine .inl ⟨[], ?_⟩
    rw [List.nil_append, cutPort, if_neg (by simp [plain])]
    rfl
  | cons c cs ih =>
    rw [List.cons_append, cutPort]
    split
    · exact .inr ⟨[], cs, rfl⟩
    · rcases ih (c = '[' || (bracketed && c ≠ ']')) with ⟨host, h⟩ | ⟨host, port, h⟩
      · rw [h]
        exact .inl ⟨c :: host, rfl⟩
      · rw [h]
        exact .inr ⟨c :: host, port, rfl⟩

/-- A port does not end with a blank. -/
lemma portOf_concat {b : Char} (blank : Name.isBlank b = true) (scheme : String) (cs : List Char) :
    portOf scheme (cs ++ [b]) = .error .invalidPort := by
  have digit : decide ('0' ≤ b) = false :=
    Name.of_isBlank (p := fun b => decide ('0' ≤ b) = false) (by decide) blank
  unfold portOf isDecimal
  rw [if_neg (by simp), if_pos (by simp [digit])]

/-- An authority with a blank at its end is refused: the blank is the last character of the port or of the
host. -/
theorem exists_fault_of_blank {scheme : String} (network : isSpecial scheme = true) {b : Char}
    (blank : Name.isBlank b = true) (cs : List Char) : ∃ fault, authority scheme (cs ++ [b]) = .error fault := by
  obtain ⟨place, split⟩ := snd_cutLast_concat (p := (· = '@')) (b := b)
    (Name.of_isBlank (p := fun b => decide (b = '@') = false) (by decide) blank) cs
  have plain : b ≠ ':' := Name.of_isBlank (p := fun b => b ≠ ':') (by decide) blank
  unfold authority
  dsimp only
  rw [split, network, if_pos rfl]
  rcases cutPort_concat plain false place with ⟨host, h⟩ | ⟨host, port, h⟩
  · rw [h]
    obtain ⟨fault, refused⟩ := Host.exists_fault_of_blank blank host
    refine ⟨fault, ?_⟩
    dsimp only
    rw [if_neg (by simp), refused]
    rfl
  · rw [h]
    dsimp only
    split
    · exact ⟨_, rfl⟩
    · rw [Option.getD_some, portOf_concat blank]
      cases Host.parse host with
      | error fault => exact ⟨fault, rfl⟩
      | ok host => exact ⟨_, rfl⟩

/-! ### Segments of a path -/

/-- A name that stays what it is when a path is walked along. -/
structure IsName (name : String) : Prop where
  single : isSingleDot name.toList = false
  double : isDoubleDot name.toList = false
  encoded : encoded keepInPath name.toList = name

/-- Names are reached one after another. -/
theorem walk_names {names : List String} (plain : ∀ name ∈ names, IsName name) (reached : List String) :
    walk reached (names.map String.toList) = names.reverse ++ reached := by
  induction names generalizing reached with
  | nil => rfl
  | cons name names ih =>
    have here := plain name List.mem_cons_self
    have step (rest : List (List Char)) : walk reached (name.toList :: rest) = walk (name :: reached) rest := by
      rw [walk]
      simp [here.single, here.double, here.encoded]
    rw [List.map_cons, step, ih fun later member => plain later (List.mem_cons_of_mem name member),
      List.reverse_cons, List.append_assoc, List.singleton_append]

/-- A segment that was made of a text is kept as it is. -/
lemma encoded_segment (s : String) : encoded keepInPath (Percent.segment s).toList = Percent.segment s := by
  have ascii : ∀ n < 128, Percent.isSegmentChar (Char.ofNat n) = true →
      (decide ((Char.ofNat n).toNat < 128) && keepInPath (UInt8.ofNat (Char.ofNat n).toNat)) = true := by
    decide
  have kept : Percent.encode keepInPath (Percent.segment s).toList = (Percent.segment s).toList := by
    apply Percent.encode_of_kept
    intro c member
    have here := Percent.of_isSegmentChar
      (p := fun c => decide (c.toNat < 128) && keepInPath (UInt8.ofNat c.toNat)) ascii
      (Percent.isSegmentChar_of_mem member)
    simpa using here
  unfold encoded
  rw [kept, String.ofList_toList]

/-- A character of a segment is a lower-case one, or the upper-case one to it. -/
lemma eq_or_eq_toUpper {c : Char} (h : Percent.isSegmentChar c = true) :
    c = c.toLower ∨ c = c.toLower.toUpper := by
  have ascii : ∀ n < 128, Percent.isSegmentChar (Char.ofNat n) = true →
      decide (Char.ofNat n = (Char.ofNat n).toLower ∨ Char.ofNat n = (Char.ofNat n).toLower.toUpper) = true := by
    decide
  exact of_decide_eq_true
    (Percent.of_isSegmentChar (p := fun c => decide (c = c.toLower ∨ c = c.toLower.toUpper)) ascii h)

/-- What a segment is in lower case leaves few choices for the segment. -/
lemma mem_sections {segment : List Char} (made : ∀ c ∈ segment, Percent.isSegmentChar c = true) :
    segment ∈ ((segment.map Char.toLower).map fun d => [d, d.toUpper]).sections := by
  rw [List.mem_sections, List.forall₂_map_right_iff, List.forall₂_map_right_iff, List.forall₂_same]
  intro c member
  simpa using eq_or_eq_toUpper (made c member)

/-- A segment stands for one of some texts if all choices that it leaves do. -/
lemma eq_of_lower_mem {s dots : String} {spellings : List String}
    (lower : spellings.contains (String.ofList ((Percent.segment s).toList.map Char.toLower)) = true)
    (decodes : ∀ spelling ∈ spellings, ∀ cs ∈ (spelling.toList.map fun d => [d, d.toUpper]).sections,
      decodePart? (String.ofList cs) = some dots) : s = dots := by
  have choice := decodes _ (List.contains_iff_mem.mp lower) (Percent.segment s).toList (by
    rw [String.toList_ofList]
    exact mem_sections fun c => Percent.isSegmentChar_of_mem)
  rw [String.ofList_toList, Percent.decodePart?_segment] at choice
  exact Option.some.inj choice

/-- Only a dot makes a single dot. -/
theorem eq_of_isSingleDot {s : String} (dot : isSingleDot (Percent.segment s).toList = true) : s = "." :=
  eq_of_lower_mem dot (by decide)

/-- Only two dots make a double dot. -/
theorem eq_of_isDoubleDot {s : String} (dots : isDoubleDot (Percent.segment s).toList = true) : s = ".." :=
  eq_of_lower_mem dots (by decide +kernel)

/-- A segment that was made of any other text is a name. -/
lemma isName_segment {s : String} (dot : s ≠ ".") (dots : s ≠ "..") : IsName (Percent.segment s) where
  single := Bool.eq_false_iff.mpr fun single => dot (eq_of_isSingleDot single)
  double := Bool.eq_false_iff.mpr fun double => dots (eq_of_isDoubleDot double)
  encoded := encoded_segment s

end WorkspaceSchema.Url
