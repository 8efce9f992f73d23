import Mathlib.Data.List.Forall2
import WorkspaceSchema.Proofs.Json.Cursor

/-!
# Reading what was printed: containers

The readers of lists and objects leave it to others how one item or one member is read.  So they read
back what was printed if the others do: `reads_items` for lists, and `reads_members` for objects, whose
members carry a state along (`Takes`).

A reader of items looks one byte ahead.  This is why the text of an item must not begin like the end of
the list (`Opens`).
-/

namespace WorkspaceSchema.Json

open Reading

/-- The bytes of the compact text of a document. -/
def bytes (j : Json) : List UInt8 :=
  Utf8.encode (render j)

lemma ofString_print (j : Json) : Utf8.ofString j.print = bytes j := by
  unfold Utf8.ofString print bytes
  rw [String.toList_ofList]

/-- A text is printed between quotes. -/
lemma bytes_text (s : String) :
    bytes (.text s) = 0x22 :: (Utf8.encode (s.toList.flatMap escapeChar) ++ [0x22]) := by
  unfold bytes
  rw [render, encode_renderText]

/-- A whole number is printed as its digits, and the sign if it is negative. -/
lemma bytes_integer (i : Int) :
    bytes (.number (.integer i)) = if i < 0 then 0x2D :: digits i.natAbs else digits i.natAbs := by
  unfold bytes digits
  rw [render, renderNumber, renderInt]
  split <;> rfl

lemma isDigit_first {d : Nat} (one : d < 10) :
    Cursor.isBlank (UInt8.ofNat (48 + d)) = false ∧ UInt8.ofNat (48 + d) ≠ 0x2D ∧
      UInt8.ofNat (48 + d) ≠ 0x5D ∧ UInt8.ofNat (48 + d) ≠ 0x6E := by
  revert d
  decide

/-- Bytes that begin with something else than a blank or the end of a list. -/
def Opens (ahead : List UInt8) : Prop :=
  ∃ b tail, ahead = b :: tail ∧ Cursor.isBlank b = false ∧ b ≠ 0x5D

section

variable {α σ : Type} {b : UInt8} {rest : List UInt8}

/-! ### Punctuation -/

lemma reads_colon (rest : List UInt8) : Reads colon (0x3A :: rest) () rest :=
  (reads_peekToken rfl rest).bind (reads_skip_one _ rest)

lemma reads_closeList (rest : List UInt8) : Reads closeList (0x5D :: rest) () rest :=
  (reads_peekToken rfl rest).bind (reads_skip_one _ rest)

lemma reads_closeObject (rest : List UInt8) : Reads closeObject (0x7D :: rest) () rest :=
  (reads_peekToken rfl rest).bind (reads_skip_one _ rest)

lemma reads_enter {levels : Nat} (deep : levels ≠ 0) (b : UInt8) (rest : List UInt8) :
    Reads (enter levels) (b :: rest) () rest := by
  unfold enter
  rw [if_neg deep]
  exact reads_skip_one b rest

/-- A reader may depend on how many bytes are ahead. -/
lemma reads_counted {f : Nat → Reading α} {a : α} {ahead : List UInt8}
    (reads : Reads (f ahead.length) ahead a rest) :
    Reads (do f (← get).rest.length) ahead a rest := by
  intro c here
  obtain ⟨c', found, there⟩ := reads c here
  rw [← here] at found
  exact ⟨c', found, there⟩

/-! ### Lists -/

lemma reads_hasItem_first {ahead : List UInt8} (opens : Opens ahead) :
    Reads (hasItem true) ahead true ahead := by
  obtain ⟨b, tail, rfl, visible, other⟩ := opens
  refine (reads_peekToken visible tail).bind ?_
  split
  · contradiction
  · simp_all
  · exact reads_pure true _
  · exact reads_pure true _

lemma reads_hasItem_further {ahead : List UInt8} (opens : Opens ahead) :
    Reads (hasItem false) (0x2C :: ahead) true ahead := by
  obtain ⟨b, tail, rfl, visible, other⟩ := opens
  refine (reads_peekToken rfl _).bind ((reads_skip_one _ _).bind ((reads_peekToken visible tail).bind ?_))
  split
  · contradiction
  · simp_all
  · exact reads_pure true _

lemma reads_hasItem_end (first : Bool) (rest : List UInt8) :
    Reads (hasItem first) (0x5D :: rest) false (0x5D :: rest) :=
  (reads_peekToken rfl rest).bind (reads_pure false _)

/-- The items after the first are fewer than the bytes they take, with the end of the list. -/
lemma length_lt_encode_renderItems (js : List Json) :
    js.length < (Utf8.encode (renderItems js)).length := by
  induction js with
  | nil => exact Nat.zero_lt_one
  | cons j js ih =>
    rw [renderItems, List.cons_append, Utf8.encode_cons, Utf8.encode_append, List.length_append,
      List.length_append, List.length_cons]
    have comma : (String.utf8EncodeChar ',').length = 1 := rfl
    omega

/-- A value is read back from what was printed for a document. -/
structure ReadsBack (item : Reading α) (j : Json) (a : α) : Prop where
  /-- The text of the document is not taken for the end of a list. -/
  opens : Opens (bytes j)
  /-- The value is read back wherever a list or an object may go on. -/
  reads : ∀ {rest}, Delimited rest → Reads item (bytes j ++ rest) a rest

lemma Opens.append {ahead : List UInt8} (opens : Opens ahead) (rest : List UInt8) :
    Opens (ahead ++ rest) := by
  obtain ⟨b, tail, rfl, visible, other⟩ := opens
  exact ⟨b, tail ++ rest, rfl, visible, other⟩

lemma delimited_renderItems (js : List Json) (rest : List UInt8) :
    Delimited (Utf8.encode (renderItems js) ++ rest) := by
  cases js with
  | nil => exact .inr ⟨_, _, rfl, .inr (.inl rfl)⟩
  | cons j js => exact .inr ⟨_, _, rfl, .inl rfl⟩

/-- The items after the first are read back. -/
lemma reads_itemsFrom {item : Reading α} {js : List Json} {as : List α}
    (each : List.Forall₂ (ReadsBack item) js as) {rounds : Nat} (enough : js.length < rounds)
    (rest : List UInt8) :
    Reads (itemsFrom item rounds false) (Utf8.encode (renderItems js) ++ rest) as (0x5D :: rest) := by
  induction each generalizing rounds with
  | nil =>
    obtain ⟨rounds, rfl⟩ := Nat.exists_eq_succ_of_ne_zero (Nat.ne_of_gt enough)
    exact (reads_hasItem_end false rest).bind (reads_pure [] _)
  | @cons j a js as one later ih =>
    obtain ⟨rounds, rfl⟩ := Nat.exists_eq_succ_of_ne_zero (Nat.ne_of_gt (Nat.zero_lt_of_lt enough))
    have ahead : Utf8.encode (renderItems (j :: js)) ++ rest =
        0x2C :: (bytes j ++ (Utf8.encode (renderItems js) ++ rest)) := by
      rw [renderItems, List.cons_append, Utf8.encode_cons, Utf8.encode_append, List.append_assoc,
        List.append_assoc]
      rfl
    rw [ahead]
    -- What follows the item is a comma or the end of the list, so the item ends there.
    exact (reads_hasItem_further (one.opens.append _)).bind
      ((one.reads (delimited_renderItems js rest)).bind
        ((ih (Nat.lt_of_succ_lt_succ enough)).bind (reads_pure _ _)))

/-- The items of a list are read back. -/
lemma reads_items {item : Reading α} {js : List Json} {as : List α}
    (each : List.Forall₂ (ReadsBack item) js as) :
    ∃ inner, bytes (.array js) = 0x5B :: inner ∧
      ∀ rest, Reads (items item) (inner ++ rest) as (0x5D :: rest) := by
  cases each with
  | nil => exact ⟨[0x5D], rfl, fun rest => reads_counted (f := fun n => itemsFrom item (n + 1) true)
      ((reads_hasItem_end true rest).bind (reads_pure [] _))⟩
  | @cons j a js as one later =>
    refine ⟨bytes j ++ Utf8.encode (renderItems js), ?_, fun rest =>
      reads_counted (f := fun n => itemsFrom item (n + 1) true) ?_⟩
    · unfold bytes
      rw [render, List.cons_append, Utf8.encode_cons, Utf8.encode_append]
      rfl
    · have enough : js.length < (bytes j ++ Utf8.encode (renderItems js) ++ rest).length := by
        have := length_lt_encode_renderItems js
        rw [List.length_append, List.length_append]
        omega
      have further := reads_itemsFrom later enough rest
      rw [itemsFrom]
      rw [List.append_assoc] at further ⊢
      exact (reads_hasItem_first (one.opens.append _)).bind
        ((one.reads (delimited_renderItems js rest)).bind (further.bind (reads_pure _ _)))

/-! ### Objects -/

lemma reads_hasMember_first (name : String) (rest : List UInt8) :
    Reads (hasMember true) (Utf8.encode (renderText name) ++ rest) true
      (Utf8.encode (renderText name) ++ rest) := by
  rw [encode_renderText, List.cons_append]
  exact (reads_peekToken rfl _).bind (reads_pure true _)

lemma reads_hasMember_further (name : String) (rest : List UInt8) :
    Reads (hasMember false) (0x2C :: (Utf8.encode (renderText name) ++ rest)) true
      (Utf8.encode (renderText name) ++ rest) := by
  rw [encode_renderText, List.cons_append]
  exact (reads_peekToken rfl _).bind
    ((reads_skip_one _ _).bind ((reads_peekToken rfl _).bind (reads_pure true _)))

lemma reads_hasMember_end (first : Bool) (rest : List UInt8) :
    Reads (hasMember first) (0x7D :: rest) false (0x7D :: rest) :=
  (reads_peekToken rfl rest).bind (reads_pure false _)

/-- A name is read back. -/
lemma reads_memberName (name : String) (rest : List UInt8) :
    Reads memberName (Utf8.encode (renderText name) ++ rest) name rest := by
  rw [encode_renderText, List.cons_append, List.append_assoc]
  exact (reads_skip_one _ _).bind (reads_textBody name rest)

lemma length_lt_encode_renderMembers (ms : List (String × Json)) :
    ms.length < (Utf8.encode (renderMembers ms)).length := by
  induction ms with
  | nil => exact Nat.zero_lt_one
  | cons m ms ih =>
    rw [renderMembers, Utf8.encode_append, List.length_append, List.cons_append, List.length_cons,
      Utf8.encode_cons, List.length_append]
    have comma : (String.utf8EncodeChar ',').length = 1 := rfl
    omega

lemma delimited_renderMembers (ms : List (String × Json)) (rest : List UInt8) :
    Delimited (Utf8.encode (renderMembers ms) ++ rest) := by
  cases ms with
  | nil => exact .inr ⟨_, _, rfl, .inr (.inr (.inl rfl))⟩
  | cons m ms => exact .inr ⟨_, _, rfl, .inl rfl⟩

/-- Members that were printed, each of which takes the state one further. -/
inductive Takes (member : String → σ → Reading σ) : List (String × Json) → σ → σ → Prop
  | nil (s : σ) : Takes member [] s s
  | cons {name : String} {j : Json} {ms : List (String × Json)} {s t u : σ}
    (one : ∀ {rest}, Delimited rest → Reads (member name s) (0x3A :: (bytes j ++ rest)) t rest)
    (later : Takes member ms t u) : Takes member ((name, j) :: ms) s u

lemma Takes.append {member : String → σ → Reading σ} {ms ns : List (String × Json)} {s t u : σ}
    (first : Takes member ms s t) (second : Takes member ns t u) : Takes member (ms ++ ns) s u := by
  induction first with
  | nil s => exact second
  | cons one later ih => exact .cons one (ih second)

/-- The members after the first are read back. -/
lemma reads_membersFrom {member : String → σ → Reading σ} {ms : List (String × Json)} {s t : σ}
    (takes : Takes member ms s t) {rounds : Nat} (enough : ms.length < rounds) (rest : List UInt8) :
    Reads (membersFrom member rounds false s) (Utf8.encode (renderMembers ms) ++ rest) t
      (0x7D :: rest) := by
  induction takes generalizing rounds with
  | nil s =>
    obtain ⟨rounds, rfl⟩ := Nat.exists_eq_succ_of_ne_zero (Nat.ne_of_gt enough)
    exact (reads_hasMember_end false rest).bind (reads_pure s _)
  | @cons name j ms s t u one later ih =>
    obtain ⟨rounds, rfl⟩ := Nat.exists_eq_succ_of_ne_zero (Nat.ne_of_gt (Nat.zero_lt_of_lt enough))
    have ahead : Utf8.encode (renderMembers ((name, j) :: ms)) ++ rest =
        0x2C :: (Utf8.encode (renderText name) ++
          0x3A :: (bytes j ++ (Utf8.encode (renderMembers ms) ++ rest))) := by
      simp only [renderMembers, Utf8.encode_append, Utf8.encode_cons, List.cons_append,
        List.append_assoc]
      rfl
    rw [ahead]
    exact (reads_hasMember_further name _).bind ((reads_memberName name _).bind
      ((one (delimited_renderMembers ms rest)).bind (ih (Nat.lt_of_succ_lt_succ enough))))

/-- The members of an object are read back. -/
lemma reads_members {member : String → σ → Reading σ} {ms : List (String × Json)} {s t : σ}
    (takes : Takes member ms s t) :
    ∃ inner, bytes (.object ms) = 0x7B :: inner ∧
      ∀ rest, Reads (members member s) (inner ++ rest) t (0x7D :: rest) := by
  cases takes with
  | nil =>
    exact ⟨[0x7D], rfl, fun rest => reads_counted (f := fun n => membersFrom member (n + 1) true s)
      ((reads_hasMember_end true rest).bind (reads_pure _ _))⟩
  | @cons name j ms _ t' _ one later =>
    refine ⟨Utf8.encode (renderText name) ++ 0x3A :: (bytes j ++ Utf8.encode (renderMembers ms)), ?_,
      fun rest => reads_counted (f := fun n => membersFrom member (n + 1) true s) ?_⟩
    · unfold bytes
      simp only [render, Utf8.encode_append, Utf8.encode_cons, List.cons_append, List.append_assoc]
      rfl
    · have enough : ms.length < (Utf8.encode (renderText name) ++
          0x3A :: (bytes j ++ Utf8.encode (renderMembers ms)) ++ rest).length := by
        have := length_lt_encode_renderMembers ms
        simp only [List.length_append, List.length_cons]
        omega
      have further := reads_membersFrom later enough rest
      rw [membersFrom]
      simp only [List.append_assoc, List.cons_append] at further ⊢
      exact (reads_hasMember_first name _).bind ((reads_memberName name _).bind
        ((one (delimited_renderMembers ms rest)).bind further))

end

end WorkspaceSchema.Json
