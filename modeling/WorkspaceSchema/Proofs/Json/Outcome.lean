import WorkspaceSchema.Json.Shape.Reader
import WorkspaceSchema.Proofs.Json.Written

/-!
# What readers make of documents

A reader of documents either finds something or refuses, and which of the two is settled by the document
ahead, however it is written.  `Means r t o` says what the reader `r` makes of the document `t`: it finds the
value in `o`, and passes over just the bytes of the document, or it refuses if there is none.  Where the text
is refused, and in which words, is left open.

Outcomes are put together as readers are (`Settles.bind`).  For containers this comes down to what is made of
one item, or of one member (`settles_items`, `settles_members`).
-/

namespace WorkspaceSchema.Json

open Reading

section Outcomes

variable {α β : Type} {r : Reading α} {a : α} {o : Option α} {ahead between rest : List UInt8}

/-- With the bytes `ahead` a reader refuses. -/
def Refuses (r : Reading α) (ahead : List UInt8) : Prop :=
  ∀ c : Cursor, c.rest = ahead → ∃ e, r.run c = .error e

/-- With the bytes `ahead` a reader finds what there is to be found, and leaves `rest`; if there is nothing,
it refuses. -/
def Settles (r : Reading α) (ahead : List UInt8) (o : Option α) (rest : List UInt8) : Prop :=
  match o with
  | some a => Reads r ahead a rest
  | none => Refuses r ahead

lemma Refuses.bind (refuses : Refuses r ahead) (f : α → Reading β) : Refuses (r >>= f) ahead := by
  intro c here
  obtain ⟨e, failed⟩ := refuses c here
  exact ⟨e, by rw [StateT.run_bind, failed]; rfl⟩

lemma Continues.settles {r' : Reading α} (continues : Continues r ahead r' between)
    (settles : Settles r' between o rest) : Settles r ahead o rest := by
  cases o with
  | some a => exact continues.reads settles
  | none =>
    intro c here
    obtain ⟨c', there, same⟩ := continues c here
    rw [same]
    exact settles c' there

lemma Reads.settles {f : α → Reading β} {o : Option β} (first : Reads r ahead a between)
    (second : Settles (f a) between o rest) : Settles (r >>= f) ahead o rest :=
  first.continues.settles second

lemma Reads.refuses {f : α → Reading β} (first : Reads r ahead a between) (second : Refuses (f a) between) :
    Refuses (r >>= f) ahead := by
  have settles : Settles (r >>= f) ahead none between := first.settles second
  exact settles

lemma Settles.bind {f : α → Reading β} {g : α → Option β} (first : Settles r ahead o between)
    (second : ∀ a, o = some a → Settles (f a) between (g a) rest) :
    Settles (r >>= f) ahead (o.bind g) rest := by
  cases o with
  | some a => exact Reads.settles first (second a rfl)
  | none => exact Refuses.bind first f

lemma Settles.map (settles : Settles r ahead o rest) (f : α → β) :
    Settles (do return f (← r)) ahead (o.map f) rest := by
  cases o with
  | some a => exact Reads.bind settles (reads_pure (f a) rest)
  | none => exact Refuses.bind settles _

lemma refuses_refuse (reason : Reason) (ahead : List UInt8) : Refuses (refuse reason : Reading α) ahead :=
  fun _ _ => ⟨_, rfl⟩

lemma refuses_refuseNext (reason : Reason) (ahead : List UInt8) :
    Refuses (refuseNext reason : Reading α) ahead :=
  fun _ _ => ⟨_, rfl⟩

lemma refuses_refuseObject (reason : Reason) (ahead : List UInt8) :
    Refuses (refuseObject reason : Reading α) ahead :=
  fun _ _ => ⟨_, rfl⟩

lemma refuses_refuseList (reason : Reason) (ahead : List UInt8) :
    Refuses (refuseList reason : Reading α) ahead :=
  fun _ _ => ⟨_, rfl⟩

/-- A reader that refuses in the end refuses, whatever it finds before. -/
lemma refuses_bind (r : Reading α) {f : α → Reading β} (later : ∀ a ahead, Refuses (f a) ahead)
    (ahead : List UInt8) : Refuses (r >>= f) ahead := by
  intro c _
  rw [StateT.run_bind]
  cases r.run c with
  | error e => exact ⟨e, rfl⟩
  | ok found => exact later found.1 found.2.rest found.2 rfl

/-- A document of the wrong kind is refused. -/
lemma refuses_refuseKind (expected : String) (ahead : List UInt8) :
    Refuses (Reading.refuseKind expected : Reading α) ahead := by
  have refused (reason : Reason) : ∀ (_ : Unit) (ahead : List UInt8),
      Refuses (refuse reason : Reading α) ahead := fun _ => refuses_refuse reason
  refine refuses_bind _ (fun b ahead => ?_) ahead
  split
  · exact refuses_bind _ (fun _ => refuses_bind _ (refused _)) _
  · exact refuses_bind _ (fun _ => refuses_bind _ (refused _)) _
  · exact refuses_bind _ (fun _ => refuses_bind _ (refused _)) _
  · exact refuses_bind _ (fun _ => refuses_bind _ fun s => refuses_refuse _) _
  · exact refuses_bind _ (fun _ => refuses_bind _ fun n => refuses_refuse _) _
  · exact refuses_refuse _ _
  · exact refuses_refuse _ _
  · split
    · exact refuses_bind _ (fun n => refuses_refuse _) _
    · exact refuses_refuseNext _ _
  · exact refuses_refuseNext _ _

/-- What a reader makes of a whole text, with blanks at its end. -/
lemma toOption_whole {blanks : List UInt8} (settles : Settles r ahead o blanks)
    (blank : ∀ b ∈ blanks, Cursor.isBlank b = true) : (whole r ahead).toOption = o := by
  have finishes : Reads finish blanks () [] := (reads_peekToken_end blank).bind (reads_pure () [])
  cases o with
  | some a =>
    have all : Reads (do let a ← r; finish; return a) ahead a [] :=
      Reads.bind settles (finishes.bind (reads_pure a []))
    obtain ⟨c', found, -⟩ := all (Cursor.start ahead) rfl
    unfold whole
    rw [found]
    rfl
  | none =>
    obtain ⟨e, failed⟩ := Refuses.bind settles (fun a => do finish; return a) (Cursor.start ahead) rfl
    unfold whole
    rw [failed]
    rfl

/-- A reader may depend on how many bytes are ahead. -/
lemma settles_counted {f : Nat → Reading α} (settles : Settles (f ahead.length) ahead o rest) :
    Settles (do f (← get).rest.length) ahead o rest := by
  cases o with
  | some a => exact reads_counted settles
  | none =>
    intro c here
    obtain ⟨e, failed⟩ := settles c here
    rw [← here] at failed
    exact ⟨e, failed⟩

/-- What a reader makes of a document, however it is written. -/
def Means (r : Reading α) (t : Written) (o : Option α) : Prop :=
  ∀ ⦃bytes rest : List UInt8⦄, t.Spelled bytes → Delimited rest → Settles r (bytes ++ rest) o rest

/-- What a reader makes of a document is what it makes of its texts. -/
lemma Means.toOption_whole {t : Written} (means : Means r t o) {bytes : List UInt8}
    (writes : t.Writes bytes) : (whole r bytes).toOption = o := by
  obtain ⟨spelled, blanks, spells, blank, rfl⟩ := writes
  refine Json.toOption_whole (means spells ?_) blank
  have delimited := delimited_of_blank blank (.inl rfl)
  rwa [List.append_nil] at delimited

end Outcomes

/-! ### Lists -/

section Lists

variable {α : Type} {first : Bool} {item : Written} {items : List Written} {bytes : List UInt8}

lemma Behind.append {part : List UInt8} (behind : Behind part bytes) (rest : List UInt8) :
    Behind (part ++ rest) (bytes ++ rest) := by
  obtain ⟨blanks, blank, rfl⟩ := behind
  exact ⟨blanks, blank, List.append_assoc ..⟩

lemma SpelledItems.length_lt (spelled : SpelledItems first items bytes) : items.length < bytes.length := by
  induction items generalizing first bytes with
  | nil => exact Nat.zero_lt_of_lt (Behind.length_lt spelled)
  | cons item items ih =>
    obtain ⟨one, later, spells, others, separated⟩ := spelled
    obtain ⟨b, part, behind, -⟩ := spells.exists_first
    have here := behind.length_lt
    have there := ih others
    cases first with
    | true =>
      obtain rfl := separated
      rw [List.length_append, List.length_cons]
      omega
    | false =>
      have comma := Behind.length_lt separated
      rw [List.length_append] at comma
      rw [List.length_cons]
      omega

/-- A list is at its end. -/
lemma SpelledItems.reads_hasItem_nil (spelled : SpelledItems first [] bytes) (rest : List UInt8) :
    Reads (hasItem first) (bytes ++ rest) false (0x5D :: rest) :=
  (Behind.reads_peekToken spelled rfl).bind (reads_pure false _)

/-- A list goes on with an item. -/
lemma SpelledItems.reads_hasItem_cons (spelled : SpelledItems first (item :: items) bytes) :
    ∃ one later, item.Spelled one ∧ SpelledItems false items later ∧
      ∀ rest, Reads (hasItem first) (bytes ++ rest) true (one ++ (later ++ rest)) := by
  obtain ⟨one, later, spells, others, separated⟩ := spelled
  obtain ⟨b, part, behind, spells, begins⟩ := spells.exists_first
  obtain ⟨visible, other⟩ := begins.opens
  refine ⟨b :: part, later, spells, others, fun rest => ?_⟩
  cases first with
  | true =>
    obtain rfl := separated
    rw [List.append_assoc]
    refine (behind.reads_peekToken visible).bind ?_
    split
    · contradiction
    · simp_all
    · exact reads_pure true _
    · exact reads_pure true _
  | false =>
    refine (Behind.reads_peekToken separated rfl).bind ((reads_skip_one _ _).bind ?_)
    rw [List.append_assoc]
    refine (behind.reads_peekToken visible).bind ?_
    split
    · contradiction
    · simp_all
    · exact reads_pure true _

/-- A list can be closed at its end. -/
lemma SpelledItems.reads_closeList (spelled : SpelledItems first [] bytes) (rest : List UInt8) :
    Reads closeList (bytes ++ rest) () rest :=
  (Behind.reads_peekToken spelled rfl).bind (reads_skip_one _ rest)

/-- A list cannot be closed in front of an item. -/
lemma SpelledItems.refuses_closeList (spelled : SpelledItems first (item :: items) bytes)
    (rest : List UInt8) : Refuses closeList (bytes ++ rest) := by
  obtain ⟨one, later, spells, -, separated⟩ := spelled
  cases first with
  | true =>
    obtain rfl := separated
    obtain ⟨b, part, behind, -, begins⟩ := spells.exists_first
    obtain ⟨visible, other⟩ := begins.opens
    rw [List.append_assoc]
    refine (behind.reads_peekToken visible).refuses ?_
    split
    · contradiction
    · simp_all
    · refine refuses_bind _ (fun _ => refuses_bind _ fun b ahead => ?_) _
      split <;> exact refuses_refuseNext _ _
    · exact refuses_refuseNext _ _
  | false =>
    refine (Behind.reads_peekToken separated rfl).refuses
      (refuses_bind _ (fun _ => refuses_bind _ fun b ahead => ?_) _)
    split <;> exact refuses_refuseNext _ _

lemma mapM_cons_eq_bind {β : Type} (f : β → Option α) (b : β) (bs : List β) :
    (b :: bs).mapM f = (f b).bind fun a => (bs.mapM f).map (a :: ·) := by
  rw [List.mapM_cons]
  exact Option.bind_congr fun a _ => Option.map_eq_bind.symm

/-- What is made of the items of a list. -/
lemma settles_itemsFrom {r : Reading α} {meaning : Written → Option α} (means : ∀ t, Means r t (meaning t))
    (spelled : SpelledItems first items bytes) {rounds : Nat} (enough : items.length < rounds)
    (rest : List UInt8) :
    Settles (itemsFrom r rounds first) (bytes ++ rest) (items.mapM meaning) (0x5D :: rest) := by
  induction items generalizing first bytes rounds with
  | nil =>
    obtain ⟨rounds, rfl⟩ := Nat.exists_eq_succ_of_ne_zero (Nat.ne_of_gt enough)
    exact (spelled.reads_hasItem_nil rest).bind (reads_pure [] _)
  | cons item items ih =>
    obtain ⟨rounds, rfl⟩ := Nat.exists_eq_succ_of_ne_zero (Nat.ne_of_gt (Nat.zero_lt_of_lt enough))
    obtain ⟨one, later, spells, others, goes⟩ := spelled.reads_hasItem_cons
    have further := ih others (Nat.lt_of_succ_lt_succ enough)
    rw [mapM_cons_eq_bind]
    exact (goes rest).settles ((means item spells (others.delimited rest)).bind fun a _ =>
      further.map (a :: ·))

lemma settles_items {r : Reading α} {meaning : Written → Option α} (means : ∀ t, Means r t (meaning t))
    (spelled : SpelledItems true items bytes) (rest : List UInt8) :
    Settles (Reading.items r) (bytes ++ rest) (items.mapM meaning) (0x5D :: rest) := by
  refine settles_counted (f := fun n => itemsFrom r (n + 1) true) ?_
  refine settles_itemsFrom means spelled ?_ rest
  have := spelled.length_lt
  rw [List.length_append]
  omega

end Lists

/-! ### Objects -/

section Objects

variable {σ : Type} {first : Bool} {name : String} {value : Written} {ms : List (String × Written)}
  {bytes : List UInt8}

lemma SpelledMembers.length_lt (spelled : SpelledMembers first ms bytes) : ms.length < bytes.length := by
  induction ms generalizing first bytes with
  | nil => exact Nat.zero_lt_of_lt (Behind.length_lt spelled)
  | cons m ms ih =>
    obtain ⟨body, one, later, valued, named, -, -, others, colon, quoted, separated⟩ := spelled
    have there := ih others
    have colon := colon.length_lt
    have quoted := quoted.length_lt
    rw [List.length_append] at colon
    rw [List.length_append, List.length_cons] at quoted
    have named : named.length ≤ bytes.length := by
      cases first with
      | true => exact Nat.le_of_eq (congrArg List.length separated).symm
      | false => exact Nat.le_of_lt (Behind.length_lt separated)
    rw [List.length_cons]
    omega

/-- An object is at its end. -/
lemma SpelledMembers.reads_hasMember_nil (spelled : SpelledMembers first [] bytes) (rest : List UInt8) :
    Reads (hasMember first) (bytes ++ rest) false (0x7D :: rest) :=
  (Behind.reads_peekToken spelled rfl).bind (reads_pure false _)

/-- An object goes on with a member. -/
lemma SpelledMembers.reads_hasMember_cons (spelled : SpelledMembers first ((name, value) :: ms) bytes) :
    ∃ one later valued quoted, value.Spelled one ∧ SpelledMembers false ms later ∧
      Behind (0x3A :: (one ++ later)) valued ∧
      ∀ rest, Reads (hasMember first) (bytes ++ rest) true (quoted ++ rest) ∧
        Reads memberName (quoted ++ rest) name (valued ++ rest) := by
  obtain ⟨body, one, later, valued, named, text, spells, others, colon, behind, separated⟩ := spelled
  refine ⟨one, later, valued, 0x22 :: (body ++ (0x22 :: valued)), spells, others, colon, fun rest =>
    ⟨?_, ?_⟩⟩
  · cases first with
    | true =>
      obtain rfl := separated
      exact (behind.reads_peekToken rfl).bind (reads_pure true _)
    | false =>
      exact (Behind.reads_peekToken separated rfl).bind ((reads_skip_one _ _).bind
        ((behind.reads_peekToken rfl).bind (reads_pure true _)))
  · rw [List.cons_append, List.append_assoc]
    exact (reads_skip_one _ _).bind (reads_textBody_spelled text (valued ++ rest))

/-- What is made of one member, its name having been read: the state goes one step further, or the member is
refused. -/
def MeansMember (member : String → σ → Reading σ) (step : String → Written → σ → Option σ) : Prop :=
  ∀ ⦃name value s one valued after⦄, value.Spelled one → Behind (0x3A :: (one ++ after)) valued →
    Delimited after → Settles (member name s) valued (step name value s) after

/-- What is made of the members of an object. -/
lemma settles_membersFrom {member : String → σ → Reading σ} {step : String → Written → σ → Option σ}
    (means : MeansMember member step) (spelled : SpelledMembers first ms bytes) {rounds : Nat}
    (enough : ms.length < rounds) (s : σ) (rest : List UInt8) :
    Settles (membersFrom member rounds first s) (bytes ++ rest)
      (ms.foldlM (fun s m => step m.1 m.2 s) s) (0x7D :: rest) := by
  induction ms generalizing first bytes rounds s with
  | nil =>
    obtain ⟨rounds, rfl⟩ := Nat.exists_eq_succ_of_ne_zero (Nat.ne_of_gt enough)
    exact (spelled.reads_hasMember_nil rest).bind (reads_pure s _)
  | cons m ms ih =>
    obtain ⟨rounds, rfl⟩ := Nat.exists_eq_succ_of_ne_zero (Nat.ne_of_gt (Nat.zero_lt_of_lt enough))
    obtain ⟨one, later, valued, quoted, spells, others, colon, goes⟩ := spelled.reads_hasMember_cons
    obtain ⟨ahead, named⟩ := goes rest
    have colon := colon.append rest
    rw [List.cons_append, List.append_assoc] at colon
    rw [List.foldlM_cons]
    exact ahead.settles (named.settles ((means spells colon (others.delimited rest)).bind fun s _ =>
      ih others (Nat.lt_of_succ_lt_succ enough) s))

lemma settles_members {member : String → σ → Reading σ} {step : String → Written → σ → Option σ}
    (means : MeansMember member step) (spelled : SpelledMembers true ms bytes) (s : σ) (rest : List UInt8) :
    Settles (Reading.members member s) (bytes ++ rest) (ms.foldlM (fun s m => step m.1 m.2 s) s)
      (0x7D :: rest) := by
  refine settles_counted (f := fun n => membersFrom member (n + 1) true s) ?_
  refine settles_membersFrom means spelled ?_ s rest
  have := spelled.length_lt
  rw [List.length_append]
  omega

end Objects

end WorkspaceSchema.Json
