import Mathlib.Data.List.Forall2
import Mathlib.Tactic.Lemma
import WorkspaceSchema.Base64
import WorkspaceSchema.Proofs.Text.Utf8

/-!
# Reading Base64 back

Bytes that were written with padding are read back, blanks behind them or not
(`decodeLenient_encodePadded`).  The reader collects symbols in blocks of eight and looks at a block when
a symbol follows it, so what it holds on the way is nothing, one group of four or two of them (`Filled`).
The writer writes group by group, and the proof goes along with it.

The strict pair goes by groups on both sides (`decode?_encode`).
-/

namespace WorkspaceSchema.Base64

/-- The characters that are written are digits, and padding. -/
lemma mem_encodeWith {last : Char × Char} {padding : List Char} {bytes : List UInt8} {c : Char}
    (member : c ∈ encodeWith last padding bytes) : c ∈ padding ∨ ∃ n < 64, c = digit last n := by
  fun_induction encodeWith last padding bytes with
  | case1 => cases member
  | case2 a n =>
    have small := a.toNat_lt
    simp only [List.mem_append, List.mem_cons, List.not_mem_nil, or_false] at member
    rcases member with ((rfl | rfl) | pad) | pad
    · exact .inr ⟨_, by omega, rfl⟩
    · exact .inr ⟨_, by omega, rfl⟩
    · exact .inl pad
    · exact .inl pad
  | case3 a b n =>
    have small := a.toNat_lt
    have small' := b.toNat_lt
    simp only [List.mem_append, List.mem_cons, List.not_mem_nil, or_false] at member
    rcases member with (rfl | rfl | rfl) | pad
    · exact .inr ⟨_, by omega, rfl⟩
    · exact .inr ⟨_, by omega, rfl⟩
    · exact .inr ⟨_, by omega, rfl⟩
    · exact .inl pad
  | case4 a b c rest n ih =>
    have small := a.toNat_lt
    have small' := b.toNat_lt
    have small'' := c.toNat_lt
    simp only [List.mem_cons] at member
    rcases member with rfl | rfl | rfl | rfl | later
    · exact .inr ⟨_, by omega, rfl⟩
    · exact .inr ⟨_, by omega, rfl⟩
    · exact .inr ⟨_, by omega, rfl⟩
    · exact .inr ⟨_, by omega, rfl⟩
    · exact ih later

/-- Whether a text is read as some symbols. -/
def ReadAs : List UInt8 → List (Option Nat) → Prop :=
  List.Forall₂ fun b symbol => isBlank b = false ∧ symbol? b = some symbol

/-- A digit is read as its number. -/
lemma readAs_digit {n : Nat} (small : n < 64) :
    ReadAs (Utf8.encode [digit ('+', '/') n]) [some n] := by
  have read : ∀ n < 64, (Utf8.encode [digit ('+', '/') n]).map (fun b => (isBlank b, symbol? b)) =
      [(false, some (some n))] := by decide
  obtain ⟨b, text, here⟩ := List.map_eq_singleton_iff.mp (read n small)
  obtain ⟨visible, symbol⟩ := Prod.mk.inj here
  rw [text]
  exact .cons ⟨visible, symbol⟩ .nil

lemma readAs_padding : ReadAs (Utf8.encode ['=']) [none] :=
  .cons ⟨rfl, rfl⟩ .nil

/-- Texts are read one after the other. -/
lemma ReadAs.cons {c : Char} {symbol : Option Nat} {cs : List Char} {symbols : List (Option Nat)}
    (first : ReadAs (Utf8.encode [c]) [symbol]) (later : ReadAs (Utf8.encode cs) symbols) :
    ReadAs (Utf8.encode (c :: cs)) (symbol :: symbols) := by
  rw [← List.singleton_append, Utf8.encode_append]
  exact List.rel_append first later

/-- What is held while a text is read: nothing, or one or two groups of digits; with the bytes that they
stand for. -/
inductive Filled : List (Option Nat) → List UInt8 → Prop
  | none : Filled [] []
  | half (a b c d : Nat) : Filled [some a, some b, some c, some d] (bytesOf a b c d)
  | full (a b c d a' b' c' d' : Nat) :
    Filled [some a, some b, some c, some d, some a', some b', some c', some d']
      (bytesOf a b c d ++ bytesOf a' b' c' d')

section Reading

variable {block : List (Option Nat)} {front text rest : List UInt8}

/-- Behind the last symbol come blanks. -/
lemma decodeFrom_blanks (block : List (Option Nat)) {blanks : List UInt8}
    (blank : ∀ b ∈ blanks, isBlank b = true) : decodeFrom block blanks = lastBlock block := by
  induction blanks with
  | nil => rfl
  | cons b blanks ih =>
    rw [decodeFrom, if_pos (blank b (List.mem_cons_self ..))]
    exact ih fun b' member => blank b' (List.mem_cons_of_mem b member)

/-- What is held at the end are the bytes in front. -/
lemma Filled.lastBlock (filled : Filled block front) : lastBlock block = .ok front := by
  cases filled <;> rfl

/-- Symbols are held as long as there is room. -/
lemma decodeFrom_append {symbols : List (Option Nat)} (read : ReadAs text symbols)
    (room : block.length + symbols.length ≤ 8) (rest : List UInt8) :
    decodeFrom block (text ++ rest) = decodeFrom (block ++ symbols) rest := by
  induction read generalizing block with
  | nil => rw [List.append_nil, List.nil_append]
  | @cons b symbol text symbols first later ih =>
    rw [List.length_cons] at room
    rw [List.cons_append, decodeFrom, first.1, first.2, if_neg Bool.false_ne_true]
    dsimp only
    rw [if_neg (by omega), ih (by rw [List.length_append]; simp; omega), List.append_assoc]
    rfl

/-- A block is looked at when a symbol follows. -/
lemma decodeFrom_full {symbol : Option Nat} {symbols : List (Option Nat)}
    (full : block.length = 8) (looked : fullBlock block = .ok front)
    (read : ReadAs text (symbol :: symbols)) (room : symbols.length ≤ 7) (rest : List UInt8) :
    decodeFrom block (text ++ rest) = (decodeFrom (symbol :: symbols) rest).map (front ++ ·) := by
  cases read with
  | @cons b text _ _ first later =>
    rw [List.cons_append, decodeFrom, first.1, first.2, if_neg Bool.false_ne_true]
    dsimp only
    rw [if_pos full, looked, decodeFrom_append later (by simp; omega)]
    change (do return front ++ (← decodeFrom (symbol :: symbols) rest)) = _
    cases decodeFrom (symbol :: symbols) rest <;> rfl

/-- A group of digits is held, and a block in front of it looked at. -/
lemma Filled.hold (filled : Filled block front) {a b c d : Nat}
    (read : ReadAs text [some a, some b, some c, some d]) (rest : List UInt8) :
    ∃ done block' back, Filled block' back ∧ done ++ back = front ++ bytesOf a b c d ∧
      decodeFrom block (text ++ rest) = (decodeFrom block' rest).map (done ++ ·) := by
  have held {r : Except Fault (List UInt8)} : r = r.map ([] ++ ·) := by cases r <;> rfl
  cases filled with
  | none =>
    refine ⟨[], _, _, .half a b c d, rfl, ?_⟩
    rw [decodeFrom_append read (by simp), ← held]
    rfl
  | half a₁ b₁ c₁ d₁ =>
    refine ⟨[], _, _, .full a₁ b₁ c₁ d₁ a b c d, rfl, ?_⟩
    rw [decodeFrom_append read (by simp), ← held]
    rfl
  | full => exact ⟨_, _, _, .half a b c d, rfl, decodeFrom_full rfl rfl read (by simp) rest⟩

/-- The last group may have padding in it. -/
lemma Filled.last (filled : Filled block front) {a b : Nat} {c d : Option Nat} {back : List UInt8}
    (read : ReadAs text [some a, some b, c, d]) (group : group [some a, some b, c, d] = .ok back)
    {blanks : List UInt8} (blank : ∀ b ∈ blanks, isBlank b = true) :
    decodeFrom block (text ++ blanks) = .ok (front ++ back) := by
  cases filled with
  | none =>
    rw [decodeFrom_append read (by simp), decodeFrom_blanks _ blank]
    exact group
  | half a₁ b₁ c₁ d₁ =>
    rw [decodeFrom_append read (by simp), decodeFrom_blanks _ blank]
    change (do return bytesOf a₁ b₁ c₁ d₁ ++ (← Base64.group [some a, some b, c, d])) = _
    rw [group]
    rfl
  | full =>
    rw [decodeFrom_full rfl rfl read (by simp), decodeFrom_blanks _ blank]
    exact congrArg (Except.map _) group

end Reading

/-- A byte is what its number stands for. -/
lemma ofNat_eq {n : Nat} {a : UInt8} (same : n = a.toNat) : UInt8.ofNat n = a := by
  rw [same, UInt8.ofNat_toNat]

/-- Bytes are read back behind what is held. -/
lemma Filled.decodeFrom_encodePadded {block : List (Option Nat)} {front : List UInt8}
    (filled : Filled block front) (bytes : List UInt8) {blanks : List UInt8}
    (blank : ∀ b ∈ blanks, isBlank b = true) :
    decodeFrom block (Utf8.encode (encodePadded bytes) ++ blanks) = .ok (front ++ bytes) := by
  match bytes with
  | [] =>
    rw [List.append_nil]
    exact (decodeFrom_blanks block blank).trans filled.lastBlock
  | [a] =>
    have small := a.toNat_lt
    refine filled.last (.cons (readAs_digit ?_) (.cons (readAs_digit ?_) (.cons readAs_padding
      readAs_padding))) ?_ blank
    · omega
    · omega
    · exact congrArg (fun a => Except.ok [a]) (ofNat_eq (by omega))
  | [a, b] =>
    have small := a.toNat_lt
    have small' := b.toNat_lt
    refine filled.last (.cons (readAs_digit ?_) (.cons (readAs_digit ?_) (.cons (readAs_digit ?_)
      readAs_padding))) ?_ blank
    · omega
    · omega
    · omega
    · exact congrArg₂ (fun a b => Except.ok [a, b]) (ofNat_eq (by omega)) (ofNat_eq (by omega))
  | a :: b :: c :: rest =>
    have small := a.toNat_lt
    have small' := b.toNat_lt
    have small'' := c.toNat_lt
    let n := (a.toNat * 256 + b.toNat) * 256 + c.toNat
    have read : ReadAs (Utf8.encode [digit ('+', '/') (n / 262144), digit ('+', '/') (n / 4096 % 64),
        digit ('+', '/') (n / 64 % 64), digit ('+', '/') (n % 64)])
        [some (n / 262144), some (n / 4096 % 64), some (n / 64 % 64), some (n % 64)] :=
      .cons (readAs_digit (by omega)) (.cons (readAs_digit (by omega))
        (.cons (readAs_digit (by omega)) (readAs_digit (by omega))))
    have group : bytesOf (n / 262144) (n / 4096 % 64) (n / 64 % 64) (n % 64) = [a, b, c] := by
      unfold bytesOf
      rw [ofNat_eq (a := a) (by omega), ofNat_eq (a := b) (by omega), ofNat_eq (a := c) (by omega)]
    have split : encodePadded (a :: b :: c :: rest) = [digit ('+', '/') (n / 262144),
        digit ('+', '/') (n / 4096 % 64), digit ('+', '/') (n / 64 % 64), digit ('+', '/') (n % 64)] ++
          encodePadded rest := rfl
    -- The group is held, and the rest is read behind what is held then.
    obtain ⟨done, block', back, filled', together, reads⟩ :=
      filled.hold read (Utf8.encode (encodePadded rest) ++ blanks)
    rw [split, Utf8.encode_append, List.append_assoc, reads,
      filled'.decodeFrom_encodePadded rest blank]
    change Except.ok (done ++ (back ++ rest)) = _
    rw [← List.append_assoc, together, group, List.append_assoc]
    rfl

/-- Bytes are read back from what is written for them, with blanks behind it or not. -/
theorem decodeLenient_encodePadded (bytes : List UInt8) {blanks : List UInt8}
    (blank : ∀ b ∈ blanks, isBlank b = true) :
    decodeLenient (Utf8.encode (encodePadded bytes) ++ blanks) = .ok bytes :=
  Filled.none.decodeFrom_encodePadded bytes blank

/-! ### Strict reading -/

/-- A digit of the alphabet of URLs has its number. -/
lemma value?_digit : ∀ n < 64, value? ('-', '_') (digit ('-', '_') n) = some n := by
  decide

/-- Digits are read as their numbers. -/
lemma mapM_value? {ns : List Nat} (small : ∀ n ∈ ns, n < 64) :
    (ns.map (digit ('-', '_'))).mapM (value? ('-', '_')) = some ns := by
  induction ns with
  | nil => rfl
  | cons n ns ih =>
    rw [List.map_cons, List.mapM_cons, value?_digit n (small n List.mem_cons_self),
      ih fun m member => small m (List.mem_cons_of_mem n member)]
    rfl

/-- What is written for bytes are digits, of which the numbers give the bytes. -/
lemma exists_values (bytes : List UInt8) :
    ∃ ns, (∀ n ∈ ns, n < 64) ∧ encode bytes = ns.map (digit ('-', '_')) ∧ ofValues? ns = some bytes := by
  match bytes with
  | [] => exact ⟨[], by simp, rfl, rfl⟩
  | [a] =>
    have small := a.toNat_lt
    let n := a.toNat * 16
    refine ⟨[n / 64, n % 64], ?_, rfl, ?_⟩
    · simp only [List.forall_mem_cons, List.not_mem_nil]
      exact ⟨by omega, by omega, nofun⟩
    · rw [ofValues?, if_pos (by omega)]
      exact congrArg (fun a => some [a]) (ofNat_eq (by omega))
  | [a, b] =>
    have small := a.toNat_lt
    have small' := b.toNat_lt
    let n := (a.toNat * 256 + b.toNat) * 4
    refine ⟨[n / 4096, n / 64 % 64, n % 64], ?_, rfl, ?_⟩
    · simp only [List.forall_mem_cons, List.not_mem_nil]
      exact ⟨by omega, by omega, by omega, nofun⟩
    · rw [ofValues?, if_pos (by omega)]
      exact congrArg₂ (fun a b => some [a, b]) (ofNat_eq (by omega)) (ofNat_eq (by omega))
  | a :: b :: c :: rest =>
    have small := a.toNat_lt
    have small' := b.toNat_lt
    have small'' := c.toNat_lt
    let n := (a.toNat * 256 + b.toNat) * 256 + c.toNat
    obtain ⟨ns, smalls, written, read⟩ := exists_values rest
    refine ⟨n / 262144 :: n / 4096 % 64 :: n / 64 % 64 :: n % 64 :: ns, ?_, ?_, ?_⟩
    · simp only [List.forall_mem_cons]
      exact ⟨by omega, by omega, by omega, by omega, smalls⟩
    · simp only [List.map_cons, ← written]
      rfl
    · rw [ofValues?, read]
      unfold bytesOf
      rw [ofNat_eq (a := a) (by omega), ofNat_eq (a := b) (by omega), ofNat_eq (a := c) (by omega)]
      rfl

/-- Bytes are read back from what is written for them in the alphabet of URLs. -/
theorem decode?_encode (bytes : List UInt8) : decode? (encode bytes) = some bytes := by
  obtain ⟨ns, small, written, read⟩ := exists_values bytes
  unfold decode?
  rw [written, mapM_value? small]
  exact read

end WorkspaceSchema.Base64
