/-!
# Splitting

`splitAll` cuts a list at every separator, and `length_splitAll` counts its parts.  Parts with no
separator in them are had back when they were joined by one (`splitAll_intercalate`).
-/

namespace WorkspaceSchema.Text

/-- The parts of a list between the elements that `p` holds of. -/
def splitAll {α : Type} (p : α → Bool) : List α → List (List α)
  | [] => [[]]
  | a :: rest =>
    match splitAll p rest with
    | [] => [[]]
    | part :: parts => if p a then [] :: part :: parts else (a :: part) :: parts

/-- There is one part more than separators. -/
theorem length_splitAll {α : Type} (p : α → Bool) (l : List α) :
    (splitAll p l).length = l.countP p + 1 := by
  induction l with
  | nil => rfl
  | cons a l ih =>
    rw [splitAll]
    split
    · next h => simp [h] at ih
    · next part parts h =>
      rw [h] at ih
      by_cases ha : p a = true
      · simp [ha] at ih ⊢
        omega
      · simp [ha] at ih ⊢
        omega

/-- A list without separators is one part. -/
theorem splitAll_eq_singleton {α : Type} {p : α → Bool} {part : List α} (whole : ∀ a ∈ part, p a = false) :
    splitAll p part = [part] := by
  induction part with
  | nil => rfl
  | cons a part ih =>
    rw [splitAll, ih fun b member => whole b (List.mem_cons_of_mem a member)]
    simp [whole a]

/-- The first separator ends the first part. -/
theorem splitAll_append_cons {α : Type} {p : α → Bool} {part : List α} (whole : ∀ a ∈ part, p a = false)
    {separator : α} (separates : p separator = true) (rest : List α) :
    splitAll p (part ++ separator :: rest) = part :: splitAll p rest := by
  induction part with
  | nil =>
    have parts : splitAll p rest ≠ [] := by
      intro none
      have count := length_splitAll p rest
      rw [none] at count
      cases count
    rw [List.nil_append, splitAll]
    split
    · next none => exact absurd none parts
    · next first parts h => rw [if_pos separates, h]
  | cons a part ih =>
    rw [List.cons_append, splitAll, ih fun b member => whole b (List.mem_cons_of_mem a member)]
    simp [whole a]

/-- Parts that are joined by a separator are had back. -/
theorem splitAll_intercalate {α : Type} {p : α → Bool} {separator : α} (separates : p separator = true)
    {parts : List (List α)} (filled : parts ≠ []) (whole : ∀ part ∈ parts, ∀ a ∈ part, p a = false) :
    splitAll p ([separator].intercalate parts) = parts := by
  induction parts with
  | nil => exact absurd rfl filled
  | cons part parts ih =>
    have here := whole part List.mem_cons_self
    cases parts with
    | nil =>
      rw [List.intercalate_singleton]
      exact splitAll_eq_singleton here
    | cons next parts =>
      have later := ih (List.cons_ne_nil _ _) fun part' member => whole part' (List.mem_cons_of_mem _ member)
      rw [List.intercalate_cons_cons, List.append_assoc, List.singleton_append,
        splitAll_append_cons here separates, later]

end WorkspaceSchema.Text
