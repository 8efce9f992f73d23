import Mathlib.Data.List.Basic
import Mathlib.Tactic.Lemma
import Mathlib.Tactic.SplitIfs
import WorkspaceSchema.Settings

/-!
# Settings that make sense

Nothing is found wrong with settings exactly if a run can be made with them (`fault?_eq_none_iff`): there is an
address of an administrator, a name for the schema and one for the customer, some time, and an endpoint in the web.
-/

namespace WorkspaceSchema

/-- A text begins with another one if something is put behind that. -/
lemma isPrefixOf_toList_iff {front s : String} :
    front.toList.isPrefixOf s.toList = true ↔ ∃ rest, s = front ++ rest := by
  rw [List.isPrefixOf_iff_prefix]
  constructor
  · rintro ⟨rest, same⟩
    refine ⟨String.ofList rest, ?_⟩
    apply String.toList_inj.mp
    rw [String.toList_append, String.toList_ofList, same]
  · rintro ⟨rest, rfl⟩
    exact ⟨rest.toList, String.toList_append.symm⟩

namespace Settings

/-- Settings that a run can be made with. -/
structure IsSensible (s : Settings) : Prop where
  adminEmail : '@' ∈ s.adminEmail.toList
  schemaName : s.schemaName ≠ ""
  customerId : s.customerId ≠ ""
  timeout : s.timeout.nanoseconds ≠ 0
  endpoint : (∃ rest, s.endpoint = "http://" ++ rest) ∨ ∃ rest, s.endpoint = "https://" ++ rest

/-- The endpoint is looked at no further than its scheme. -/
lemma looksLikeWebUrl_eq_true_iff {endpoint : String} : looksLikeWebUrl endpoint = true ↔
    (∃ rest, endpoint = "http://" ++ rest) ∨ ∃ rest, endpoint = "https://" ++ rest := by
  unfold looksLikeWebUrl
  rw [Bool.or_eq_true, isPrefixOf_toList_iff, isPrefixOf_toList_iff]

/-- Nothing is wrong with settings exactly if they make sense. -/
lemma fault?_eq_none_iff {s : Settings} : s.fault? = none ↔ s.IsSensible := by
  unfold fault?
  constructor
  · intro valid
    split_ifs at valid with email schema customer timeout place
    have address : '@' ∈ s.adminEmail.toList := by simpa using email
    have time : s.timeout.nanoseconds ≠ 0 := by simpa [Duration.isZero] using timeout
    have web : looksLikeWebUrl s.endpoint = true := by simpa using place
    exact ⟨address, schema, customer, time, looksLikeWebUrl_eq_true_iff.mp web⟩
  · rintro ⟨email, schema, customer, timeout, place⟩
    have web := looksLikeWebUrl_eq_true_iff.mpr place
    rw [if_neg (by simpa using email), if_neg schema, if_neg customer,
      if_neg (by simpa [Duration.isZero] using timeout), if_neg (by simpa using web)]

end Settings

end WorkspaceSchema
