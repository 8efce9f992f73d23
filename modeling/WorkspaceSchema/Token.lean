import WorkspaceSchema.Clock
import WorkspaceSchema.Text.Quoted
import WorkspaceSchema.Token.OAuth

/-!
# Access tokens

A token authorizes requests until it expires.  It does not appear in a text about it.
-/

namespace WorkspaceSchema

/-- An access token. -/
structure Token where
  text : String
  tokenType : String
  /-- When the token expires, on the steady clock. -/
  expiresAt : Option Int := none
deriving DecidableEq, Repr, Inhabited

namespace Token

/-- Whether a token expires within some seconds.  A reading beyond the end of the clock counts as
late. -/
def expiresWithin (t : Token) (seconds : Nat) (now : Clock) : Bool :=
  match t.expiresAt with
  | none => false
  | some expiry =>
    match now.after? seconds with
    | none => true
    | some later => expiry ≤ later

/-- A token expires within some seconds if it expires at all, and then no later than they have
passed; none have passed that the clock cannot count. -/
theorem expiresWithin_eq_true_iff {t : Token} {seconds : Nat} {now : Clock} :
    t.expiresWithin seconds now = true ↔ ∃ expiry, t.expiresAt = some expiry ∧
      (Clock.latest < now.steady + seconds ∨ expiry ≤ now.steady + seconds) := by
  unfold expiresWithin Clock.after?
  cases t.expiresAt with
  | none => simp
  | some expiry =>
    by_cases late : now.steady + seconds ≤ Clock.latest
    · simp [late, Int.not_lt.mpr late]
    · simp [late, Int.not_le.mp late]

/-- A token that does not expire within some seconds lives on after they have passed. -/
theorem expiresWithin_eq_false_iff {t : Token} {seconds : Nat} {now : Clock} :
    t.expiresWithin seconds now = false ↔ t.expiresAt = none ∨ ∃ expiry, t.expiresAt = some expiry ∧
      now.steady + seconds ≤ Clock.latest ∧ now.steady + seconds < expiry := by
  rw [← Bool.not_eq_true, expiresWithin_eq_true_iff]
  cases t.expiresAt with
  | none => simp
  | some expiry => simp

/-- A token in words, without the token itself. -/
def describe (t : Token) : String :=
  "Token \x7b token: " ++ Text.quoted "[censored]"
    ++ ", token_type: " ++ Text.quoted t.tokenType
    ++ ", expires_at: "
    ++ (match t.expiresAt with
      | none => "None"
      | some expiry =>
        "Some(Instant \x7b tv_sec: " ++ String.ofList (Json.renderInt expiry) ++ ", tv_nsec: 0 \x7d)")
    ++ " \x7d"

/-- Whether a character may stand in a header: of the control characters of ASCII only the tab, and
every other character. -/
def isHeaderChar (c : Char) : Bool :=
  (0x20 ≤ c.toNat && c.toNat ≠ 0x7F) || c = '\t'

/-- The value of the header that carries a token, if a header can hold it. -/
def headerValue? (t : Token) : Option String :=
  let value := t.tokenType ++ " " ++ t.text
  if value.toList.all isHeaderChar then some value else none

/-- The token that a grant gives at some time.  The seconds it lives may be too many to count. -/
def ofGrant? (g : Grant) (now : Clock) : Option Token :=
  match g.expiresIn with
  | none => some ⟨g.accessToken, g.tokenType, none⟩
  | some seconds => (now.after? seconds).map fun expiry => ⟨g.accessToken, g.tokenType, some expiry⟩

end Token

end WorkspaceSchema
