import WorkspaceSchema.Decimal.Shortest

/-!
# Decimal layout

How the digits of a number are laid out: with the point in place while the exponent of the leading
digit is moderate, and in scientific notation beyond.
-/

namespace WorkspaceSchema.Decimal

/-- The exponents of the leading digit that are written in place. -/
structure Layout where
  positionalFrom : Int
  positionalTo : Int

/-- The text of a positive decimal, a whole number keeping `.0` when it is written in place. -/
def Layout.render (l : Layout) (d : Digits) : List Char :=
  let digits := Nat.toDigits 10 d.digits
  let lead : Int := d.exponent + digits.length - 1
  if l.positionalFrom ≤ lead && lead ≤ l.positionalTo then
    if 0 ≤ d.exponent then digits ++ List.replicate d.exponent.toNat '0' ++ ['.', '0']
    else if 0 ≤ lead then digits.take (lead.toNat + 1) ++ ['.'] ++ digits.drop (lead.toNat + 1)
    else ['0', '.'] ++ List.replicate ((-lead).toNat - 1) '0' ++ digits
  else
    let mantissa := match digits with
      | first :: second :: rest => first :: '.' :: second :: rest
      | short => short
    mantissa ++ ['e', if lead < 0 then '-' else '+'] ++ Nat.toDigits 10 lead.natAbs

end WorkspaceSchema.Decimal
