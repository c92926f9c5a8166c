import FlagDecision.Text.Category

/-!
Decimal digits of every script. ASCII is decided without the table.
-/

namespace FlagDecision.Text

/-- A decimal digit of some script. -/
def isDecimalDigit (c : Char) : Bool :=
  c.isDigit || (0x80 ≤ c.toNat && Category.decimalNumber.mem c)

end FlagDecision.Text
