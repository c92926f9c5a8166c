import FlagDecision.Number.Decimal

/-!
Identifiers of 64 bits in text.
-/

namespace FlagDecision

/-- Identifiers and counts stay below this. -/
def word64Limit : Nat := Nat.pow 2 64

/-- Read a whole text as an identifier: an optional plus sign and decimal digits. -/
def readWord64? (s : List Char) : Option Nat :=
  let digits := match s with
    | '+' :: rest => rest
    | s => s
  if digits.isEmpty ∨ ¬ digits.all Char.isDigit then none
  else
    let n := digitsValue digits
    if n < word64Limit then some n else none

end FlagDecision
