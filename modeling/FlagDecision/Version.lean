import FlagDecision.Number.Word64
import FlagDecision.Text.Blank
import FlagDecision.Text.Digit

/-!
Dotted versions and their order, component by component.
-/

namespace FlagDecision.Version

open Text

/-- Two or more groups of decimal digits of any script, apart by points, with white space around. -/
def isVersion (s : List Char) : Bool :=
  let pieces := splitAll '.' (trim s)
  2 ≤ pieces.length && pieces.all fun piece => !piece.isEmpty && piece.all isDecimalDigit

/-- The components of a version; one that is no identifier counts as zero. -/
def components (s : List Char) : List Nat :=
  (splitAll '.' s).map fun piece => (readWord64? (trim piece)).getD 0

/-- The order of components; missing ones count as zero. -/
def compareComponents : List Nat → List Nat → Ordering
  | [], [] => .eq
  | l :: ls, [] => (compare l 0).then (compareComponents ls [])
  | [], r :: rs => (compare 0 r).then (compareComponents [] rs)
  | l :: ls, r :: rs => (compare l r).then (compareComponents ls rs)
termination_by ls rs => ls.length + rs.length

/-- The order of two texts as versions. -/
def compareTexts (l r : String) : Ordering :=
  compareComponents (components l.toList) (components r.toList)

end FlagDecision.Version
