import FlagDecision.Text.CharSet

/-!
Moves of letters to another case, in runs of letters that move by the same distance.
-/

namespace FlagDecision.Text

/-- Every `step`-th code point from `first` to `last` moves by `shift`. -/
structure CaseShift where
  first : Nat
  last : Nat
  step : Nat
  shift : Int
  deriving DecidableEq, Repr

namespace CaseShift

def moves (m : CaseShift) (n : Nat) : Bool :=
  m.first ≤ n && n ≤ m.last && (n - m.first) % m.step == 0

def target (m : CaseShift) (n : Nat) : Nat := ((n : Int) + m.shift).toNat

def codes (m : CaseShift) : List Nat :=
  (List.range ((m.last - m.first) / m.step + 1)).map fun i => m.first + i * m.step

/-- Where the first matching entry of a table takes a code point; elsewhere it stays. -/
def apply (table : List CaseShift) (n : Nat) : Nat :=
  match table.find? (·.moves n) with
  | some m => m.target n
  | none => n

/-- Where the code points of a set move. -/
def image (m : CaseShift) (s : CharSet) : List Nat :=
  let near := s.ranges.filter fun r => r.first ≤ m.last && m.first ≤ r.last
  if near.isEmpty then [] else (m.codes.filter fun n => near.any (·.contains n)).map m.target

/-- The code points that move into a set. -/
def sources (m : CaseShift) (s : CharSet) : List Nat :=
  let near := s.ranges.filter fun r => r.first ≤ m.target m.last && m.target m.first ≤ r.last
  if near.isEmpty then [] else m.codes.filter fun n => near.any (·.contains (m.target n))

end CaseShift

end FlagDecision.Text
