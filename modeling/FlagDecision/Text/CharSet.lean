/-!
Sets of characters as ranges of code points, with the operations on sets and their written form in
tables. The ranges of a set ascend and do not touch one another, so equal sets have equal ranges.
-/

namespace FlagDecision.Text

/-- The code points from `first` to `last`. -/
structure CodeRange where
  first : Nat
  last : Nat
  deriving DecidableEq, Repr

namespace CodeRange

def contains (r : CodeRange) (n : Nat) : Bool := r.first ≤ n && n ≤ r.last

/-- The order in which a set lists its ranges. -/
def precedes (r s : CodeRange) : Bool :=
  r.first < s.first || (r.first == s.first && r.last ≤ s.last)

def greatest : Nat := 0x10FFFF

/-- The character after a code point; surrogates are none. -/
def after (n : Nat) : Nat := if n = 0xD7FF then 0xE000 else n + 1

/-- The character before a code point; surrogates are none. -/
def before (n : Nat) : Nat := if n = 0xE000 then 0xD7FF else n - 1

/-- The range between two code points, whichever is the greater. -/
def between (a b : Nat) : CodeRange := ⟨min a b, max a b⟩

/-- Ascending ranges that start with `r`, with those that overlap or touch made one. -/
def joinedFrom (r : CodeRange) : List CodeRange → List CodeRange
  | [] => [r]
  | s :: rest =>
    if s.first ≤ r.last + 1 then joinedFrom ⟨r.first, max r.last s.last⟩ rest
    else r :: joinedFrom s rest

/-- Ascending ranges with those that overlap or touch made one. -/
def joined : List CodeRange → List CodeRange
  | [] => []
  | r :: rest => joinedFrom r rest

/-- Two ascending lists of ranges as one. -/
def merged : List CodeRange → List CodeRange → List CodeRange
  | [], ss => ss
  | r :: rs, ss =>
    ss.takeWhile (fun s => !r.precedes s) ++ r :: merged rs (ss.dropWhile fun s => !r.precedes s)

/-- The ranges of an ascending list that overlap `r`. -/
def overlapping (r : CodeRange) (ss : List CodeRange) : List CodeRange :=
  (ss.dropWhile fun s => s.last < r.first).takeWhile fun s => s.first ≤ r.last

/-- What two ascending lists of ranges share. -/
def shared : List CodeRange → List CodeRange → List CodeRange
  | [], _ => []
  | r :: rs, ss =>
    let ss := ss.dropWhile fun s => s.last < r.first
    (overlapping r ss).map (fun s => ⟨max r.first s.first, min r.last s.last⟩) ++ shared rs ss

/-- What is left of `r` without some ascending ranges that overlap it. -/
def cut (r : CodeRange) : List CodeRange → List CodeRange
  | [] => [r]
  | s :: ss =>
    (if r.first < s.first then [⟨r.first, before s.first⟩] else []) ++
      if s.last < r.last then cut ⟨after s.last, r.last⟩ ss else []

/-- What is left of one ascending list of ranges without the code points of another. -/
def without : List CodeRange → List CodeRange → List CodeRange
  | [], _ => []
  | r :: rs, ss =>
    let ss := ss.dropWhile fun s => s.last < r.first
    cut r (overlapping r ss) ++ without rs ss

/-- The gaps between ascending ranges. Where only the surrogates lie between two of them, the gap
counts as the two characters around the surrogates. -/
def gaps : List CodeRange → List CodeRange
  | r :: s :: rest => between (after r.last) (before s.first) :: gaps (s :: rest)
  | _ => []

end CodeRange

/-- A set of characters. -/
structure CharSet where
  ranges : List CodeRange
  deriving DecidableEq, Repr, Inhabited

namespace CharSet

open CodeRange

/-- The set of some ranges in any order. -/
def ofRanges (rs : List CodeRange) : CharSet :=
  ⟨joined (rs.foldr (fun r sorted => merged [r] sorted) [])⟩

/-- The set of some code points in any order. -/
def ofCodes (ns : List Nat) : CharSet := ofRanges (ns.map fun n => ⟨n, n⟩)

def empty : CharSet := ⟨[]⟩

def full : CharSet := ⟨[⟨0, greatest⟩]⟩

def char (c : Char) : CharSet := ⟨[⟨c.toNat, c.toNat⟩]⟩

def range (first last : Char) : CharSet := ⟨[⟨first.toNat, last.toNat⟩]⟩

def hasCode (s : CharSet) (n : Nat) : Bool := s.ranges.any (·.contains n)

def mem (s : CharSet) (c : Char) : Bool := s.hasCode c.toNat

def union (s t : CharSet) : CharSet := ⟨joined (merged s.ranges t.ranges)⟩

def unions (sets : List CharSet) : CharSet := sets.foldl union empty

def inter (s t : CharSet) : CharSet := ⟨shared s.ranges t.ranges⟩

/-- The characters of the first set that the second lacks. -/
def diff (s t : CharSet) : CharSet := ⟨without s.ranges t.ranges⟩

/-- The characters of just one of the sets. -/
def symmDiff (s t : CharSet) : CharSet := (s.union t).diff (s.inter t)

/-- The characters that the set lacks. -/
def compl (s : CharSet) : CharSet :=
  match s.ranges.head?, s.ranges.getLast? with
  | some low, some high =>
    let below := if 0 < low.first then [⟨0, before low.first⟩] else []
    let above := if high.last < greatest then [⟨after high.last, greatest⟩] else []
    ⟨below ++ gaps s.ranges ++ above⟩
  | _, _ => full

/-- All characters of the set are ASCII. -/
def isAscii (s : CharSet) : Bool := s.ranges.getLast?.all (·.last < 0x80)

/-- The only character of a set. -/
def single? (s : CharSet) : Option Char :=
  match s.ranges with
  | [r] => if r.first = r.last then some (Char.ofNat r.first) else none
  | _ => none

/-! Tables -/

/-- The value of a hexadecimal digit written in upper case; other characters count as zero. -/
def digitValue (c : Char) : Nat :=
  if '0' ≤ c ∧ c ≤ '9' then c.toNat - '0'.toNat
  else if 'A' ≤ c ∧ c ≤ 'F' then c.toNat - 'A'.toNat + 10
  else 0

/-- The number written by hexadecimal digits. -/
def readHex (s : List Char) : Nat := s.foldl (fun n c => 16 * n + digitValue c) 0

/-- One entry of a table: `41`, `41-5A`, or `100-136/2` for every second code point. -/
def readEntry (s : List Char) : List CodeRange :=
  let (bounds, step) := (s.takeWhile (· != '/'), (s.dropWhile (· != '/')).drop 1)
  let (first, last) := (bounds.takeWhile (· != '-'), (bounds.dropWhile (· != '-')).drop 1)
  let (first, last) := (readHex first, readHex (if last.isEmpty then first else last))
  if step.isEmpty then [⟨first, last⟩]
  else
    let step := readHex step
    (List.range ((last - first) / step + 1)).map fun i => ⟨first + i * step, first + i * step⟩

/-- The words of a text, apart by blanks and line ends. -/
def words : List Char → List (List Char)
  | [] => [[]]
  | c :: rest =>
    let pieces := words rest
    if c = ' ' ∨ c = '\n' then [] :: pieces
    else
      match pieces with
      | [] => [[c]]
      | piece :: more => (c :: piece) :: more

/-- The set that a table lists: its entries apart by blanks and line ends. -/
def ofTable (s : String) : CharSet :=
  ofRanges (((words s.toList).filter (! ·.isEmpty)).flatMap readEntry)

end CharSet

end FlagDecision.Text
