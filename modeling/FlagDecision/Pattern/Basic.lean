import FlagDecision.Pattern.Property
import FlagDecision.Text.Folding

/-!
Patterns over text in a normal form, and the search for a match. Sequences and alternatives
associate to the right; literals that follow one another are one literal, alternatives between
characters are a set of characters, and alternatives that begin alike share their beginning. A
pattern takes a set of places in the text to the set of places where it can end, so neither
preference among matches nor backtracking plays a part.
-/

namespace FlagDecision

open Text

/-- Conditions on a place in the text that match no character. The edges of words go by the letters
of every script or of ASCII only. -/
inductive Anchor where
  | textStart
  | textEnd
  | lineStart
  | lineEnd
  | lineStartAnyEnd
  | lineEndAnyEnd
  | wordEdge (unicode : Bool)
  | notWordEdge (unicode : Bool)
  | wordStart (unicode : Bool)
  | wordEnd (unicode : Bool)
  | wordStartHalf (unicode : Bool)
  | wordEndHalf (unicode : Bool)
  deriving DecidableEq, Repr

/-- The condition holds between the two neighbours of a place. -/
def Anchor.holds (before after : Option Char) : Anchor → Bool
  | textStart => before.isNone
  | textEnd => after.isNone
  | lineStart => before.isNone || before == some '\n'
  | lineEnd => after.isNone || after == some '\n'
  | lineStartAnyEnd =>
    before.isNone || before == some '\n' || (before == some '\r' && after != some '\n')
  | lineEndAnyEnd =>
    after.isNone || after == some '\r' || (after == some '\n' && before != some '\r')
  | wordEdge u => inWord u before != inWord u after
  | notWordEdge u => inWord u before == inWord u after
  | wordStart u => !inWord u before && inWord u after
  | wordEnd u => inWord u before && !inWord u after
  | wordStartHalf u => !inWord u before
  | wordEndHalf u => !inWord u after
where
  /-- The neighbour is a character of a word. -/
  inWord (unicode : Bool) (c : Option Char) : Bool := c.any (Pattern.wordSet unicode).mem

/-- A pattern. `repeated p least most greedy` is `p` at least `least` times and at most `most`
times, without bound where `most` is `none`; `greedy`, the number of a `capture`, and whether a set
was written for `unicode` tell patterns apart but do not change what matches. -/
inductive Pattern where
  | empty
  | literal (text : List Char)
  | set (s : CharSet) (unicode : Bool)
  | anchor (a : Anchor)
  | repeated (p : Pattern) (least : Nat) (most : Option Nat) (greedy : Bool)
  | capture (number : Nat) (p : Pattern)
  | seq (p q : Pattern)
  | alt (p q : Pattern)
  deriving DecidableEq, Repr

namespace Pattern

/-! The search for a match -/

/-- `f` applied `n` times. -/
def iterate (f : List Nat → List Nat) : Nat → List Nat → List Nat
  | 0, places => places
  | n + 1, places => iterate f n (f places)

/-- The places that up to `rounds` applications of `f` reach from `frontier`, added to those
`found`. No place of `tried` or of `found` takes part a second time. -/
def reach (f : List Nat → List Nat) : Nat → (frontier tried found : List Nat) → List Nat
  | 0, _, _, found => found
  | rounds + 1, frontier, tried, found =>
    let reached := f frontier
    let tried := frontier ++ tried
    let fresh := reached.filter fun i => !tried.contains i
    let found := (reached.filter fun i => !found.contains i) ++ found
    if fresh.isEmpty then found else reach f rounds fresh tried found

/-- The place after a literal that stands at a place of the text. -/
def literalEnd? (text : Array Char) : List Char → Nat → Option Nat
  | [], i => some i
  | c :: cs, i => if text[i]? == some c then literalEnd? text cs (i + 1) else none

/-- The places where the pattern can end when it starts at one of `places`. As a repetition goes no
way back, more rounds than the text has places reach nothing more. -/
def ends (text : Array Char) : Pattern → List Nat → List Nat
  | empty, places => places
  | literal cs, places => places.filterMap (literalEnd? text cs)
  | set s _, places => places.filterMap fun i =>
      match text[i]? with
      | some c => if s.mem c then some (i + 1) else none
      | none => none
  | anchor a, places => places.filter fun i =>
      a.holds (if i = 0 then none else text[i - 1]?) text[i]?
  | repeated p least most _, places =>
    let rounds := text.size + 1
    let step := ends text p
    match most with
    | none =>
      if least = 0 then reach step rounds places [] places
      else reach step rounds (iterate step (min (least - 1) rounds) places) [] []
    | some most =>
      let start := iterate step (min least rounds) places
      reach step (min (most - least) rounds) start [] start
  | capture _ p, places => ends text p places
  | seq p q, places => ends text q (ends text p places)
  | alt p q, places =>
    let first := ends text p places
    first ++ (ends text q places).filter fun i => !first.contains i

/-- Some part of the text matches. -/
def matchesIn (p : Pattern) (s : String) : Bool :=
  let text := s.toList.toArray
  !(ends text p (List.range (text.size + 1))).isEmpty

/-! The normal form -/

def never : Pattern := set .empty false

/-- The pattern of the characters of a set. -/
def ofSet (s : CharSet) (unicode : Bool) : Pattern :=
  if s.ranges.isEmpty then never
  else
    match s.single? with
    | some c => literal [c]
    | none => set s unicode

/-- The least number of characters in a match, if there are matches. -/
def leastLength? : Pattern → Option Nat
  | empty => some 0
  | literal cs => some cs.length
  | set s _ => if s.ranges.isEmpty then none else some 1
  | anchor _ => some 0
  | repeated p least _ _ => p.leastLength?.map (· * least)
  | capture _ p => p.leastLength?
  | seq p q => return (← p.leastLength?) + (← q.leastLength?)
  | alt p q => return min (← p.leastLength?) (← q.leastLength?)

/-- No match of the pattern takes a character. -/
def isEmptyOnly : Pattern → Bool
  | empty => true
  | literal cs => cs.isEmpty
  | set _ _ => false
  | anchor _ => true
  | repeated p _ most _ => p.isEmptyOnly || most == some 0
  | capture _ p => p.isEmptyOnly
  | seq p q => p.isEmptyOnly && q.isEmptyOnly
  | alt p q => p.isEmptyOnly && q.isEmptyOnly

/-- Repetitions. Where no match takes a character, once is as good as often. -/
def times (p : Pattern) (least : Nat) (most : Option Nat) (greedy : Bool) : Pattern :=
  let (least, most) :=
    if p.isEmptyOnly then (min least 1, some (min (most.getD 1) 1)) else (least, most)
  if least = 0 ∧ most = some 0 then empty
  else if least = 1 ∧ most = some 1 then p
  else repeated p least most greedy

def parts : Pattern → List Pattern
  | seq p q => p :: q.parts
  | p => [p]

/-- Parts without empty ones, and with adjacent literals made one. -/
def joined : List Pattern → List Pattern
  | [] => []
  | empty :: rest => joined rest
  | literal cs :: rest =>
    match joined rest with
    | literal ds :: more => literal (cs ++ ds) :: more
    | more => literal cs :: more
  | p :: rest => p :: joined rest

/-- Parts in order as one pattern. -/
def chain : List Pattern → Pattern
  | [] => empty
  | [p] => p
  | p :: rest => seq p (chain rest)

def concat (ps : List Pattern) : Pattern := chain (joined (ps.flatMap parts))

def branches : Pattern → List Pattern
  | alt p q => p :: q.branches
  | p => [p]

/-- Branches as one pattern. -/
def choice : List Pattern → Pattern
  | [] => never
  | [p] => p
  | p :: rest => alt p (choice rest)

/-- The characters of branches that are one character each. -/
def characters? (ps : List Pattern) : Option (List Char) :=
  ps.mapM fun
    | literal [c] => some c
    | _ => none

/-- The characters of branches that are sets. -/
def sets? (ps : List Pattern) : Option CharSet :=
  (ps.mapM fun
    | set s _ => some s
    | _ => none).map CharSet.unions

/-- Branches, as a set if they are characters or sets of characters. -/
def choiceOrSet (ps : List Pattern) : Pattern :=
  match ps with
  | [] => never
  | [p] => p
  | ps =>
    match characters? ps, sets? ps with
    | some cs, _ => ofSet (.ofCodes (cs.map Char.toNat)) true
    | none, some s => ofSet s true
    | none, none => choice ps

/-- The beginning that two sequences share. -/
def commonStart : List Pattern → List Pattern → List Pattern
  | p :: ps, q :: qs => if p = q then p :: commonStart ps qs else []
  | _, _ => []

/-- The beginning that all branches share; each has to be a sequence. -/
def sharedStart (ps : List Pattern) : List Pattern :=
  match ps.map parts with
  | first :: rest =>
    if (first :: rest).all fun qs => 2 ≤ qs.length then rest.foldl commonStart first else []
  | [] => []

/-- The alternatives between some patterns. -/
def alternatives (ps : List Pattern) : Pattern :=
  let ps := ps.flatMap branches
  match choiceOrSet ps with
  | alt p q =>
    match sharedStart ps with
    | [] => alt p q
    | start =>
      let tails := ps.map fun p => chain (p.parts.drop start.length)
      concat (start ++ [choiceOrSet (tails.flatMap branches)])
  | p => p

/-- A wildcard text as a pattern for the whole text, in any case: a star stands for any characters
but line feeds, every other character for itself. -/
def glob (wildcard : List Char) : Pattern :=
  concat (anchor .textStart :: wildcard.map piece ++ [anchor .textEnd])
where
  /-- One character of the wildcard. -/
  piece (c : Char) : Pattern :=
    if c = '*' then repeated (set (CharSet.char '\n').compl true) 0 none true
    else ofSet (CharSet.char c).anyCase true

end Pattern

end FlagDecision
