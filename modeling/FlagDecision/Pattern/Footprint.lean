import FlagDecision.Pattern.Basic

/-!
The room that the automaton of a pattern takes. A pattern is refused where its automaton over bytes
would grow beyond a limit, read forwards or backwards. The automaton itself is not kept: only the
number of its states and the bytes they take are counted, state by state in the order in which they
are made, since a set of characters shares some of its states by a small memory that forgets.
-/

namespace FlagDecision.Pattern

open Text

/-! Characters as bytes -/

/-- A range of bytes. -/
structure ByteRange where
  first : Nat
  last : Nat
  deriving DecidableEq, Repr

/-- The bytes of a code point. -/
def utf8Bytes (n : Nat) : List Nat :=
  if n < 0x80 then [n]
  else if n < 0x800 then [0xC0 + n / 64, 0x80 + n % 64]
  else if n < 0x10000 then [0xE0 + n / 4096, 0x80 + n / 64 % 64, 0x80 + n % 64]
  else [0xF0 + n / 262144, 0x80 + n / 4096 % 64, 0x80 + n / 64 % 64, 0x80 + n % 64]

/-- Where a range of code points has to be cut before its bytes are ranges of bytes one by one: at
the surrogates, where the number of bytes changes, and around whole blocks of trailing bytes. The
last code point before the cut and the first after it. -/
def cut? (first last : Nat) : Option (Nat × Nat) :=
  if first < 0xE000 ∧ 0xD7FF < last then some (0xD7FF, 0xE000)
  else
    match [0x7F, 0x7FF, 0xFFFF].find? fun m => first ≤ m && m < last with
    | some m => some (m, m + 1)
    | none => if last < 0x80 then none else [64, 4096, 262144].findSome? aroundBlock
where
  /-- A cut before or after whole blocks of a size. -/
  aroundBlock (size : Nat) : Option (Nat × Nat) :=
    if first / size = last / size then none
    else if first % size ≠ 0 then
      some (first / size * size + size - 1, first / size * size + size)
    else if last % size ≠ size - 1 then some (last / size * size - 1, last / size * size)
    else none

/-- The sequences of ranges of bytes that write a range of code points, in order. -/
def byteSequences : Nat → CodeRange → List (List ByteRange)
  | 0, _ => []
  | fuel + 1, r =>
    if r.last < r.first then []
    else
      match cut? r.first r.last with
      | some (last, first) =>
        byteSequences fuel ⟨r.first, last⟩ ++ byteSequences fuel ⟨first, r.last⟩
      | none => [(utf8Bytes r.first).zipWith ByteRange.mk (utf8Bytes r.last)]

/-- The sequences of ranges of bytes that write the characters of a set. -/
def setSequences (s : CharSet) : List (List ByteRange) := s.ranges.flatMap (byteSequences 32)

/-! Counting states -/

/-- An arc of the automaton: the bytes it takes and the state it leads to. -/
structure Arc where
  bytes : ByteRange
  next : Nat
  deriving DecidableEq, Repr

/-- An automaton in the making: the number of its states, the bytes they take, and which state was
made last for the arcs that fall on each slot of the memory. -/
structure Building where
  states : Nat
  bytes : Nat
  memory : Array (List Arc × Nat)

/-- The bytes that an automaton may take. -/
def footprintLimit : Nat := 10 * Nat.pow 2 20

namespace Building

/-- More bytes, unless they go beyond the limit. -/
def charge (b : Building) (bytes : Nat) : Option Building :=
  let total := b.bytes + bytes
  if footprintLimit < total then none else some { b with bytes := total }

/-- More states, which take 32 bytes each and `extra` bytes in all. -/
def add (b : Building) (states extra : Nat) : Option Building := do
  let b ← b.charge (32 * states + extra)
  return { b with states := b.states + states }

/-- One more way out of a state, which takes four bytes if the state is a fork. -/
def link (b : Building) (fork : Bool) : Option Building := if fork then b.charge 4 else some b

/-- One step of the hash that chooses the slots of the memory. -/
def mix (h : UInt64) (n : Nat) : UInt64 := (h ^^^ n.toUInt64) * 1099511628211

/-- The state for some arcs: the one remembered in their slot, or a new one. The slot is chosen by a
hash of `words`. -/
def stateFor (b : Building) (arcs : List Arc) (words : List Nat) (extra : Nat) :
    Option (Nat × Building) :=
  let slot := ((words.foldl mix 14695981039346656037) % b.memory.size.toUInt64).toNat
  match known? b.memory[slot]? with
  | some state => some (state, b)
  | none => do
    let state := b.states
    let ⟨states, bytes, memory⟩ ← b.add 1 extra
    return (state, ⟨states, bytes, memory.setIfInBounds slot (arcs, state)⟩)
where
  /-- The state of a slot that holds just these arcs. -/
  known? : Option (List Arc × Nat) → Option Nat
    | some (known, state) => if known = arcs then some state else none
    | none => none

end Building

/-- How an automaton grows by a part. The result tells whether the part ends in a fork, where each
way on takes room. -/
structure Growth where
  grow : Building → Option (Bool × Building)

namespace Growth

def states (n : Nat) (extra : Nat) : Growth := ⟨fun b => return (false, ← b.add n extra)⟩

def andThen (g h : Growth) : Growth := ⟨fun b => do
  let (fork, b) ← g.grow b
  let (end', b) ← h.grow b
  return (end', ← b.link fork)⟩

/-- A part, then states to which it leads, which take `extra` bytes themselves. -/
def closing (g : Growth) (n extra : Nat) : Growth := ⟨fun b => do
  let (fork, b) ← g.grow b
  let b ← b.link fork
  return (false, ← b.add n extra)⟩

/-- A part so many times, after a part that ends in a fork or not. -/
def again (g : Growth) : Nat → Bool → Building → Option (Bool × Building)
  | 0, fork, b => some (fork, b)
  | n + 1, fork, b => do
    let (fork', b) ← g.grow b
    g.again n fork' (← b.link fork)

/-- A part exactly so many times; not at all takes a state of its own. -/
def copies (g : Growth) (n : Nat) : Growth :=
  if n = 0 then states 1 0 else ⟨g.again n false⟩

/-- So many times a fork and a part that may be left out, after a part that may end in a fork. -/
def options (g : Growth) : Nat → Bool → Building → Option (Bool × Building)
  | 0, fork, b => some (fork, b)
  | n + 1, fork, b => do
    let b ← b.add 1 8
    let (fork', b) ← g.grow b
    g.options n fork' (← b.link fork)

/-- A part at least once, which ends in the fork that leads back. -/
def repeatedOnce (g : Growth) : Growth := ⟨fun b => do
  let (_, b) ← (g.closing 1 4).grow b
  return (true, b)⟩

/-- A part any number of times. A part that may be empty needs a second fork to leave it out. -/
def repeatedAny (g : Growth) (takesSome : Bool) : Growth :=
  if takesSome then ⟨fun b => do
    let b ← b.add 1 4
    let (fork, b) ← g.grow b
    return (true, ← b.link fork)⟩
  else g.closing 3 16

/-- A part as often as a repetition asks. -/
def times (g : Growth) (takesSome : Bool) (least : Nat) (most : Option Nat) : Growth :=
  match least, most with
  | 0, none => g.repeatedAny takesSome
  | 1, none => g.repeatedOnce
  | least, none => (g.copies (least - 1)).andThen g.repeatedOnce
  | 0, some 1 => ⟨fun b => do
      let b ← b.add 1 8
      let (fork, b) ← g.grow b
      let b ← b.add 1 0
      return (false, ← b.link fork)⟩
  | least, some most =>
    if least = most then g.copies least
    else ⟨fun b => do
      let (fork, b) ← (g.copies least).grow b
      let b ← b.add 1 0
      let (fork, b) ← g.options (most - least) fork b
      return (false, ← b.link fork)⟩

/-- Parts one of which is taken: the fork is made after the second of them. -/
def choice : List Growth → Growth
  | [] => states 1 0
  | [g] => g
  | first :: second :: rest => ⟨fun b => do
      let (fork, b) ← first.grow b
      let (fork', b) ← second.grow b
      let b ← b.add 2 8
      let b ← (← b.link fork).link fork'
      let b ← rest.foldlM (fun b g => do
        let (fork, b) ← g.grow b
        (← b.charge 4).link fork) b
      return (false, b)⟩

/-- The sequences of bytes that share their first range, taken together in order. -/
def grouped (sequences : List (List ByteRange)) : List (ByteRange × List (List ByteRange)) :=
  sequences.foldr (fun sequence groups =>
    match sequence, groups with
    | [], groups => groups
    | r :: tail, (r', tails) :: more =>
      if r = r' then (r', tail :: tails) :: more else (r, [tail]) :: (r', tails) :: more
    | r :: tail, [] => [(r, [tail])]) []

/-- The state from which ascending sequences of bytes lead to `target`, made after the states behind
it. -/
def forwardState (target : Nat) :
    Nat → List (List ByteRange) → Building → Option (Nat × Building)
  | 0, _, _ => none
  | depth + 1, sequences, b => do
    let (arcs, b) ← (grouped sequences).foldlM (fun (arcs, b) (r, tails) => do
      if tails.all (·.isEmpty) then return (⟨r, target⟩ :: arcs, b)
      else
        let (next, b) ← forwardState target depth tails b
        return (⟨r, next⟩ :: arcs, b)) (([] : List Arc), b)
    let arcs := arcs.reverse
    b.stateFor arcs (arcs.flatMap fun a => [a.bytes.first, a.bytes.last, a.next]) (8 * arcs.length)

/-- The characters of a set read forwards: states are shared by their arcs. -/
def setForward (sequences : List (List ByteRange)) : Growth := ⟨fun b => do
  let target := b.states
  let b ← b.add 1 0
  let (_, b) ← forwardState target 4 sequences b
  return (false, b)⟩

/-- The characters of a set read backwards: a fork to the last byte of each sequence, of which those
share states that begin alike. -/
def setBackward (sequences : List (List ByteRange)) : Growth := ⟨fun b => do
  let target := b.states + 1
  let b ← b.add 2 0
  let b ← sequences.foldlM (fun b sequence => do
    let (_, b) ← sequence.foldlM (fun (next, b) r =>
      b.stateFor [⟨r, next⟩] [next, r.first, r.last] 0) (target, b)
    b.charge 4) b
  return (false, b)⟩

def set (backward : Bool) (s : CharSet) : Growth :=
  if s.isAscii then states 2 (8 * s.ranges.length)
  else
    let sequences := setSequences s
    if backward then setBackward sequences else setForward sequences

/-- The lists up to each empty one, and the lists after the last empty one. Of empty lists at the
start only the first counts. -/
def untilEmpty (lists : List (List Nat)) : List (List (List Nat)) :=
  let (ends, rest) := (lists.takeWhile (·.isEmpty), lists.dropWhile (·.isEmpty))
  let more := rest.foldr (fun list runs =>
    match list, runs with
    | [], runs => [] :: runs
    | list, run :: runs => (list :: run) :: runs
    | list, [] => [[list]]) [[]]
  if ends.isEmpty then more else [] :: more

/-- The number of states, and of bytes beyond 32 for each of them, that hold some sequences of bytes
by their common beginnings. A sequence that ends where others go on divides those before it from
those after it. -/
def trie : Nat → List (List Nat) → Nat × Nat
  | 0, _ => (0, 0)
  | fuel + 1, lists =>
    let runs := untilEmpty lists
    let costs := runs.flatMap fun run =>
      let heads := (run.filterMap List.head?).eraseDups
      let children := heads.filterMap fun h =>
        let tails := (run.filter fun list => list.head? == some h).map (·.drop 1)
        if tails.all (·.isEmpty) then none else some (trie fuel tails)
      if heads.isEmpty then []
      else (1, 4 + if heads.length = 1 then 0 else 8 * heads.length) :: children
    (1 + (costs.map (·.1)).sum, 4 * (runs.length - 1) + (costs.map (·.2)).sum)

/-- Literals one of which is taken. -/
def literals (backward : Bool) (texts : List (List Char)) : Growth :=
  let lists := texts.map fun cs =>
    let bytes := cs.flatMap fun c => utf8Bytes c.toNat
    if backward then bytes.reverse else bytes
  let (n, extra) := trie ((lists.map List.length).foldl max 0 + 1) lists
  states (n + 1) extra

end Growth

/-- The texts of branches that are literals. -/
def texts? (ps : List Pattern) : Option (List (List Char)) :=
  ps.mapM fun
    | literal cs => some cs
    | _ => none

/-- How an automaton grows by a pattern, and by each branch of it. -/
def growths (backward : Bool) : Pattern → Growth × List Growth
  | empty => one (.states 1 0)
  | literal cs => one (.states ((cs.map Char.utf8Size).sum) 0)
  | set s _ => one (.set backward s)
  | anchor _ => one (.states 1 0)
  | repeated p least most _ =>
    one ((growths backward p).1.times (p.leastLength?.any (0 < ·)) least most)
  | capture _ p =>
    let inside := (growths backward p).1
    one (if backward then inside else ((Growth.states 1 0).andThen inside).closing 1 0)
  | seq p q =>
    let (g, h) := ((growths backward p).1, (growths backward q).1)
    one (if backward then h.andThen g else g.andThen h)
  | alt p q =>
    let branches := (growths backward p).1 :: (growths backward q).2
    let whole := match texts? (alt p q).branches with
      | some texts => Growth.literals backward texts
      | none => .choice branches
    (whole, branches)
where
  /-- A pattern with a single branch. -/
  one (g : Growth) : Growth × List Growth := (g, [g])

/-- Every match starts at the start of the text. -/
def startsText : Pattern → Bool
  | anchor a => a == .textStart
  | repeated p least _ _ => least != 0 && p.startsText
  | capture _ p => p.startsText
  | seq p q => p.startsText || (p.isEmptyOnly && q.startsText)
  | alt p q => p.startsText && q.startsText
  | _ => false

/-- Every match ends at the end of the text. -/
def endsText : Pattern → Bool
  | anchor a => a == .textEnd
  | repeated p least _ _ => least != 0 && p.endsText
  | capture _ p => p.endsText
  | seq p q => q.endsText || (q.isEmptyOnly && p.endsText)
  | alt p q => p.endsText && q.endsText
  | _ => false

/-- What comes before a pattern: nothing for a fixed one, else any bytes. -/
def lead (fixed : Bool) : Growth :=
  if fixed then .states 1 0 else ⟨fun b => return (true, ← b.add 3 12)⟩

/-- The automaton that reads forwards is within the limit. -/
def fitsForward (p : Pattern) : Bool :=
  let body := ((Growth.states 1 0).andThen (growths false p).1).closing 2 0
  (((lead p.startsText).andThen body).grow ⟨0, 0, Array.replicate 10000 ([], 0)⟩).isSome

/-- The automaton that reads backwards is within the limit. -/
def fitsBackward (p : Pattern) : Bool :=
  let body := (growths true p).1.closing 1 0
  (((lead p.endsText).andThen body).grow ⟨0, 0, Array.replicate 1000 ([], 0)⟩).isSome

/-- Bytes that suffice for either automaton. -/
def footprintBound : Pattern → Nat
  | empty => 100
  | literal cs => 400 * cs.length
  | set s _ => 100 + 4600 * s.ranges.length
  | anchor _ => 100
  | repeated p least most _ => (p.footprintBound + 100) * (most.getD (least + 1)) + 200
  | capture _ p => p.footprintBound + 100
  | seq p q => p.footprintBound + q.footprintBound + 100
  | alt p q => p.footprintBound + q.footprintBound + 100

/-- A choice between thousands of literals, which are looked up without an automaton. -/
def isWordList (p : Pattern) : Bool := (texts? p.branches).any (3000 ≤ ·.length)

/-- The automata of the pattern, if it needs any, are within the limit. Most patterns are so small
that a bound tells. -/
def fits (p : Pattern) : Bool :=
  p.footprintBound + 1000 ≤ footprintLimit || p.isWordList || (p.fitsForward && p.fitsBackward)

end FlagDecision.Pattern
