import FlagDecision.Pattern.Footprint
import FlagDecision.Text.Letter

/-!
The written form of patterns. Groups, alternatives, repetitions, bracketed classes with set
operations, escapes, anchors, and flags that hold to the end of their group. There is no way to
look around a place or to refer back to a group, and what cannot be read is refused as a whole.
-/

namespace FlagDecision

open Text

namespace Pattern

/-- The flags in force at some place of a pattern. -/
structure Flags where
  anyCase : Bool := false
  multiLine : Bool := false
  dotAll : Bool := false
  swapGreed : Bool := false
  unicode : Bool := true
  carriageReturn : Bool := false
  ignoreBlanks : Bool := false
  deriving DecidableEq, Repr

/-- Something read, with the depth of its nesting. -/
structure Nested (α : Type) where
  value : α
  depth : Nat

/-- Patterns nested deeper are refused. -/
def nestingLimit : Nat := 250

/-- In the mode that ignores blanks, the text after blanks and comments. -/
def skipIgnored (flags : Flags) (s : List Char) : List Char :=
  if flags.ignoreBlanks then skip false s else s
where
  /-- Inside a comment, everything up to the line feed is skipped. -/
  skip : Bool → List Char → List Char
    | _, [] => []
    | true, c :: rest => skip (c != '\n') rest
    | false, c :: rest =>
      if isBlank c then skip false rest
      else if c = '#' then skip true rest
      else c :: rest

/-- Characters with a meaning in patterns; a backslash makes them stand for themselves. -/
def isMeta (c : Char) : Bool :=
  ['\\', '.', '+', '*', '?', '(', ')', '|', '[', ']', '\x7b', '\x7d', '^', '$', '#', '&', '-',
    '~'].contains c

/-- ASCII characters that a backslash leaves as they are. -/
def isEscapable (c : Char) : Bool :=
  isMeta c || (c.toNat < 0x80 && !c.isAlphanum && c != '<' && c != '>')

/-- One element of a pattern. A literal tells whether it was written as two hexadecimal digits,
which mean a byte where the pattern is not in Unicode mode. -/
inductive Element where
  | literal (c : Char) (asByte : Bool)
  | class (s : CharSet)
  | anchor (a : Anchor)

def hexValue? (c : Char) : Option Nat :=
  if c.isDigit then some (c.toNat - '0'.toNat)
  else if 'a' ≤ c ∧ c ≤ 'f' then some (c.toNat - 'a'.toNat + 10)
  else if 'A' ≤ c ∧ c ≤ 'F' then some (c.toNat - 'A'.toNat + 10)
  else none

/-- The character of a code point, if it is one. -/
def charOfCode? (n : Nat) : Option Char :=
  if n.isValidChar then some (Char.ofNat n) else none

def hexDigits? (flags : Flags) : Nat → Nat → List Char → Option (Nat × List Char)
  | 0, value, s => some (value, s)
  | count + 1, value, s =>
    match s with
    | [] => none
    | c :: rest => do
      let d ← hexValue? c
      hexDigits? flags count (16 * value + d) (skipIgnored flags rest)

/-- The characters up to a closing brace, and the rest after it. Blanks are left out in the mode
that ignores them. -/
def untilBrace? (flags : Flags) (s : List Char) : Option (List Char × List Char) :=
  go (s.length + 1) (skipIgnored flags s)
where
  /-- One character at a time. -/
  go : Nat → List Char → Option (List Char × List Char)
    | 0, _ | _, [] => none
    | fuel + 1, c :: rest =>
      if c = '\x7d' then some ([], rest)
      else (go fuel (skipIgnored flags rest)).map fun (body, rest) => (c :: body, rest)

/-- A character by its code, after `x`, `u` or `U` with so many digits. -/
def hexEscape? (flags : Flags) (digits : Nat) (s : List Char) : Option (Element × List Char) :=
  match skipIgnored flags s with
  | [] => none
  | '\x7b' :: rest => do
    let (body, rest) ← untilBrace? flags rest
    if body.isEmpty then none
    else
      let values ← body.mapM hexValue?
      let c ← charOfCode? (values.foldl (fun n d => 16 * n + d) 0)
      some (.literal c false, skipIgnored flags rest)
  | s => do
    let (n, rest) ← hexDigits? flags digits 0 s
    let c ← charOfCode? n
    some (.literal c (digits == 2), rest)

/-- A property after `p` or `P`: one letter, or a name between braces. -/
def propertyEscape? (flags : Flags) (negated : Bool) (s : List Char) :
    Option (Element × List Char) := do
  let (others, found, rest) ← match skipIgnored flags s with
    | [] => none
    | '\x7b' :: rest => do
      let (body, rest) ← untilBrace? flags rest
      let (others, found) ← citedProperty? body
      some (others, found, rest)
    | c :: rest => do
      if c = '\\' then none
      else
        let found ← property? [c]
        some (false, found, skipIgnored flags rest)
  if flags.unicode then
    let found := if flags.anyCase then found.anyCase else found
    some (.class (if negated != others then found.compl else found), rest)
  else none

/-- The named edges of a word, as in `\b{start}`. Braces that hold no name are left to be read as a
repetition. -/
def wordAnchor? (flags : Flags) (s : List Char) : Option (Anchor × List Char) :=
  let isNameChar (c : Char) : Bool := c.isAlpha || c == '-'
  let u := flags.unicode
  match s with
  | '\x7b' :: rest =>
    match skipIgnored flags rest with
    | [] => none
    | c :: tail =>
      if isNameChar c then do
        let (name, after) ← untilBrace? flags (c :: tail)
        let edge ← match String.ofList name with
          | "start" => some (Anchor.wordStart u)
          | "end" => some (Anchor.wordEnd u)
          | "start-half" => some (Anchor.wordStartHalf u)
          | "end-half" => some (Anchor.wordEndHalf u)
          | _ => none
        some (edge, after)
      else some (.wordEdge u, s)
  | _ => some (.wordEdge u, s)

/-- A set that the mode in force allows: outside Unicode mode it may match ASCII only. -/
def allowed? (flags : Flags) (s : CharSet) : Option CharSet :=
  if flags.unicode || s.isAscii then some s else none

/-- The set of a one-letter class such as `\d`, if the mode in force allows it. -/
def letterClass? (flags : Flags) (c : Char) : Option CharSet :=
  let found :=
    match c.toLower with
    | 'd' => digitSet flags.unicode
    | 's' => blankSet flags.unicode
    | _ => wordSet flags.unicode
  allowed? flags (if c.isUpper then found.compl else found)

/-- What a backslash introduces; `s` is the text after the backslash. -/
def escape? (flags : Flags) (s : List Char) : Option (Element × List Char) :=
  match s with
  | [] => none
  | c :: rest =>
    if c.isDigit then none
    else if c = 'x' then hexEscape? flags 2 rest
    else if c = 'u' then hexEscape? flags 4 rest
    else if c = 'U' then hexEscape? flags 8 rest
    else if c = 'p' ∨ c = 'P' then propertyEscape? flags (c == 'P') rest
    else if ['d', 's', 'w', 'D', 'S', 'W'].contains c then
      (letterClass? flags c).map fun found => (.class found, rest)
    else if isEscapable c then some (.literal c false, rest)
    else
      match c with
      | 'a' => some (.literal (Char.ofNat 7) false, rest)
      | 'f' => some (.literal (Char.ofNat 12) false, rest)
      | 't' => some (.literal '\t' false, rest)
      | 'n' => some (.literal '\n' false, rest)
      | 'r' => some (.literal '\r' false, rest)
      | 'v' => some (.literal (Char.ofNat 11) false, rest)
      | 'A' => some (.anchor .textStart, rest)
      | 'z' => some (.anchor .textEnd, rest)
      | 'b' => (wordAnchor? flags rest).map fun (edge, rest) => (.anchor edge, rest)
      | 'B' => some (.anchor (.notWordEdge flags.unicode), rest)
      | '<' => some (.anchor (.wordStart flags.unicode), rest)
      | '>' => some (.anchor (.wordEnd flags.unicode), rest)
      | _ => none

/-- A set in every case, where case is ignored. -/
def folded (flags : Flags) (s : CharSet) : CharSet :=
  if flags.anyCase then (if flags.unicode then s.anyCase else s.anyAsciiCase) else s

/-- A set in every case, where case is ignored, or the rest of the characters. -/
def foldedOrNot? (flags : Flags) (negated : Bool) (s : CharSet) : Option CharSet :=
  let s := folded flags s
  allowed? flags (if negated then s.compl else s)

/-- The pattern of one character. Outside Unicode mode only ASCII letters have two cases, and a byte
beyond ASCII is no character. -/
def literal? (flags : Flags) (c : Char) (asByte : Bool) : Option Pattern :=
  if flags.unicode || c.toNat < 0x80 then some (.ofSet (folded flags (.char c)) flags.unicode)
  else if asByte then none
  else some (.literal [c])

/-! Bracketed classes -/

/-- The set operations between the parts of a class. -/
inductive SetOperation where
  | inter
  | diff
  | symmDiff

/-- A class whose bracket is open: whether it is negated, the operations that wait for their right
side, and the union being read, last part first. -/
structure OpenClass where
  negated : Bool
  pending : Option (SetOperation × Nested CharSet)
  parts : List (Nested CharSet)

/-- The union of the parts read. -/
def OpenClass.union (k : OpenClass) : Nested CharSet :=
  match k.parts with
  | [] => ⟨.empty, 0⟩
  | [part] => part
  | last :: parts => parts.foldl
      (fun all part => ⟨part.value.union all.value, max (part.depth + 1) all.depth⟩)
      ⟨last.value, last.depth + 1⟩

/-- The left side with the operation that waits for it applied. -/
def OpenClass.combined (flags : Flags) (k : OpenClass) : Nested CharSet :=
  let right := k.union
  match k.pending with
  | none => right
  | some (operation, left) =>
    let (l, r) := (folded flags left.value, folded flags right.value)
    let value := match operation with
      | .inter => l.inter r
      | .diff => l.diff r
      | .symmDiff => l.symmDiff r
    ⟨value, 1 + max left.depth right.depth⟩

/-- The set that a bracket closes, if the mode in force allows it. -/
def OpenClass.closed? (flags : Flags) (k : OpenClass) : Option (Nested CharSet) :=
  let all := k.combined flags
  (foldedOrNot? flags k.negated all.value).map (⟨·, all.depth + 1⟩)

/-- One more part. -/
def OpenClass.add (k : OpenClass) (part : Nested CharSet) : OpenClass :=
  { k with parts := part :: k.parts }

/-- An operation ends the union read so far. -/
def OpenClass.operate (flags : Flags) (k : OpenClass) (operation : SetOperation) : OpenClass :=
  { k with pending := some (operation, k.combined flags), parts := [] }

/-- The start of a class after its bracket: a negation, then hyphens that stand for themselves, then
possibly a closing bracket that stands for itself. -/
def openClass? (flags : Flags) (s : List Char) : Option (OpenClass × List Char) := do
  let nonEmpty (s : List Char) : Option (List Char) := if s.isEmpty then none else some s
  let s ← nonEmpty (skipIgnored flags s)
  let (negated, s) ← match s with
    | '^' :: rest => (nonEmpty (skipIgnored flags rest)).map (true, ·)
    | s => some (false, s)
  let rec hyphens : Nat → Nat → List Char → Nat × List Char
    | 0, n, s => (n, s)
    | fuel + 1, n, s =>
      match s with
      | '-' :: rest => hyphens fuel (n + 1) (skipIgnored flags rest)
      | s => (n, s)
  let (count, s) := hyphens s.length 0 s
  let s ← nonEmpty s
  let parts := List.replicate count (⟨.char '-', 0⟩ : Nested CharSet)
  match count, s with
  | 0, ']' :: rest => do
    let rest ← nonEmpty (skipIgnored flags rest)
    some (⟨negated, none, [⟨.char ']', 0⟩]⟩, rest)
  | _, s => some (⟨negated, none, parts⟩, s)

/-- A named ASCII class such as `[:alpha:]`, after its bracket: whether it is negated, the class
and the rest. -/
def namedClass? (s : List Char) : Option (Bool × CharSet × List Char) :=
  match s with
  | ':' :: rest =>
    let (negated, rest) := match rest with
      | '^' :: rest => (true, rest)
      | rest => (false, rest)
    let name := rest.takeWhile (· != ':')
    match rest.dropWhile (· != ':') with
    | ':' :: ']' :: rest => do
      let found ← asciiClass? (String.ofList name)
      some (negated, found, rest)
    | _ => none
  | _ => none

/-- One member of a class. -/
def classElement? (flags : Flags) : List Char → Option (Element × List Char)
  | [] => none
  | '\\' :: rest => escape? flags rest
  | c :: rest => some (.literal c false, rest)

/-- A character that a class may list in the mode in force. -/
def classChar? (flags : Flags) (c : Char) : Option Char :=
  if flags.unicode || c.toNat < 0x80 then some c else none

/-- A member of a class, or the span between two of them. -/
def classPart? (flags : Flags) (s : List Char) : Option (CharSet × List Char) := do
  let single : Element → Option CharSet
    | .literal c _ => (classChar? flags c).map .char
    | .class s => some s
    | .anchor _ => none
  let (first, rest) ← classElement? flags s
  let rest := skipIgnored flags rest
  match rest with
  | [] => none
  | '-' :: after =>
    match skipIgnored flags after with
    | ']' :: _ | '-' :: _ => (single first).map (·, rest)
    | [] => none
    | after =>
      let (last, rest) ← classElement? flags after
      match first, last with
      | .literal a _, .literal b _ =>
        if a ≤ b then do
          let a ← classChar? flags a
          let b ← classChar? flags b
          some (.range a b, rest)
        else none
      | _, _ => none
  | rest => (single first).map (·, rest)

/-- The rest of a bracketed class, with the classes it is nested in, innermost first. -/
def classBody? (flags : Flags) :
    Nat → OpenClass → List OpenClass → List Char → Option (Nested CharSet × List Char)
  | 0, _, _, _ => none
  | fuel + 1, k, outer, s =>
    match skipIgnored flags s with
    | [] => none
    | '[' :: rest =>
      match namedClass? rest with
      | some (negated, found, rest) => do
        let found ← foldedOrNot? flags negated found
        classBody? flags fuel (k.add ⟨found, 0⟩) outer rest
      | none => do
        let (inner, rest) ← openClass? flags rest
        classBody? flags fuel inner (k :: outer) rest
    | ']' :: rest =>
      match outer with
      | [] => (k.closed? flags).map (·, rest)
      | k' :: outer => do
        classBody? flags fuel (k'.add (← k.closed? flags)) outer rest
    | '&' :: '&' :: rest => classBody? flags fuel (k.operate flags .inter) outer rest
    | '-' :: '-' :: rest => classBody? flags fuel (k.operate flags .diff) outer rest
    | '~' :: '~' :: rest => classBody? flags fuel (k.operate flags .symmDiff) outer rest
    | s => do
      let (part, rest) ← classPart? flags s
      classBody? flags fuel (k.add ⟨part, 0⟩) outer rest

/-- A bracketed class, after its bracket. -/
def bracketed? (flags : Flags) (s : List Char) : Option (Nested CharSet × List Char) := do
  let (k, rest) ← openClass? flags s
  classBody? flags (s.length + 1) k [] rest

/-! Groups and repetitions -/

/-- The flags written between `(?` and `:` or `)`, changed from those in force; the result tells
whether any flag was named, which character ended them, and what follows. -/
def groupFlags? (s : List Char) (flags : Flags) : Option (Flags × Bool × Char × List Char) :=
  go s flags [] false false
where
  /-- One letter at a time; `seen` refuses a repeated letter, `off` follows the hyphen. -/
  go : List Char → Flags → List Char → Bool → Bool → Option (Flags × Bool × Char × List Char)
    | [], _, _, _, _ => none
    | c :: rest, flags, seen, off, hyphenLast =>
      if c = ':' ∨ c = ')' then
        if hyphenLast then none else some (flags, !seen.isEmpty, c, rest)
      else if seen.contains c then none
      else if c = '-' then go rest flags (c :: seen) true true
      else
        let changed := match c with
          | 'i' => some { flags with anyCase := !off }
          | 'm' => some { flags with multiLine := !off }
          | 's' => some { flags with dotAll := !off }
          | 'U' => some { flags with swapGreed := !off }
          | 'u' => some { flags with unicode := !off }
          | 'R' => some { flags with carriageReturn := !off }
          | 'x' => some { flags with ignoreBlanks := !off }
          | _ => none
        match changed with
        | some flags => go rest flags (c :: seen) off false
        | none => none

/-- The name of a group up to `>`: a letter or an underscore, then also digits, points and
brackets. -/
def groupName? (s : List Char) : Option (List Char × List Char) :=
  let name := s.takeWhile (· != '>')
  let letter (c : Char) : Bool := c == '_' || isLetter c
  let further (c : Char) : Bool := letter c || c == '.' || c == '[' || c == ']' || isNumber c
  match name, s.dropWhile (· != '>') with
  | c :: more, _ :: rest => if letter c && more.all further then some (name, rest) else none
  | _, _ => none

/-- A decimal count with blanks around it, below `2 ^ 32`. -/
def count? (flags : Flags) (s : List Char) : Option (Nat × List Char) :=
  let s := trimStart s
  let (digits, rest) := go (s.length + 1) s
  let rest := trimStart rest
  let n := digits.foldl (fun n c => 10 * n + (c.toNat - '0'.toNat)) 0
  if digits.isEmpty ∨ Nat.pow 2 32 ≤ n then none else some (n, skipIgnored flags rest)
where
  /-- The digits, with what the mode ignores between them. -/
  go : Nat → List Char → List Char × List Char
    | 0, s => ([], s)
    | fuel + 1, s =>
      match s with
      | c :: rest =>
        if c.isDigit then
          let (digits, rest) := go fuel (skipIgnored flags rest)
          (c :: digits, rest)
        else ([], s)
      | [] => ([], [])

/-- The counts of a repetition after its brace: the least, and the most (`none` without bound). -/
def counts? (flags : Flags) (s : List Char) : Option (Nat × Option Nat × List Char) := do
  let (least, rest) ← count? flags (skipIgnored flags s)
  match rest with
  | '\x7d' :: rest => some (least, some least, rest)
  | ',' :: rest =>
    match skipIgnored flags rest with
    | '\x7d' :: rest => some (least, none, rest)
    | rest => do
      let (most, rest) ← count? flags rest
      match rest with
      | '\x7d' :: rest => if least ≤ most then some (least, some most, rest) else none
      | _ => none
  | _ => none

/-- Whether a repetition takes as much as it can, and the text after it: a question mark turns the
preference round, and so does a flag. -/
def greed (flags : Flags) : List Char → Bool × List Char
  | '?' :: rest => (flags.swapGreed, rest)
  | rest => (!flags.swapGreed, rest)

/-- What stands in a sequence: a pattern, or flags set for what follows. -/
inductive Item where
  | piece (p : Nested Pattern)
  | setFlags

/-- A group that is open: the flags outside it, its number if it has one, the alternatives read, and
the current sequence, last item first. -/
structure OpenGroup where
  outside : Flags
  number : Option Nat
  branches : List (Nested Pattern)
  items : List Item

/-- The current sequence as one pattern. -/
def OpenGroup.sequence (g : OpenGroup) : Nested Pattern :=
  let pieces := g.items.filterMap fun
    | .piece p => some p
    | .setFlags => none
  let deepest := pieces.foldl (fun d p => max d p.depth) 0
  ⟨concat (pieces.reverse.map (·.value)), if g.items.length ≤ 1 then deepest else deepest + 1⟩

/-- All alternatives as one pattern. -/
def OpenGroup.whole (g : OpenGroup) : Nested Pattern :=
  let last := g.sequence
  match g.branches with
  | [] => last
  | branches =>
    let deepest := branches.foldl (fun d p => max d p.depth) last.depth
    ⟨alternatives ((last :: branches).reverse.map (·.value)), deepest + 1⟩

/-- The pattern of a group that closes. -/
def OpenGroup.closed (g : OpenGroup) : Nested Pattern :=
  let inside := g.whole
  let value := match g.number with
    | some n => capture n inside.value
    | none => inside.value
  ⟨value, inside.depth + 1⟩

/-- One more piece in the sequence. -/
def OpenGroup.add (g : OpenGroup) (p : Nested Pattern) : OpenGroup :=
  { g with items := .piece p :: g.items }

/-- The last piece repeated; there has to be one, and flags are none. -/
def OpenGroup.repeatLast? (g : OpenGroup) (least : Nat) (most : Option Nat) (greedy : Bool) :
    Option OpenGroup :=
  match g.items with
  | .piece p :: items =>
    some { g with items := .piece ⟨p.value.times least most greedy, p.depth + 1⟩ :: items }
  | _ => none

/-- The state of reading: the flags in force, the innermost group, the groups around it, the number
of groups with a number, and the group names used. -/
structure ReadState where
  flags : Flags
  group : OpenGroup
  outer : List OpenGroup
  captures : Nat
  names : List (List Char)

/-- Start a group without a number whose inside has the given flags. -/
def ReadState.enter (st : ReadState) (inside : Flags) : ReadState :=
  { st with flags := inside, group := ⟨st.flags, none, [], []⟩, outer := st.group :: st.outer }

/-- Start a group with the next number. -/
def ReadState.enterCapture (st : ReadState) : ReadState :=
  let number := st.captures + 1
  { st with
    group := ⟨st.flags, some number, [], []⟩, outer := st.group :: st.outer, captures := number }

/-- A parenthesis opens a group, a group with a name, a group with flags, or sets flags only. -/
def openParenthesis? (st : ReadState) (s : List Char) : Option (ReadState × List Char) :=
  match skipIgnored st.flags s with
  | '?' :: '=' :: _ | '?' :: '!' :: _ => none
  | '?' :: '<' :: '=' :: _ | '?' :: '<' :: '!' :: _ => none
  | '?' :: 'P' :: '<' :: rest | '?' :: '<' :: rest => do
    let (name, rest) ← groupName? rest
    if st.names.contains name then none
    else some ({ st with names := name :: st.names }.enterCapture, rest)
  | '?' :: rest => do
    let (flags, named, closer, rest) ← groupFlags? rest st.flags
    if closer = ':' then some (st.enter flags, rest)
    else if named then
      let group := { st.group with items := .setFlags :: st.group.items }
      some ({ st with flags, group }, rest)
    else none
  | rest => some (st.enterCapture, rest)

/-- The pattern of one element outside classes. -/
def elementPattern? (flags : Flags) : Element → Option Pattern
  | .literal c asByte => literal? flags c asByte
  | .class s => some (.ofSet s flags.unicode)
  | .anchor a => some (.anchor a)

/-- One step of reading; `c` is the next character and `s` what follows it. -/
def step? (st : ReadState) (c : Char) (s : List Char) : Option (ReadState × List Char) :=
  let flags := st.flags
  let add (p : Nested Pattern) : ReadState := { st with group := st.group.add p }
  let again (least : Nat) (most : Option Nat) (rest : List Char) :=
    let (greedy, rest) := greed flags rest
    (st.group.repeatLast? least most greedy).map fun group => ({ st with group }, rest)
  match c with
  | '(' => openParenthesis? st s
  | ')' =>
    match st.outer with
    | [] => none
    | around :: outer =>
      some ({ st with flags := st.group.outside, group := around.add st.group.closed, outer }, s)
  | '|' => some ({ st with group :=
      { st.group with branches := st.group.sequence :: st.group.branches, items := [] } }, s)
  | '[' => do
    let (found, rest) ← bracketed? flags s
    some (add ⟨.ofSet found.value flags.unicode, found.depth⟩, rest)
  | '?' => again 0 (some 1) s
  | '*' => again 0 none s
  | '+' => again 1 none s
  | '\x7b' => do
    let (least, most, rest) ← counts? flags s
    again least most (skipIgnored flags rest)
  | '\\' => do
    let (element, rest) ← escape? flags s
    let p ← elementPattern? flags element
    some (add ⟨p, 0⟩, rest)
  | '.' =>
    if flags.unicode then
      let never : CharSet := if flags.dotAll then .empty
        else if flags.carriageReturn then .ofTable "A D"
        else .char '\n'
      some (add ⟨.set never.compl true, 0⟩, s)
    else none
  | '^' =>
    let edge : Anchor := if !flags.multiLine then .textStart
      else if flags.carriageReturn then .lineStartAnyEnd
      else .lineStart
    some (add ⟨.anchor edge, 0⟩, s)
  | '$' =>
    let edge : Anchor := if !flags.multiLine then .textEnd
      else if flags.carriageReturn then .lineEndAnyEnd
      else .lineEnd
    some (add ⟨.anchor edge, 0⟩, s)
  | c => (literal? flags c false).map fun p => (add ⟨p, 0⟩, s)

/-- Read to the end; every step takes at least one character. -/
def readAll? : Nat → ReadState → List Char → Option ReadState
  | 0, _, _ => none
  | fuel + 1, st, s =>
    match skipIgnored st.flags s with
    | [] => some st
    | c :: rest => do
      let (st, rest) ← step? st c rest
      readAll? fuel st rest

/-- The pattern that a text writes. Open groups, deep nesting and patterns whose automaton would be
too large are refused. -/
def ofString? (s : String) : Option Pattern := do
  let text := s.toList
  let start : ReadState := ⟨{}, ⟨{}, none, [], []⟩, [], 0, []⟩
  let st ← readAll? (text.length + 1) start text
  let whole := st.group.whole
  if st.outer.isEmpty ∧ whole.depth ≤ nestingLimit ∧ whole.value.fits then
    some whole.value
  else none

end Pattern

end FlagDecision
