import FlagDecision.Json.Value

/-!
JSON text as far as it can be read. A reading keeps the order of the text, every repeated key, and
the place where the text stops being JSON, so that whoever fits it to a type meets the first problem
of the text first.
-/

namespace FlagDecision.Json

/-- Why a text is no value of the wanted type: it is no JSON, it ends too early, or it is JSON of
another shape. -/
inductive Fault where
  | malformed
  | unfinished
  | unfit
  deriving DecidableEq, Repr

/-- What a text holds up to its first break. `flawed` is something that cannot be taken as a value:
who reads it meets the first fault, who wants a word there the second, and who only passes over it
the third, if any. The fault of an array or object stands after its items. -/
inductive Reading where
  | null
  | bool (b : Bool)
  | number (n : Number)
  | string (s : String)
  | array (items : List Reading) (stop : Option Fault)
  | object (members : List (Reading × Reading)) (stop : Option Fault)
  | flawed (onRead onWord : Fault) (onSkip : Option Fault)
  deriving Repr, Inhabited

namespace Reading

/-- A place that can be neither read nor passed over. -/
def broken (fault : Fault) : Reading := flawed fault fault (some fault)

/-- The beginning of something that is no quoted text. As a word it is wrong from its first
character on, whatever follows. -/
def brokenValue (onRead : Fault) (onSkip : Option Fault) : Reading :=
  flawed onRead .malformed onSkip

/-- The fault that stops everything after this reading. -/
def blocks? : Reading → Option Fault
  | flawed _ _ onSkip => onSkip
  | array _ stop => stop
  | object _ stop => stop
  | _ => none

def isSpace (c : Char) : Bool := c == ' ' || c == '\n' || c == '\t' || c == '\r'

/-- The text from the next token on. -/
def skipSpace (s : List Char) : List Char := s.dropWhile isSpace

/-! Numbers -/

/-- Significand and power of ten gathered from digits. The significand stays below `2 ^ 64`: digits
before the point that do not fit only raise the power, digits after it are left out. -/
structure Gathered where
  significand : Nat
  power : Int
  deriving DecidableEq, Repr

/-- The digits before the point. -/
def gatherWhole (digits : List Char) : Gathered :=
  go 0 digits
where
  /-- After the first digit that does not fit, all of them count as zeros. -/
  go (significand : Nat) : List Char → Gathered
    | [] => ⟨significand, 0⟩
    | c :: rest =>
      let next := 10 * significand + (c.toNat - '0'.toNat)
      if next < Nat.pow 2 64 then go next rest else ⟨significand, rest.length + 1⟩

/-- The digits after the point. -/
def gatherFraction (g : Gathered) : List Char → Gathered
  | [] => g
  | c :: rest =>
    let next := 10 * g.significand + (c.toNat - '0'.toNat)
    if next < Nat.pow 2 64 then gatherFraction ⟨next, g.power - 1⟩ rest else g

/-- Scale by a power of ten in steps of at most `10 ^ 308`, each step rounded; none where a result
is too large. Two steps down take every significand to zero. -/
def scale? : Nat → Binary64 → Int → Option Binary64
  | 0, x, _ => some x
  | fuel + 1, x, power =>
    if x.isZero then some x
    else if 308 < power then none
    else if 0 ≤ power then
      let y := x * Binary64.ofNat (Nat.pow 10 power.toNat)
      if y.isFinite then some y else none
    else if -308 ≤ power then some (x / Binary64.ofNat (Nat.pow 10 (-power).toNat))
    else scale? fuel (x / Binary64.ofNat (Nat.pow 10 308)) (power + 308)

/-- The number of a gathered significand and power. -/
def real (negative : Bool) (g : Gathered) : Reading :=
  match scale? 4 (Binary64.ofNat g.significand) g.power with
  | some x => number (.real (if negative then -x else x))
  | none => brokenValue .malformed none

/-- The exponent of a number, after its `e`. Exponents from `2 ^ 31` on decide the result alone. -/
def readExponent (negative : Bool) (g : Gathered) (s : List Char) : Reading × List Char :=
  let (down, s) := match s with
    | '+' :: r => (false, r)
    | '-' :: r => (true, r)
    | r => (false, r)
  match spanDigits s with
  | ([], []) => (brokenValue .unfinished (some .malformed), [])
  | ([], _) => (broken .malformed, [])
  | (digits, rest) =>
    let n := digitsValue digits
    if n < Nat.pow 2 31 then
      (real negative { g with power := if down then g.power - n else g.power + n }, rest)
    else if g.significand = 0 ∨ down then (real negative ⟨0, 0⟩, rest)
    else (brokenValue .malformed none, rest)

/-- A number without its sign. -/
def readNumber (negative : Bool) (s : List Char) : Reading × List Char :=
  match spanDigits s with
  | ([], []) => (brokenValue .unfinished (some .malformed), [])
  | ([], _) | ('0' :: _ :: _, _) => (broken .malformed, [])
  | (digits, rest) =>
    let g := gatherWhole digits
    match rest with
    | '.' :: rest =>
      match spanDigits rest with
      | ([], []) => (brokenValue .unfinished (some .malformed), [])
      | ([], _) => (broken .malformed, [])
      | (fraction, rest) =>
        let g := gatherFraction g fraction
        match rest with
        | 'e' :: rest | 'E' :: rest => readExponent negative g rest
        | rest => (real negative g, rest)
    | 'e' :: rest | 'E' :: rest => readExponent negative g rest
    | rest =>
      if g.power ≠ 0 ∨ (negative ∧ (g.significand = 0 ∨ Nat.pow 2 63 < g.significand)) then
        (real negative g, rest)
      else (number (.whole (if negative then -g.significand else g.significand)), rest)

/-! Texts -/

def hexValue? (c : Char) : Option Nat :=
  if c.isDigit then some (c.toNat - '0'.toNat)
  else if 'a' ≤ c ∧ c ≤ 'f' then some (c.toNat - 'a'.toNat + 10)
  else if 'A' ≤ c ∧ c ≤ 'F' then some (c.toNat - 'A'.toNat + 10)
  else none

/-- The unit that four hexadecimal digits write. With fewer than four bytes left the text has ended
too early. -/
def readUnit (s : List Char) : Except Fault Nat :=
  match s with
  | a :: b :: c :: d :: _ =>
    match [a, b, c, d].mapM hexValue? with
    | some digits => .ok (digits.foldl (fun n d => 16 * n + d) 0)
    | none => .error .malformed
  | s => .error (if (String.ofList s).utf8ByteSize < 4 then .unfinished else .malformed)

def opensPair (unit : Nat) : Bool := 0xD800 ≤ unit && unit < 0xDC00

def closesPair (unit : Nat) : Bool := 0xDC00 ≤ unit && unit < 0xE000

/-- The character after a backslash that is not `u`. -/
def escaped? : Char → Option Char
  | '"' => some '"'
  | '\\' => some '\\'
  | '/' => some '/'
  | 'b' => some (Char.ofNat 8)
  | 'f' => some (Char.ofNat 12)
  | 'n' => some '\n'
  | 'r' => some '\r'
  | 't' => some '\t'
  | _ => none

/-- The rest of a quoted text, after what is `done` (last character first). A surrogate without its
partner is a fault only for who wants the text; reading goes on to find the end. -/
def readText : Nat → List Char → Option Fault → List Char → Reading × List Char
  | 0, _, _, _ => (broken .unfinished, [])
  | fuel + 1, done, flaw, s =>
    let stop (fault : Fault) : Reading × List Char :=
      (flawed (flaw.getD fault) (flaw.getD fault) (some fault), [])
    match s with
    | [] => stop .unfinished
    | '"' :: rest =>
      match flaw with
      | none => (string (String.ofList done.reverse), rest)
      | some fault => (flawed fault fault none, rest)
    | '\\' :: [] => stop .unfinished
    | '\\' :: 'u' :: rest =>
      match readUnit rest with
      | .error fault => stop fault
      | .ok unit =>
        let rest := rest.drop 4
        if opensPair unit then
          match rest with
          | [] | ['\\'] => stop .unfinished
          | '\\' :: 'u' :: more =>
            match readUnit more with
            | .error fault => stop fault
            | .ok second =>
              if closesPair second then
                let code := 0x10000 + (unit - 0xD800) * 0x400 + (second - 0xDC00)
                readText fuel (Char.ofNat code :: done) flaw (more.drop 4)
              else readText fuel done (some (flaw.getD .malformed)) rest
          | rest => readText fuel done (some (flaw.getD .malformed)) rest
        else if closesPair unit then readText fuel done (some (flaw.getD .malformed)) rest
        else readText fuel (Char.ofNat unit :: done) flaw rest
    | '\\' :: c :: rest =>
      match escaped? c with
      | some c => readText fuel (c :: done) flaw rest
      | none => stop .malformed
    | c :: rest =>
      if c.toNat < 0x20 then stop .malformed else readText fuel (c :: done) flaw rest

/-! Values -/

/-- A word such as `null`, of which the first letter has been seen. -/
def readWord (word : String) (value : Reading) (s : List Char) : Reading × List Char :=
  go word.toList s
where
  /-- Letter by letter. -/
  go : List Char → List Char → Reading × List Char
    | [], s => (value, s)
    | _ :: _, [] => (brokenValue .unfinished (some .unfinished), [])
    | w :: word, c :: s => if w = c then go word s else (broken .malformed, [])

mutual

/-- One value and the text after it. -/
def readValue : Nat → List Char → Reading × List Char
  | 0, _ => (broken .unfinished, [])
  | fuel + 1, s =>
    match skipSpace s with
    | [] => (broken .unfinished, [])
    | 'n' :: rest => readWord "ull" .null rest
    | 't' :: rest => readWord "rue" (.bool true) rest
    | 'f' :: rest => readWord "alse" (.bool false) rest
    | '"' :: rest => readText (rest.length + 1) [] none rest
    | '-' :: rest => readNumber true rest
    | '[' :: rest =>
      match skipSpace rest with
      | ']' :: rest => (array [] none, rest)
      | [] => (array [] (some .unfinished), [])
      | rest =>
        let (items, stop, rest) := readItems fuel rest
        (array items stop, rest)
    | '\x7b' :: rest =>
      match skipSpace rest with
      | '\x7d' :: rest => (object [] none, rest)
      | rest =>
        let (members, stop, rest) := readMembers fuel rest
        (object members stop, rest)
    | c :: rest => if c.isDigit then readNumber false (c :: rest) else (broken .malformed, [])

/-- The items of an array from the next one on, with the fault that ends them, if any. -/
def readItems : Nat → List Char → List Reading × Option Fault × List Char
  | 0, _ => ([], some .unfinished, [])
  | fuel + 1, s =>
    let (item, rest) := readValue fuel s
    match item.blocks? with
    | some fault => ([item], some fault, [])
    | none =>
      match skipSpace rest with
      | ']' :: rest => ([item], none, rest)
      | [] => ([item], some .unfinished, [])
      | ',' :: rest =>
        match skipSpace rest with
        | ']' :: _ => ([item], some .malformed, [])
        | rest =>
          let (items, stop, rest) := readItems fuel rest
          (item :: items, stop, rest)
      | _ => ([item], some .malformed, [])

/-- The members of an object from the next one on, with the fault that ends them, if any. A key that
is no quoted text is no key, but a word of the wrong kind. -/
def readMembers : Nat → List Char → List (Reading × Reading) × Option Fault × List Char
  | 0, _ => ([], some .unfinished, [])
  | fuel + 1, s =>
    match skipSpace s with
    | '"' :: rest =>
      let (key, rest) := readText (rest.length + 1) [] none rest
      match key.blocks?, skipSpace rest with
      | some fault, _ => ([(key, broken fault)], some fault, [])
      | none, ':' :: rest =>
        let (value, rest) := readValue fuel rest
        match value.blocks? with
        | some fault => ([(key, value)], some fault, [])
        | none =>
          match skipSpace rest with
          | '\x7d' :: rest => ([(key, value)], none, rest)
          | [] => ([(key, value)], some .unfinished, [])
          | ',' :: rest =>
            match skipSpace rest with
            | '\x7d' :: _ => ([(key, value)], some .malformed, [])
            | rest =>
              let (members, stop, rest) := readMembers fuel rest
              ((key, value) :: members, stop, rest)
          | _ => ([(key, value)], some .malformed, [])
      | none, [] => ([(key, broken .unfinished)], some .unfinished, [])
      | none, _ => ([(key, broken .malformed)], some .malformed, [])
    | [] => ([(broken .unfinished, broken .unfinished)], some .unfinished, [])
    | rest =>
      let onWord := match (readValue fuel rest).1 with
        | flawed onRead _ _ => onRead
        | _ => .unfit
      ([(flawed .malformed onWord (some .malformed), broken .malformed)], some .malformed, [])

end

/-- The reading of a text, and the fault of whatever follows its value. -/
def ofText (s : String) : Reading × Option Fault :=
  let text := s.toList
  let (value, rest) := readValue (2 * text.length + 2) text
  (value, if (skipSpace rest).isEmpty then none else some .malformed)

/-- A value read again: nothing is flawed and every list is complete. -/
def ofJson : Json → Reading
  | .null => null
  | .bool b => bool b
  | .number n => number n
  | .string s => string s
  | .array items => array (ofItems items) none
  | .object members => object (ofMembers members) none
where
  /-- The items of an array. -/
  ofItems : List Json → List Reading
    | [] => []
    | item :: rest => ofJson item :: ofItems rest
  /-- The members of an object. -/
  ofMembers : List (String × Json) → List (Reading × Reading)
    | [] => []
    | (key, value) :: rest => (string key, ofJson value) :: ofMembers rest

end Reading

end FlagDecision.Json
