import FlagDecision.Pattern.Reader
import FlagDecision.Text.Case
import FlagDecision.Version

/-!
Operands: the conditions that segments put on attribute values, read from their written form.
A leading star of a wildcard means "ends with", a trailing one "starts with".
-/

namespace FlagDecision

open Text

/-- A condition on the text of an attribute. Membership in a list needs a service and matches no
text by itself; a malformed operand keeps its text and matches nothing. -/
inductive Operand where
  | equals (value : String)
  | lower (value : String)
  | contains (value : String)
  | endsWith (value : String)
  | startsWith (value : String)
  | regex (source : String) (pattern : Pattern)
  | greaterThan (value : String)
  | greaterOrEqual (value : String)
  | lessThan (value : String)
  | lessOrEqual (value : String)
  | inList (listId : String)
  | malformed (text : String)
  deriving DecidableEq, Repr

namespace Operand

/-- The text after `word(` and before the last closing parenthesis of the same line. -/
def argument? (word : String) (s : List Char) : Option (List Char) :=
  let opening := word.toList ++ ['(']
  if opening.isPrefixOf s then
    let line := (s.drop opening.length).takeWhile (· != '\n')
    match line.reverse.dropWhile (· != ')') with
    | [] => none
    | _ :: before => some before.reverse
  else none

/-- The list named by `inlist(…)`: some text without closing parenthesis, and nothing after it. -/
def listName? (s : List Char) : Option (List Char) :=
  let opening := "inlist(".toList
  if opening.isPrefixOf s then
    let rest := s.drop opening.length
    let name := rest.takeWhile (· != ')')
    if name.isEmpty ∨ rest.dropWhile (· != ')') ≠ [')'] then none else some name
  else none

/-- A wildcard by the stars at its ends. -/
def ofWildcard (value : List Char) : Operand :=
  let (leading, rest) := match value with
    | '*' :: rest => (true, rest)
    | value => (false, value)
  let (trailing, inner) := match rest.reverse with
    | '*' :: inner => (true, inner.reverse)
    | _ => (false, rest)
  let inner := String.ofList inner
  match leading, trailing with
  | true, true => contains inner
  | true, false => endsWith inner
  | false, true => startsWith inner
  | false, false => equals inner

/-- Read an operand; a text of no other form stands for itself. -/
def parse (text : String) : Operand :=
  let s := text.toList
  if "inlist".toList.isPrefixOf s then
    match listName? s with
    | some name => inList (String.ofList name)
    | none => malformed text
  else if let some v := argument? "lower" s then lower (String.ofList v)
  else if let some v := argument? "wildcard" s then ofWildcard v
  else if let some v := argument? "regex" s then
    let source := String.ofList v
    match Pattern.ofString? source with
    | some pattern => regex source pattern
    | none => malformed text
  else if let some v := argument? "gt" s then greaterThan (String.ofList v)
  else if let some v := argument? "gte" s then greaterOrEqual (String.ofList v)
  else if let some v := argument? "lt" s then lessThan (String.ofList v)
  else if let some v := argument? "lte" s then lessOrEqual (String.ofList v)
  else equals text

/-- The finite number that a text writes, with white space around. -/
def number? (s : List Char) : Option Binary64 :=
  (readDecimal? (trim s)).filter Binary64.isFinite

/-- Both texts in the form in which they are compared: numbers by their plain text, unless both are
versions; everything else as it is. -/
def normalize (expected actual : String) : String × String :=
  let (e, a) := (expected.toList, actual.toList)
  if Version.isVersion e && Version.isVersion a then (expected, actual)
  else
    match number? e, number? a with
    | some x, some y => (x.text, y.text)
    | _, _ => (expected, actual)

/-- The order of an actual value against an expected one: by components if both are versions, by
value if both are numbers, none otherwise. -/
def compareValues? (actual expected : String) : Option Ordering :=
  let (a, e) := (trim actual.toList, trim expected.toList)
  if Version.isVersion a && Version.isVersion e then
    some (Version.compareComponents (Version.components a) (Version.components e))
  else do
    let x ← number? a
    let y ← number? e
    x.compare? y

def matchesText (o : Operand) (actual : String) : Bool :=
  match o with
  | equals v =>
    let (e, a) := normalize v actual
    e == a
  | lower v =>
    let (e, a) := normalize v actual
    Text.lower e.toList == Text.lower a.toList
  | contains v =>
    let (e, a) := normalize v actual
    occursIn e.toList a.toList
  | endsWith v =>
    let (e, a) := normalize v actual
    e.toList.isSuffixOf a.toList
  | startsWith v =>
    let (e, a) := normalize v actual
    e.toList.isPrefixOf a.toList
  | regex _ pattern => pattern.matchesIn actual
  | greaterThan v => (compareValues? actual v).any (· == .gt)
  | greaterOrEqual v => (compareValues? actual v).any (· != .lt)
  | lessThan v => (compareValues? actual v).any (· == .lt)
  | lessOrEqual v => (compareValues? actual v).any (· != .gt)
  | inList _ => false
  | malformed _ => false

end Operand

end FlagDecision
