import FlagDecision.Number.Decimal

/-!
JSON values. Whole numbers and numbers written with a point or an exponent stay apart, and the
members of an object are in order of their keys.
-/

namespace FlagDecision

/-- A number of a document: whole, between `-2^63` and `2^64`, or in double precision. -/
inductive Json.Number where
  | whole (n : Int)
  | real (x : Binary64)
  deriving DecidableEq, Repr

/-- A JSON value. -/
inductive Json where
  | null
  | bool (b : Bool)
  | number (n : Json.Number)
  | string (s : String)
  | array (items : List Json)
  | object (members : List (String × Json))
  deriving Repr, Inhabited

namespace Json

def ofNat (n : Nat) : Json := number (.whole n)

/-- Put a member at its place in the order of keys; an earlier one of the same key goes. -/
def insertMember (key : String) (value : α) : List (String × α) → List (String × α)
  | [] => [(key, value)]
  | (k, v) :: rest =>
    if key = k then (key, value) :: rest
    else if key < k then (key, value) :: (k, v) :: rest
    else (k, v) :: insertMember key value rest

/-- The object of some members; of several with one key the last counts. -/
def ofMembers (members : List (String × Json)) : Json :=
  object (members.foldl (fun sorted (k, v) => insertMember k v sorted) [])

def member? (key : String) : Json → Option Json
  | object members => members.lookup key
  | _ => none

/-- The text of a number: whole numbers without a point, others always with one or an exponent. -/
def Number.text : Number → String
  | whole n => toString n
  | real x => x.jsonText

/-- A character inside a quoted text. -/
def escapeChar (c : Char) : List Char :=
  if c = '"' then ['\\', '"']
  else if c = '\\' then ['\\', '\\']
  else if c = '\n' then ['\\', 'n']
  else if c = '\r' then ['\\', 'r']
  else if c = '\t' then ['\\', 't']
  else if c.toNat = 8 then ['\\', 'b']
  else if c.toNat = 12 then ['\\', 'f']
  else if c.toNat < 0x20 then
    ['\\', 'u', '0', '0', Nat.digitChar (c.toNat / 16), Nat.digitChar (c.toNat % 16)]
  else [c]

/-- A text between quotes; only quotes, backslashes and controls are escaped. -/
def quote (s : String) : String := String.ofList ('"' :: s.toList.flatMap escapeChar ++ ['"'])

mutual

/-- The compact text of a value. -/
def text : Json → String
  | null => "null"
  | bool true => "true"
  | bool false => "false"
  | number n => n.text
  | string s => quote s
  | array items => "[" ++ itemsText items ++ "]"
  | object members => "\x7b" ++ membersText members ++ "\x7d"

def itemsText : List Json → String
  | [] => ""
  | [item] => item.text
  | item :: rest => item.text ++ "," ++ itemsText rest

def membersText : List (String × Json) → String
  | [] => ""
  | [(key, value)] => quote key ++ ":" ++ value.text
  | (key, value) :: rest => quote key ++ ":" ++ value.text ++ "," ++ membersText rest

end

end Json

end FlagDecision
