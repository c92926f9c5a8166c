import FlagDecision.Json.Value

/-!
Attribute values: what a host knows about a user, and the text in which conditions see it.

The members of an object have no order of their own. They stand in the one in which the host's hash
table happens to go through them, which may be another one each time the object is built. Equality
does not see it, but the text of an object does, so a condition on an object is as arbitrary as that
order.
-/

namespace FlagDecision

/-- The value of an attribute. Integers have 64 bits with sign; larger numbers are in double
precision. The members of an object have different keys and stand in any order. -/
inductive Attribute where
  | string (s : String)
  | int (n : Int)
  | float (x : Binary64)
  | bool (b : Bool)
  | array (items : List Attribute)
  | object (members : List (String × Attribute))
  | null
  deriving Repr, Inhabited

namespace Attribute

/-- The integers an attribute holds exactly. -/
def holdsInt (n : Int) : Bool := -(Int.pow 2 63) ≤ n && n < Int.pow 2 63

mutual

/-- The attribute of a JSON value, by the kind of the value. -/
def ofJson : Json → Attribute
  | .null => null
  | .bool b => bool b
  | .number (.whole n) => if holdsInt n then int n else float (.ofInt n)
  | .number (.real x) => float x
  | .string s => string s
  | .array items => array (ofItems items)
  | .object members => object (ofMembers members)

def ofItems : List Json → List Attribute
  | [] => []
  | item :: rest => ofJson item :: ofItems rest

def ofMembers : List (String × Json) → List (String × Attribute)
  | [] => []
  | (key, value) :: rest => (key, ofJson value) :: ofMembers rest

end

/-! The first form that fits -/

def asString? : Json → Option Attribute
  | .string s => some (string s)
  | _ => none

/-- A whole number that fits an integer. -/
def asInt? : Json → Option Attribute
  | .number (.whole n) => if holdsInt n then some (int n) else none
  | _ => none

def asFloat? : Json → Option Attribute
  | .number (.whole n) => some (float (.ofInt n))
  | .number (.real x) => some (float x)
  | _ => none

def asBool? : Json → Option Attribute
  | .bool b => some (bool b)
  | _ => none

/-- The absent value. -/
def asNull? : Json → Option Attribute
  | .null => some null
  | _ => none

mutual

/-- The attribute of a JSON value: the first of text, integer, float, truth value, array, object
and null that it fits. -/
def firstFit? (j : Json) : Option Attribute :=
  (((((asString? j <|> asInt? j) <|> asFloat? j) <|> asBool? j) <|> asArray? j) <|> asObject? j) <|>
    asNull? j

/-- An array whose items all fit something. -/
def asArray? : Json → Option Attribute
  | .array items => (fitItems? items).map array
  | _ => none

/-- An object whose members all fit something. -/
def asObject? : Json → Option Attribute
  | .object members => (fitMembers? members).map object
  | _ => none

def fitItems? : List Json → Option (List Attribute)
  | [] => some []
  | item :: rest => do
    let item ← firstFit? item
    let rest ← fitItems? rest
    return item :: rest

def fitMembers? : List (String × Json) → Option (List (String × Attribute))
  | [] => some []
  | (key, value) :: rest => do
    let value ← firstFit? value
    let rest ← fitMembers? rest
    return (key, value) :: rest

end

mutual

def toJson : Attribute → Json
  | string s => .string s
  | int n => .number (.whole n)
  | float x => .number (.real x)
  | bool b => .bool b
  | array items => .array (itemsToJson items)
  | object members => .object (membersToJson members)
  | null => .null

def itemsToJson : List Attribute → List Json
  | [] => []
  | item :: rest => item.toJson :: itemsToJson rest

def membersToJson : List (String × Attribute) → List (String × Json)
  | [] => []
  | (key, value) :: rest => (key, value.toJson) :: membersToJson rest

end

mutual

/-- Two attributes are equal: of one kind, numbers by value, objects whatever the order of their
members. -/
def same : Attribute → Attribute → Bool
  | string s, string t => s == t
  | int m, int n => m == n
  | float x, float y => x.sameValue y
  | bool a, bool b => a == b
  | array xs, array ys => sameItems xs ys
  | object xs, object ys => xs.length == ys.length && areAmong xs ys
  | null, null => true
  | _, _ => false

def sameItems : List Attribute → List Attribute → Bool
  | [], [] => true
  | x :: xs, y :: ys => same x y && sameItems xs ys
  | _, _ => false

/-- Each of the first members has its equal among the others, under the same key. -/
def areAmong : List (String × Attribute) → List (String × Attribute) → Bool
  | [], _ => true
  | (key, x) :: xs, ys => (ys.any fun y => key == y.1 && same x y.2) && areAmong xs ys

end

def asText? : Attribute → Option String
  | string s => some s
  | _ => none

def asReal? : Attribute → Option Binary64
  | int n => some (.ofInt n)
  | float x => some x
  | _ => none

def asTruth? : Attribute → Option Bool
  | bool b => some b
  | _ => none

/-- The text that conditions are checked against: numbers in plain decimal, null empty, arrays and
objects as JSON, with the members in the order in which they stand. -/
def operandText : Attribute → String
  | string s => s
  | int n => toString n
  | float x => x.text
  | bool b => if b then "true" else "false"
  | null => ""
  | a => a.toJson.text

end Attribute

end FlagDecision
