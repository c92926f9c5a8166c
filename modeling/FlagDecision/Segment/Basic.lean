import FlagDecision.Context
import FlagDecision.Operand

/-!
Segments: trees of conditions on users. Main definitions: the tree, its reading from JSON, and the
question whether it needs data that only a gateway can supply.
-/

namespace FlagDecision

open Text

/-- A tree of conditions. An invalid node keeps its JSON text and never holds. -/
inductive Segment where
  | conj (children : List Segment)
  | disj (children : List Segment)
  | neg (child : Segment)
  | customVariable (name : String) (operand : Operand)
  | user (operand : Operand)
  | userAgent (operand : Operand)
  | location (field : LocationField) (value : String)
  | agent (field : AgentField) (value : String)
  | device (property : DeviceAttribute) (operand : Operand)
  | feature (featureId : Nat) (enabled : Bool)
  | invalid (text : String)
  deriving Repr, Inhabited

namespace Segment

/-- The text of a JSON text, number or truth value. -/
def scalarText? : Json → Option String
  | .string s => some s
  | .number n => some n.text
  | .bool b => some (if b then "true" else "false")
  | _ => none

/-- The condition that a user id is in a list of ids, or in a named list. -/
def userOperand (text : String) : Operand :=
  if "inlist".toList.isPrefixOf text.toList then Operand.parse text else .equals text

/-- The condition on another feature: `on` or `off` for its id. -/
def featureCondition? : Json → Option Segment
  | .object [(id, .string state)] => do
    let featureId ← readWord64? (trim id.toList)
    match state with
    | "on" => some (feature featureId true)
    | "off" => some (feature featureId false)
    | _ => none
  | _ => none

/-- A condition without inner trees, by its key. -/
def leaf? (key : String) (inner : Json) : Option Segment :=
  match key with
  | "custom_variable" =>
    match inner with
    | .object [(name, value)] =>
      (scalarText? value).map fun text => customVariable name (Operand.parse text)
    | _ => none
  | "user" => (scalarText? inner).map fun text => user (userOperand text)
  | "ua" => (scalarText? inner).map fun text => userAgent (Operand.parse text)
  | "featureId" => featureCondition? inner
  | key => do
    let text ← scalarText? inner
    if let some field := LocationField.ofKey? key then location field text
    else if let some field := AgentField.ofKey? key then agent field text
    else (DeviceAttribute.ofKey? key).map fun property => device property (Operand.parse text)

mutual

/-- The node of a JSON value: an object with one key that says its kind. -/
def ofNode : Json → Segment
  | .object [(key, inner)] =>
    if key = "and" then
      match inner with
      | .array children => conj (ofNodes children)
      | _ => invalid (Json.object [(key, inner)]).text
    else if key = "or" then
      match inner with
      | .array children => disj (ofNodes children)
      | _ => invalid (Json.object [(key, inner)]).text
    else if key = "not" then neg (ofNode inner)
    else (leaf? key inner).getD (invalid (Json.object [(key, inner)]).text)
  | j => invalid j.text

def ofNodes : List Json → List Segment
  | [] => []
  | j :: rest => ofNode j :: ofNodes rest

end

/-- The segment of a JSON value; null and the empty object stand for no condition at all. -/
def ofJson? : Json → Option Segment
  | .null => none
  | .object [] => none
  | j => some (ofNode j)

def decoder : Json.Decoder (Option Segment) := fun depth r => do
  return ofJson? (← r.value depth)

mutual

/-- The tree asks for the location, the user agent or its parts. -/
def requiresGateway : Segment → Bool
  | conj children => someRequiresGateway children
  | disj children => someRequiresGateway children
  | neg child => child.requiresGateway
  | location .. => true
  | agent .. => true
  | userAgent _ => true
  | _ => false

/-- One of the trees does. -/
def someRequiresGateway : List Segment → Bool
  | [] => false
  | s :: rest => s.requiresGateway || someRequiresGateway rest

end

end Segment

end FlagDecision
