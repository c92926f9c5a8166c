import FlagDecision.ListCache
import FlagDecision.Segment.Basic

/-!
Whether a segment holds for a user. List services are asked through the cache, in the order in which
the tree is visited; all else is read only.

A segment is checked at one instant, that of the whole evaluation. An answer that is kept is the one
that the service gives, at whatever time it is kept or looked up. So the instant can only decide
whether the service is called again, and never what a segment comes to.
-/

namespace FlagDecision

open Text

/-- Why a list service gave no answer. -/
inductive ListError where
  | transport (detail : String)
  | timeout (seconds : Nat)
  | invalidResponse (detail : String)
  deriving DecidableEq, Repr

/-- What is said about it. -/
def ListError.message : ListError → String
  | transport detail => "list membership request failed: " ++ detail
  | timeout seconds =>
    "list membership request timed out after " ++
      (if seconds = 0 then "0ns" else toString seconds ++ "s")
  | invalidResponse detail => "unexpected list membership response: " ++ detail

/-- Answers whether a value is in a list, for a user. As a function it answers the same question
alike, failures included, however often and whenever it is asked. -/
abbrev ListService : Type := (listId value userId : String) → Except ListError Bool

/-- A question that reached a list service. -/
structure ListCall where
  listId : String
  value : String
  userId : String
  deriving DecidableEq, Repr

/-- The cache of list answers, and the calls made so far. -/
structure ListDesk where
  cache : ListCache
  calls : List ListCall := []
  deriving DecidableEq, Repr

/-- The attribute under which the id of the user for bucketing is seen. -/
def userIdAttribute : String := "_vwoUserId"

namespace Segment

/-- All that a segment is checked against, its attributes apart. `isStuck?` tells whether the user
has a stored decision for the feature of an id, if there is such a feature, and `now` is the instant
of the evaluation, in milliseconds. -/
structure Setting where
  featureKey : String
  user : UserContext
  provider : AttributeProvider
  lists : Option ListService
  isStuck? : Nat → Option Bool
  now : Nat

/-- The value belongs to the list, by the cache or else by the service. Only answers are kept; a
service that fails or is not there counts as "no". -/
def inList (env : Setting) (listId value : String) (isCustom : Bool) : StateM ListDesk Bool := do
  let question : ListQuestion := ⟨env.featureKey, listId, value, env.user.id, isCustom⟩
  let desk ← get
  let (known, cache) := desk.cache.get question env.now
  match known, env.lists with
  | some member, _ =>
    set { desk with cache }
    return member
  | none, none =>
    set { desk with cache }
    return false
  | none, some service =>
    let calls := desk.calls ++ [⟨listId, value, env.user.id⟩]
    match service listId value env.user.id with
    | .ok member =>
      set { desk with cache := cache.insert question member env.now, calls }
      return member
    | .error _ =>
      set { desk with cache, calls }
      return false

/-- Without white space around, and without a pair of quotes around that. -/
def unquote (s : List Char) : List Char :=
  let s := trim s
  match s with
  | '"' :: rest =>
    match rest.reverse with
    | '"' :: inner => inner.reverse
    | _ => s
  | _ => s

/-- All parts of the location are as wanted; without a location none is. -/
def locationMatches (env : Setting) (query : List (LocationField × String)) : Bool :=
  match env.provider.location env.user with
  | none => false
  | some place => query.all fun (field, expected) =>
      (place.get? field).any fun actual => unquote actual.toList == unquote expected.toList

/-- The glob between `wildcard(` and a closing parenthesis. -/
def wildcardGlob? (expected : List Char) : Option (List Char) :=
  let opening := "wildcard(".toList
  if opening.isPrefixOf expected then
    match (expected.drop opening.length).reverse with
    | ')' :: inner => some inner.reverse
    | _ => none
  else none

/-- A part of the user agent is as wanted, without regard to case; wildcards are globs, of which one
too large matches nothing. -/
def agentValueMatches (expected actual : String) : Bool :=
  match wildcardGlob? expected.toList with
  | some glob =>
    let pattern := Pattern.glob glob
    pattern.fits && pattern.matchesIn actual
  | none => Text.lower expected.toList == Text.lower actual.toList

/-- One part of the user agent is as wanted; without a user agent none is. -/
def agentMatches (env : Setting) (query : List (AgentField × String)) : Bool :=
  match env.provider.agentInfo env.user with
  | none => false
  | some info => query.any fun (field, expected) =>
      (info.get? field).any fun actual => agentValueMatches expected actual

/-- The conditions on parts of the user agent, if all trees are such conditions. -/
def agentQuery? : List Segment → Option (List (AgentField × String))
  | [] => some []
  | agent field value :: rest => (agentQuery? rest).map ((field, value) :: ·)
  | _ :: _ => none

/-- A custom variable meets its condition; a missing one does not. -/
def customMatches (env : Setting) (attributes : Attributes) (name : String) (operand : Operand) :
    StateM ListDesk Bool :=
  match attributes.lookup name with
  | none => return false
  | some value =>
    match operand with
    | .inList listId => inList env listId value.operandText true
    | operand => return operand.matchesText value.operandText

/-- The user is in a named list, or among ids apart by commas. -/
def userMatches (env : Setting) (attributes : Attributes) (operand : Operand) :
    StateM ListDesk Bool :=
  let id := ((attributes.lookup userIdAttribute).bind Attribute.asText?).getD env.user.id
  match operand with
  | .inList listId => inList env listId id false
  | .equals ids => return (splitAll ',' ids.toList).any fun piece => trim piece == id.toList
  | _ => return false

mutual

def holds (env : Setting) (attributes : Attributes) : Segment → StateM ListDesk Bool
  | conj children => allHold env attributes [] children
  | disj children =>
    match agentQuery? children with
    | some (part :: query) => return agentMatches env (part :: query)
    | _ => anyHolds env attributes children
  | neg child => do return !(← holds env attributes child)
  | customVariable name operand => customMatches env attributes name operand
  | user operand => userMatches env attributes operand
  | userAgent operand => return (env.provider.userAgent env.user).any operand.matchesText
  | location field value => return locationMatches env [(field, value)]
  | agent field value => return agentMatches env [(field, value)]
  | device property operand =>
    return (env.provider.device env.user property).any operand.matchesText
  | feature id enabled => return (env.isStuck? id).any (· == enabled)
  | invalid _ => return false

/-- All trees hold. Conditions on the location are gathered and asked once, after the others. -/
def allHold (env : Setting) (attributes : Attributes) (query : List (LocationField × String)) :
    List Segment → StateM ListDesk Bool
  | [] => return query.isEmpty || locationMatches env query
  | location field value :: rest => allHold env attributes (query ++ [(field, value)]) rest
  | s :: rest => do
    if ← holds env attributes s then allHold env attributes query rest
    else return false

/-- Some tree holds. A condition on another feature decides alone, whatever follows it. -/
def anyHolds (env : Setting) (attributes : Attributes) : List Segment → StateM ListDesk Bool
  | [] => return false
  | feature id enabled :: _ => return (env.isStuck? id).any (· == enabled)
  | s :: rest => do
    if ← holds env attributes s then return true
    else anyHolds env attributes rest

end

/-- A segment that may be missing holds. -/
def holdsOrAbsent (env : Setting) (attributes : Attributes) :
    Option Segment → StateM ListDesk Bool
  | none => return true
  | some s => holds env attributes s

end Segment

end FlagDecision
