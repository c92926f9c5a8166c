import FlagDecision.GroupMember
import FlagDecision.Json.Decode

/-!
Decisions as they are stored, so that a user keeps what was shown once. A record that cannot be read
counts as absent.
-/

namespace FlagDecision

open Json (Decoder)

/-- What is stored for a feature and a user: the rollout passed, the experiment shown, or both. -/
structure StoredDecision where
  featureKey : String := ""
  userId : String := ""
  rolloutId : Option Nat := none
  rolloutKey : Option String := none
  rolloutVariationId : Option Nat := none
  experimentId : Option Nat := none
  experimentKey : Option String := none
  experimentVariationId : Option Nat := none
  deriving DecidableEq, Repr

namespace StoredDecision

/-- The key under which decisions for a feature and a user are stored. -/
def storageKey (featureKey userId : String) : String := featureKey ++ "_" ++ userId

/-- The key that stands for a group in place of a feature. -/
def groupFeatureKey (groupId : Nat) : String := "_vwo_meta_meg_" ++ toString groupId

/-- A rollout is stored, by id and key. -/
def hasRollout (d : StoredDecision) : Bool := d.rolloutId.isSome && d.rolloutKey.isSome

/-- The winner that the decision stored for a group names. -/
def winner? (d : StoredDecision) : Option GroupMember :=
  d.experimentId.map fun id => ⟨id, d.experimentVariationId⟩

/-- The members of a stored decision; absent parts may be missing or null. -/
def fields : List (Json.Field StoredDecision) := [
  .needed "featureKey" .text fun v d => { d with featureKey := v },
  .needed "userId" .text fun v d => { d with userId := v },
  .optional "rolloutId" (.nullable .word64) fun v d => { d with rolloutId := v },
  .optional "rolloutKey" (.nullable .text) fun v d => { d with rolloutKey := v },
  .optional "rolloutVariationId" (.nullable .word64) fun v d => { d with rolloutVariationId := v },
  .optional "experimentId" (.nullable .word64) fun v d => { d with experimentId := v },
  .optional "experimentKey" (.nullable .text) fun v d => { d with experimentKey := v },
  .optional "experimentVariationId" (.nullable .word64)
    fun v d => { d with experimentVariationId := v }]

/-- A stored decision as a record. -/
def decoder : Decoder StoredDecision := Decoder.record fields {}

/-- The parts of a decision that are there, as members of a record. -/
def parts (d : StoredDecision) : List (String × Json) :=
  let number (key : String) (v : Option Nat) : List (String × Json) :=
    (v.map fun n => (key, Json.ofNat n)).toList
  let text (key : String) (v : Option String) : List (String × Json) :=
    (v.map fun s => (key, Json.string s)).toList
  [("featureKey", .string d.featureKey), ("userId", .string d.userId)] ++
    number "rolloutId" d.rolloutId ++ text "rolloutKey" d.rolloutKey ++
    number "rolloutVariationId" d.rolloutVariationId ++ number "experimentId" d.experimentId ++
    text "experimentKey" d.experimentKey ++ number "experimentVariationId" d.experimentVariationId

/-- The record of a decision; absent parts are left out. -/
def toJson (d : StoredDecision) : Json := .ofMembers d.parts

/-- The decision of a record, if it is one. -/
def ofJson? (j : Json) : Option StoredDecision := (decoder.ofJson j).toOption

end StoredDecision

end FlagDecision
