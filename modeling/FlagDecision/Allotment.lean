import FlagDecision.Settings.Basic

/-!
Which variation of a campaign a user gets: first the gate of the traffic, then the variation whose
range holds the bucket of the user.
-/

namespace FlagDecision

namespace Campaign

/-- The user is inside the traffic of the campaign. Where there is one variation, its weight is the
traffic and its salt places the user. -/
def isMember (c : Campaign) (userId : String) : Bool :=
  let gate (traffic : Binary64) (salt : Option String) : Bool :=
    (Binary64.ofNat ((BucketSeed.campaign c.id salt).bucket userId trafficSpace)).atMost traffic
  if c.kind.isSingleVariation then
    match c.variations with
    | [] => false
    | v :: _ => gate v.weight v.salt
  else gate c.percentTraffic c.salt

/-- The variation whose range holds the bucket of the user in this account. -/
def selectVariation? (c : Campaign) (accountId : Nat) (userId : String) : Option Variation :=
  let bucket := (BucketSeed.account c.id c.salt accountId).bucket userId bucketSpace
  c.variations.find? fun v => v.range.any (·.contains bucket)

/-- The variation that the user gets. -/
def allot? (c : Campaign) (accountId : Nat) (userId : String) : Option Variation :=
  if !c.isMember userId then none
  else if c.kind.isSingleVariation then c.variations.head?
  else c.selectVariation? accountId userId

/-- One of the variations that a user is whitelisted for: the only one, or by weight. -/
def whitelisted? (c : Campaign) (candidates : List Variation) (userId : String) :
    Option Variation :=
  match candidates with
  | [] => none
  | [only] => some only
  | several =>
    let weights := normalizeWeights (several.map (·.weight))
    pickByWeight (several.zip weights) ((BucketSeed.campaign c.id c.salt).bucket userId bucketSpace)

end Campaign

end FlagDecision
