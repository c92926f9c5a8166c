import FlagDecision.Settings.Decode

/-!
Linking: variations get their bucket ranges, every feature the campaigns of its rules, and features
whose conditions need a gateway are marked. Linked settings stay as they are.
-/

namespace FlagDecision

namespace Campaign

/-- The campaign with the ranges of its variations: each alone where the kind has one variation,
else end to end. -/
def withRanges (c : Campaign) : Campaign :=
  let ranges :=
    if c.kind.isSingleVariation then c.variations.map fun v => BucketRange.alone v.weight
    else BucketRange.sequential (c.variations.map (·.weight))
  { c with variations := (c.variations.zip ranges).map fun (v, range) => { v with range } }

/-- The campaign as a rule links it: with the key of the rule, and only the variation that the rule
names. -/
def linkedBy (c : Campaign) (r : Rule) : Campaign :=
  { c with
    ruleKey := some r.ruleKey
    variations := match r.variationId with
      | none => c.variations
      | some id => c.variations.filter (·.id == id) }

end Campaign

namespace Rule

/-- The campaign that the rule links; a rule for an unknown campaign links none. -/
def link? (campaigns : List Campaign) (r : Rule) : Option Campaign :=
  (campaigns.find? (·.id == r.campaignId)).map (·.linkedBy r)

end Rule

namespace Feature

/-- The feature with the campaigns of its rules. -/
def link (campaigns : List Campaign) (f : Feature) : Feature :=
  let linked := f.rules.filterMap (Rule.link? campaigns)
  { f with
    linked
    needsGateway := linked.any fun c => c.preSegmentation.any (·.requiresGateway) }

end Feature

namespace Settings

/-- The settings made ready for evaluation. -/
def link (s : Settings) : Settings :=
  if s.isLinked then s
  else
    let campaigns := s.campaigns.map Campaign.withRanges
    { s with campaigns, features := s.features.map (Feature.link campaigns), isLinked := true }

/-- The linked settings of a JSON text. -/
def ofText (text : String) : Except Json.Fault Settings :=
  (decoder.ofText text).map link

/-- The settings of a JSON value, not yet linked. -/
def ofJson (j : Json) : Except Json.Fault Settings := decoder.ofJson j

end Settings

end FlagDecision
