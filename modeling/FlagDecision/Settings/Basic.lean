import FlagDecision.Bucket
import FlagDecision.GroupMember
import FlagDecision.Segment.Basic
import FlagDecision.Table

/-!
Settings: the features, campaigns and groups of one account at one time, and how they are looked up.
-/

namespace FlagDecision

/-- The type of a variable. -/
inductive VariableKind where
  | boolean
  | integer
  | double
  | string
  | json
  | unknown
  deriving DecidableEq, Repr

def VariableKind.word : VariableKind → String
  | boolean => "boolean"
  | integer => "integer"
  | double => "double"
  | string => "string"
  | json => "json"
  | unknown => "unknown"

/-- A variable that a variation gives a value. -/
structure Variable where
  id : Nat := 0
  key : String := ""
  kind : VariableKind := .unknown
  value : Json := .null
  deriving Repr

/-- One of the variations that a campaign shows. Its range is assigned when settings are linked. -/
structure Variation where
  id : Nat := 0
  key : String := ""
  name : Option String := none
  weight : Binary64 := 0
  salt : Option String := none
  variableList : List Variable := []
  segments : Option Segment := none
  range : Option BucketRange := none
  deriving Repr

/-- The kinds of campaigns. -/
inductive CampaignKind where
  | ab
  | personalize
  | rollout
  deriving DecidableEq, Repr

namespace CampaignKind

/-- Experiments are what is tried after the rollouts. -/
def isExperiment : CampaignKind → Bool
  | ab | personalize => true
  | rollout => false

/-- Rollouts and personalizations have one variation, whose weight is the traffic. -/
def isSingleVariation : CampaignKind → Bool
  | rollout | personalize => true
  | ab => false

end CampaignKind

/-- A campaign. Linked to a feature by a rule, it carries the key of the rule. -/
structure Campaign where
  id : Nat := 0
  key : String := ""
  name : Option String := none
  kind : CampaignKind := .ab
  status : Option String := none
  segments : Option Segment := none
  variations : List Variation := []
  percentTraffic : Binary64 := 0
  salt : Option String := none
  isForcedVariationEnabled : Bool := false
  isUserListEnabled : Bool := false
  ruleKey : Option String := none
  deriving Repr

namespace Campaign

def variation? (c : Campaign) (id : Nat) : Option Variation := c.variations.find? (·.id == id)

/-- The segment that comes before the traffic: that of the one variation, where there is one. -/
def preSegmentation (c : Campaign) : Option Segment :=
  if c.kind.isSingleVariation then c.variations.head?.bind (·.segments) else c.segments

/-- The campaign as a member of a group. A personalization stands for its variation. -/
def groupMember (c : Campaign) : GroupMember :=
  match c.kind with
  | .personalize => ⟨c.id, c.variations.head?.map (·.id)⟩
  | _ => ⟨c.id, none⟩

end Campaign

/-- A rule of a feature: a campaign, possibly narrowed to one variation. -/
structure Rule where
  ruleKey : String := ""
  campaignId : Nat := 0
  variationId : Option Nat := none
  kind : CampaignKind := .ab
  deriving DecidableEq, Repr

/-- Something that is measured. -/
structure Metric where
  id : Nat := 0
  kind : Option String := none
  identifier : String := ""
  deriving DecidableEq, Repr

/-- The campaign that measures the effect of a feature as a whole. -/
structure ImpactCampaign where
  campaignId : Nat := 0
  kind : Option String := none
  deriving DecidableEq, Repr

/-- A feature. Its linked campaigns and the need for a gateway are filled in when settings are
linked. -/
structure Feature where
  id : Nat := 0
  key : String := ""
  name : Option String := none
  status : Option String := none
  rules : List Rule := []
  metrics : List Metric := []
  impactCampaign : Option ImpactCampaign := none
  linked : List Campaign := []
  needsGateway : Bool := false
  deriving Repr

namespace Feature

/-- The linked rollouts, in the order of the rules. -/
def rollouts (f : Feature) : List Campaign := f.linked.filter (·.kind == .rollout)

/-- The linked experiments, in the order of the rules. -/
def experiments (f : Feature) : List Campaign := f.linked.filter (·.kind.isExperiment)

def hasRollout (f : Feature) : Bool := !f.rollouts.isEmpty

end Feature

/-- A group of campaigns of which a user sees at most one. -/
structure Group where
  name : Option String := none
  campaigns : List GroupMember := []
  algorithm : Nat := 1
  priority : List GroupMember := []
  weights : Table GroupMember Binary64 := []
  deriving Repr

namespace Group

/-- The winner is picked at random, whatever the priorities and weights. -/
def isRandom (g : Group) : Bool := g.algorithm == 1

/-- A linked campaign is listed, as a whole or by its variation. -/
def contains (g : Group) (c : Campaign) : Bool :=
  let member := c.groupMember
  g.campaigns.any fun m =>
    m.campaignId == member.campaignId &&
      (m.variationId.isNone || m.variationId == member.variationId)

/-- The weight of a linked campaign, as a whole or else of its variation. -/
def weightOf? (g : Group) (c : Campaign) : Option Binary64 :=
  g.weights.lookup c.groupMember.plain <|> g.weights.lookup c.groupMember

end Group

/-- The settings of an account. -/
structure Settings where
  accountId : Nat := 0
  sdkKey : Option String := none
  version : Option Nat := none
  features : List Feature := []
  campaigns : List Campaign := []
  groups : Table Nat Group := []
  campaignGroups : Table GroupMember Nat := []
  isLinked : Bool := false
  deriving Repr

namespace Settings

def feature? (s : Settings) (key : String) : Option Feature := s.features.find? (·.key == key)

def featureById? (s : Settings) (id : Nat) : Option Feature := s.features.find? (·.id == id)

def campaign? (s : Settings) (id : Nat) : Option Campaign := s.campaigns.find? (·.id == id)

/-- The campaign of a key and its variation of an id, as an earlier decision names them. -/
def variationByKey? (s : Settings) (campaignKey : String) (variationId : Nat) :
    Option (Campaign × Variation) := do
  let campaign ← s.campaigns.find? (·.key == campaignKey)
  let variation ← campaign.variation? variationId
  return (campaign, variation)

def groupOf? (s : Settings) (m : GroupMember) : Option Nat := s.campaignGroups.lookup m

def group? (s : Settings) (id : Nat) : Option Group := s.groups.lookup id

end Settings

end FlagDecision
