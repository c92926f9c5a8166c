import FlagDecision.Settings.Basic

/-!
The JSON form of settings.
-/

namespace FlagDecision

open Json (Decoder)

/-- A table: of several entries with one key the last counts. -/
def tableDecoder [DecidableEq κ] (readKey : String → Option κ) (d : Decoder α) :
    Decoder (Table κ α) := fun depth r => do
  return Table.ofEntries (← Decoder.members readKey d depth r)

/-- A whole number below `2 ^ 64`, as a number. -/
def word64OfJson? : Json → Option Nat
  | .number (.whole n) => if 0 ≤ n ∧ n < word64Limit then some n.toNat else none
  | _ => none

/-- An identifier as a number or a text. -/
def wordOrText : Decoder Nat := Decoder.interpreted fun j =>
  word64OfJson? j <|>
    match j with
    | .string s => readWord64? s.toList
    | _ => none

/-- A member of a group as a text or a number. -/
def memberOrWord : Decoder GroupMember := Decoder.interpreted fun
  | .string s => GroupMember.parse? s
  | j => (word64OfJson? j).map (⟨·, none⟩)

def VariableKind.ofWord (word : String) : VariableKind :=
  match word with
  | "boolean" => boolean
  | "integer" => integer
  | "double" => double
  | "string" => string
  | "json" => json
  | _ => unknown

def CampaignKind.ofWord? : String → Option CampaignKind
  | "FLAG_TESTING" | "AB" => some ab
  | "FLAG_PERSONALIZE" | "PERSONALIZE" => some personalize
  | "FLAG_ROLLOUT" | "ROLLOUT" => some rollout
  | _ => none

def CampaignKind.decoder : Decoder CampaignKind := Decoder.oneOf CampaignKind.ofWord?

def Variable.decoder : Decoder Variable := Decoder.record [
  .needed "id" .word64 fun v x => { x with id := v },
  .needed "key" .text fun v x => { x with key := v },
  .needed "type" (.oneOf (some ∘ VariableKind.ofWord)) fun v x => { x with kind := v },
  .needed "value" .any fun v x => { x with value := v }] {}

def Variation.decoder : Decoder Variation := Decoder.record [
  .needed "id" .word64 fun v x => { x with id := v },
  .needed "key" .text fun v x => { x with key := v },
  .optional "name" (.nullable .text) fun v x => { x with name := v },
  .optional "weight" .real fun v x => { x with weight := v },
  .optional "salt" (.nullable .text) fun v x => { x with salt := v },
  .optional "variables" (.list Variable.decoder) fun v x => { x with variableList := v },
  .optional "segments" Segment.decoder fun v x => { x with segments := v }] {}

def Campaign.decoder : Decoder Campaign := Decoder.record [
  .needed "id" .word64 fun v x => { x with id := v },
  .needed "key" .text fun v x => { x with key := v },
  .optional "name" (.nullable .text) fun v x => { x with name := v },
  .needed "type" CampaignKind.decoder fun v x => { x with kind := v },
  .optional "status" (.nullable .text) fun v x => { x with status := v },
  .optional "segments" Segment.decoder fun v x => { x with segments := v },
  .optional "variations" (.list Variation.decoder) fun v x => { x with variations := v },
  .optional "percentTraffic" .real fun v x => { x with percentTraffic := v },
  .optional "salt" (.nullable .text) fun v x => { x with salt := v },
  .optional "isForcedVariationEnabled" .boolean
    fun v x => { x with isForcedVariationEnabled := v },
  .optional "isUserListEnabled" .boolean fun v x => { x with isUserListEnabled := v },
  .optional "ruleKey" (.nullable .text) fun v x => { x with ruleKey := v }] {}

def Rule.decoder : Decoder Rule := Decoder.record [
  .needed "ruleKey" .text fun v x => { x with ruleKey := v },
  .needed "campaignId" .word64 fun v x => { x with campaignId := v },
  .optional "variationId" (.nullable .word64) fun v x => { x with variationId := v },
  .needed "type" CampaignKind.decoder fun v x => { x with kind := v }] {}

def Metric.decoder : Decoder Metric := Decoder.record [
  .needed "id" .word64 fun v x => { x with id := v },
  .optional "type" (.nullable .text) fun v x => { x with kind := v },
  .needed "identifier" .text fun v x => { x with identifier := v }] {}

def ImpactCampaign.decoder : Decoder ImpactCampaign := Decoder.record [
  .needed "campaignId" .word64 fun v x => { x with campaignId := v },
  .optional "type" (.nullable .text) fun v x => { x with kind := v }] {}

/-- A feature, before it is linked. -/
def Feature.decoder : Decoder Feature := Decoder.record [
  .needed "id" .word64 fun v x => { x with id := v },
  .needed "key" .text fun v x => { x with key := v },
  .optional "name" (.nullable .text) fun v x => { x with name := v },
  .optional "status" (.nullable .text) fun v x => { x with status := v },
  .optional "rules" (.list Rule.decoder) fun v x => { x with rules := v },
  .optional "metrics" (.list Metric.decoder) fun v x => { x with metrics := v },
  .optional "impactCampaign" (.nullable ImpactCampaign.decoder)
    fun v x => { x with impactCampaign := v }] {}

def Group.decoder : Decoder Group := Decoder.record [
  .optional "name" (.nullable .text) fun v x => { x with name := v },
  .optional "campaigns" (.list memberOrWord) fun v x => { x with campaigns := v },
  .optional "et" (.natural 255) fun v x => { x with algorithm := v },
  .optional "p" (.list memberOrWord) fun v x => { x with priority := v },
  .optional "wt" (tableDecoder GroupMember.parse? .real) fun v x => { x with weights := v }] {}

/-- Settings, before they are linked. -/
def Settings.decoder : Decoder Settings := Decoder.record [
  .needed "accountId" wordOrText fun v x => { x with accountId := v },
  .optional "sdkKey" (.nullable .text) fun v x => { x with sdkKey := v },
  .optional "version" (.nullable .word64) fun v x => { x with version := v },
  .optional "features" (.list Feature.decoder) fun v x => { x with features := v },
  .optional "campaigns" (.list Campaign.decoder) fun v x => { x with campaigns := v },
  .optional "groups" (tableDecoder (fun key => readWord64? key.toList) Group.decoder)
    fun v x => { x with groups := v },
  .optional "campaignGroups" (tableDecoder GroupMember.parse? wordOrText)
    fun v x => { x with campaignGroups := v }] {}

end FlagDecision
