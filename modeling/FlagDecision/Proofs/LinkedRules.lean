import FlagDecision.Proofs.BucketSpace
import Mathlib.Data.List.Forall2

/-! What linking does to settings. Every variation gets the range of its place, every rule of a
feature the first campaign of its id with those ranges, narrowed as the rule says, and
nothing else changes. So a linked campaign and the campaign that it comes from never
drift apart: where names are unique, each variation of the one is found again in the
other, as it is. -/
namespace FlagDecision

/-- The results of the elements that have one are what the results of all elements leave. -/
theorem forall₂_filterMap_iff {α β : Type} {f : α → Option β} {l : List α} {l' : List β} :
    List.Forall₂ (fun a b => f a = some b) (l.filter fun a => (f a).isSome) l' ↔
      l' = l.filterMap f := by
  induction l generalizing l' with
  | nil => exact List.forall₂_nil_left_iff
  | cons a rest ih =>
      cases hResult : f a with
      | none => simpa [hResult] using ih
      | some b =>
          rw [List.filter_cons_of_pos (by simp [hResult]), List.filterMap_cons_some hResult,
            List.forall₂_cons_left_iff]
          constructor
          · rintro ⟨b', tail, hFirst, hRest, rfl⟩
            obtain rfl : b = b' := Option.some.inj (hResult.symm.trans hFirst)
            rw [ih.mp hRest]
          · rintro rfl
            exact ⟨b, _, hResult, ih.mpr rfl, rfl⟩

/-- A relation that says which element belongs to each other one says which list does. -/
theorem forall₂_iff_eq_map {α β : Type} {R : α → β → Prop} {f : β → α} {l : List α} {l' : List β}
    (h : ∀ a b, R a b ↔ a = f b) : List.Forall₂ R l l' ↔ l = l'.map f := by
  have hR : R = fun a b => a = f b := funext₂ fun a b => propext (h a b)
  rw [hR, ← List.forall₂_map_right_iff, List.forall₂_eq_eq_eq]

namespace Campaign

variable {c d : Campaign}

/-- The range that belongs to a variation at a place of the campaign: its own weight where there is
one variation, and otherwise its units after those of all variations before it. -/
def rangeAt (c : Campaign) (i : Nat) (v : Variation) : Option BucketRange :=
  if c.kind.isSingleVariation then BucketRange.alone v.weight
  else if min (BucketRange.unitsOfWeight v.weight) bucketSpace = 0 then none
  else some ⟨1 + (c.units.take i).sum, (c.units.take (i + 1)).sum⟩

/-- The campaign `d` is `c` with the range that belongs to each of its variations. -/
structure RangedFrom (d c : Campaign) : Prop where
  eq : d = { c with variations := d.variations }
  variations : ∀ i : Nat,
    d.variations[i]? = c.variations[i]?.map fun v => { v with range := c.rangeAt i v }

/-- Assigning ranges changes each variation in its place, and nothing but its range. -/
theorem withRanges_getElem? (c : Campaign) (i : Nat) :
    c.withRanges.variations[i]? =
      c.variations[i]?.map fun v => { v with range := c.rangeAt i v } := by
  rw [withRanges, List.getElem?_map, List.zip, List.getElem?_zipWith]
  cases hPlace : c.variations[i]? with
  | none => rfl
  | some v =>
      have hUnits : c.units[i]? = some (min (BucketRange.unitsOfWeight v.weight) bucketSpace) := by
        simp [units, hPlace]
      cases hKind : c.kind.isSingleVariation with
      | true => simp [hPlace, rangeAt, hKind]
      | false =>
          rw [if_neg Bool.false_ne_true, sequential_weights, BucketRange.layOut_getElem? 0 hUnits]
          simp [rangeAt, hKind, add_comm]

theorem rangedFrom_iff : d.RangedFrom c ↔ d = c.withRanges := by
  constructor
  · rintro ⟨hEq, hVariations⟩
    have hSame : d.variations = c.withRanges.variations :=
      List.ext_getElem? fun i => (hVariations i).trans (c.withRanges_getElem? i).symm
    rw [hEq, hSame]
    rfl
  · rintro rfl
    exact ⟨rfl, c.withRanges_getElem?⟩

end Campaign

/-- The rule links the campaign `c`: the first one that has the id of the rule, with the key of the
rule, and of its variations all, or those of the one id that the rule names. -/
def Rule.Links (campaigns : List Campaign) (r : Rule) (c : Campaign) : Prop :=
  ∃ before origin after, campaigns = before ++ origin :: after ∧
    (∀ d ∈ before, d.id ≠ r.campaignId) ∧ origin.id = r.campaignId ∧
    c = { origin with
      ruleKey := some r.ruleKey
      variations := origin.variations.filter fun v => r.variationId.all (v.id = ·) }

/-- Some campaign has the id of the rule. -/
def Rule.IsKnown (campaigns : List Campaign) (r : Rule) : Prop :=
  ∃ c ∈ campaigns, c.id = r.campaignId

instance (campaigns : List Campaign) (r : Rule) : Decidable (r.IsKnown campaigns) :=
  inferInstanceAs (Decidable (∃ c ∈ campaigns, c.id = r.campaignId))

namespace Rule

variable {campaigns : List Campaign} {r : Rule} {c : Campaign}

theorem linkedBy_eq (c : Campaign) (r : Rule) :
    c.linkedBy r = { c with
      ruleKey := some r.ruleKey
      variations := c.variations.filter fun v => r.variationId.all (v.id = ·) } := by
  cases hId : r.variationId with
  | none => simp [Campaign.linkedBy, hId]
  | some id => simp [Campaign.linkedBy, hId, beq_eq_decide]

theorem links_iff : r.Links campaigns c ↔ r.link? campaigns = some c := by
  rw [link?, Option.map_eq_some_iff]
  constructor
  · rintro ⟨before, origin, after, hList, hBefore, hId, rfl⟩
    refine ⟨origin, ?_, linkedBy_eq origin r⟩
    exact List.find?_eq_some_iff_append.mpr ⟨by simpa using hId, before, after, hList,
      fun d hd => by simpa using hBefore d hd⟩
  · rintro ⟨origin, hFind, rfl⟩
    obtain ⟨hId, before, after, hList, hBefore⟩ := List.find?_eq_some_iff_append.mp hFind
    exact ⟨before, origin, after, hList, fun d hd => by simpa using hBefore d hd,
      by simpa using hId, linkedBy_eq origin r⟩

theorem isKnown_iff : r.IsKnown campaigns ↔ (r.link? campaigns).isSome := by
  simp [IsKnown, link?]

end Rule

/-- The feature `g` is `f` with one campaign for every rule that has one, in the order of the rules,
and marked if one of them targets with the help of the gateway. -/
structure Feature.LinkedFrom (campaigns : List Campaign) (g f : Feature) : Prop where
  eq : g = { f with linked := g.linked, needsGateway := g.needsGateway }
  linked : List.Forall₂ (Rule.Links campaigns) (f.rules.filter (·.IsKnown campaigns)) g.linked
  needsGateway : g.needsGateway ↔
    ∃ c ∈ g.linked, ∃ tree ∈ c.preSegmentation, tree.requiresGateway

theorem Feature.linkedFrom_iff {campaigns : List Campaign} {g f : Feature} :
    g.LinkedFrom campaigns f ↔ g = f.link campaigns := by
  have hRules :
      List.Forall₂ (Rule.Links campaigns) (f.rules.filter (·.IsKnown campaigns)) g.linked ↔
        g.linked = f.rules.filterMap (Rule.link? campaigns) := by
    have hLinks : Rule.Links campaigns = fun r c => r.link? campaigns = some c :=
      funext₂ fun _ _ => propext Rule.links_iff
    rw [← forall₂_filterMap_iff, hLinks]
    simp only [Rule.isKnown_iff, Bool.decide_eq_true]
  have hMark : (g.needsGateway ↔ ∃ c ∈ g.linked, ∃ tree ∈ c.preSegmentation, tree.requiresGateway) ↔
      g.needsGateway = g.linked.any fun c => c.preSegmentation.any (·.requiresGateway) := by
    have hAny : (g.linked.any fun c => c.preSegmentation.any (·.requiresGateway)) = true ↔
        ∃ c ∈ g.linked, ∃ tree ∈ c.preSegmentation, tree.requiresGateway := by
      simp [List.any_eq_true, Option.any_eq_true]
    rw [← hAny, ← Bool.eq_iff_iff]
  constructor
  · rintro ⟨hEq, hLinked, hNeeds⟩
    rw [hRules] at hLinked
    rw [hMark, hLinked] at hNeeds
    rw [hEq, hNeeds, hLinked, Feature.link]
  · rintro rfl
    exact ⟨rfl, hRules.mpr rfl, hMark.mpr rfl⟩

/-- The settings `s` are `raw` made ready: ranges are assigned, rules linked, all else is kept. -/
structure Settings.LinkedFrom (s raw : Settings) : Prop where
  eq : s = { raw with campaigns := s.campaigns, features := s.features, isLinked := true }
  campaigns : List.Forall₂ Campaign.RangedFrom s.campaigns raw.campaigns
  features : List.Forall₂ (Feature.LinkedFrom s.campaigns) s.features raw.features

namespace Settings

variable {raw s : Settings}

theorem link_eq (hRaw : raw.isLinked = false) :
    raw.link = { raw with
      campaigns := raw.campaigns.map Campaign.withRanges
      features := raw.features.map (Feature.link (raw.campaigns.map Campaign.withRanges))
      isLinked := true } := by
  rw [link, hRaw, if_neg Bool.false_ne_true]

theorem linkedFrom_iff (hRaw : raw.isLinked = false) : s.LinkedFrom raw ↔ s = raw.link := by
  have hCampaigns : List.Forall₂ Campaign.RangedFrom s.campaigns raw.campaigns ↔
      s.campaigns = raw.campaigns.map Campaign.withRanges :=
    forall₂_iff_eq_map fun _ _ => Campaign.rangedFrom_iff
  have hFeatures : List.Forall₂ (Feature.LinkedFrom s.campaigns) s.features raw.features ↔
      s.features = raw.features.map (Feature.link s.campaigns) :=
    forall₂_iff_eq_map fun _ _ => Feature.linkedFrom_iff
  rw [link_eq hRaw]
  constructor
  · rintro ⟨hEq, hRanged, hLinked⟩
    rw [hCampaigns] at hRanged
    rw [hFeatures, hRanged] at hLinked
    rw [hEq, hRanged, hLinked]
  · rintro rfl
    exact ⟨rfl, hCampaigns.mpr rfl, hFeatures.mpr rfl⟩

/-- Every linked campaign comes from a campaign of the settings. -/
theorem linked_narrowedFrom (hRaw : raw.isLinked = false) {f : Feature} {c : Campaign}
    (hFeature : f ∈ raw.link.features) (hLinked : c ∈ f.linked) :
    ∃ origin ∈ raw.link.campaigns, c.NarrowedFrom origin := by
  have hCampaigns : raw.link.campaigns = raw.campaigns.map Campaign.withRanges := by
    rw [link_eq hRaw]
  obtain ⟨f, -, rfl⟩ : ∃ g ∈ raw.features, g.link raw.link.campaigns = f := by
    rw [hCampaigns]
    simpa [link_eq hRaw] using hFeature
  obtain ⟨origin, -, hMem, hNarrow⟩ := raw.link.link_origin hLinked
  exact ⟨origin, hMem, hNarrow⟩

/-- Names are still unique when ranges are assigned. -/
theorem Distinct.link (h : raw.Distinct) (hRaw : raw.isLinked = false) : raw.link.Distinct := by
  rw [link_eq hRaw]
  constructor
  · simpa [Function.comp_def, Campaign.withRanges] using h.campaigns
  · intro c hc
    obtain ⟨origin, hOrigin, rfl⟩ := List.mem_map.mp hc
    have hIds : origin.withRanges.variations.map (·.id) = origin.variations.map (·.id) := by
      refine List.ext_getElem? fun i => ?_
      simp [Campaign.withRanges_getElem?, Function.comp_def]
    exact hIds ▸ h.variations origin hOrigin

/-- Linking settings gives each variation the range of its place and each rule the first campaign of
its id, and nothing else; these are the only settings of which that can be said. Where keys
name campaigns and ids name variations, every variation of a linked campaign is found by
the key of the campaign and its id, with its segments, variables and range. -/
theorem link_faithful (hRaw : raw.isLinked = false) :
    raw.link.LinkedFrom raw ∧ (∀ s : Settings, s.LinkedFrom raw → s = raw.link) ∧
      (raw.Distinct → ∀ f ∈ raw.link.features, ∀ c ∈ f.linked, ∀ v ∈ c.variations,
        ∃ origin, c.NarrowedFrom origin ∧
          raw.link.variationByKey? c.key v.id = some (origin, v)) := by
  refine ⟨(linkedFrom_iff hRaw).mpr rfl, fun s => (linkedFrom_iff hRaw).mp, ?_⟩
  intro hDistinct f hFeature c hLinked v hv
  obtain ⟨origin, hMem, hNarrow⟩ := linked_narrowedFrom hRaw hFeature hLinked
  exact ⟨origin, hNarrow, (hDistinct.link hRaw).variationByKey?_eq hMem hNarrow hv⟩

/-- A personalization of which a rule shows the second variation, another campaign with its id but
not its key, a rollout, and a rule for no campaign. -/
def unready : Settings :=
  { accountId := 1
    campaigns := [
      { Campaign.small .personalize 1 with
        variations := [{ id := 1, weight := 40 }, { id := 2, weight := 25 }] },
      { Campaign.small .ab 1 with key := "hidden" }, .small .rollout 3]
    features := [
      { id := 1
        key := "f"
        rules := [{ ruleKey := "second", campaignId := 1, variationId := some 2 },
          { ruleKey := "unknown", campaignId := 9 }, { ruleKey := "whole", campaignId := 3 }] }] }

theorem unready_faithful :
    unready.isLinked = false ∧ unready.Distinct ∧ unready.link.LinkedFrom unready ∧
      (∀ f ∈ unready.link.features, f.linked.map (·.ruleKey) = [some "second", some "whole"] ∧
        (f.linked.map fun c => c.variations.map (·.range)) =
          [[some ⟨1, 2500⟩], [some ⟨1, 10000⟩]]) ∧
      ∀ f ∈ unready.link.features, ∀ c ∈ f.linked, ∀ v ∈ c.variations,
        ∃ origin, c.NarrowedFrom origin ∧
          unready.link.variationByKey? c.key v.id = some (origin, v) := by
  have hRaw : unready.isLinked = false := rfl
  have hDistinct : unready.Distinct := by decide +kernel
  obtain ⟨hFaithful, -, hFound⟩ := link_faithful hRaw
  exact ⟨hRaw, hDistinct, hFaithful, by decide +kernel, hFound hDistinct⟩

end Settings

end FlagDecision
