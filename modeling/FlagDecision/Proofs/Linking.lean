import FlagDecision.Settings.Link

/-! Settings as evaluations see them. A linked campaign is one of the campaigns of the
settings, possibly narrowed to the variations of one id, so what is recorded about it
is found again in the settings. -/
namespace FlagDecision

/-- The identifiers of a campaign and of its variations are words of 64 bits. -/
structure Campaign.FitsWords (c : Campaign) : Prop where
  id : c.id < word64Limit
  variationIds : ∀ v ∈ c.variations, v.id < word64Limit

instance (c : Campaign) : Decidable c.FitsWords :=
  decidable_of_iff (c.id < word64Limit ∧ ∀ v ∈ c.variations, v.id < word64Limit)
    ⟨fun h => ⟨h.1, h.2⟩, fun h => ⟨h.1, h.2⟩⟩

/-- Settings that were linked, with identifiers of 64 bits. -/
structure Settings.Ready (s : Settings) : Prop where
  linked : ∃ raw : Settings, raw.isLinked = false ∧ raw.link = s
  words : ∀ c ∈ s.campaigns, c.FitsWords

/-- A campaign as a rule links it: all else than the key of the rule and the variations is that of
the origin, and the variations are all of them or those of one id. -/
structure Campaign.NarrowedFrom (c origin : Campaign) : Prop where
  eq : c = { origin with ruleKey := c.ruleKey, variations := c.variations }
  variations : c.variations = origin.variations ∨
    ∃ id, c.variations = origin.variations.filter (·.id == id)

namespace Campaign

variable {c c' origin : Campaign}

theorem linkedBy_narrowedFrom (c : Campaign) (r : Rule) : (c.linkedBy r).NarrowedFrom c := by
  refine ⟨rfl, ?_⟩
  cases hId : r.variationId with
  | none => exact Or.inl (by simp [linkedBy, hId])
  | some id => exact Or.inr ⟨id, by simp [linkedBy, hId]⟩

namespace NarrowedFrom

theorem id_eq (h : c.NarrowedFrom origin) : c.id = origin.id := by rw [h.eq]

theorem key_eq (h : c.NarrowedFrom origin) : c.key = origin.key := by rw [h.eq]

theorem kind_eq (h : c.NarrowedFrom origin) : c.kind = origin.kind := by rw [h.eq]

theorem segments_eq (h : c.NarrowedFrom origin) : c.segments = origin.segments := by rw [h.eq]

/-- Narrowing keeps the order of the variations that it keeps. -/
theorem sublist (h : c.NarrowedFrom origin) : c.variations.Sublist origin.variations := by
  rcases h.variations with hAll | ⟨id, hOne⟩
  · exact hAll ▸ List.Sublist.refl _
  · rw [hOne]
    exact List.filter_sublist

theorem fitsWords (h : c.NarrowedFrom origin) (hWords : origin.FitsWords) : c.FitsWords :=
  ⟨h.id_eq ▸ hWords.id, fun v hv => hWords.variationIds v (h.sublist.subset hv)⟩

end NarrowedFrom

/-- The id of a member that stands for a variation is the id of a variation. -/
theorem groupMember_fits (h : c.FitsWords) :
    c.groupMember.campaignId < word64Limit ∧
      ∀ id ∈ c.groupMember.variationId, id < word64Limit := by
  rw [groupMember]
  split
  · refine ⟨h.id, fun id hId => ?_⟩
    obtain ⟨v, hv, rfl⟩ := Option.map_eq_some_iff.mp hId
    exact h.variationIds v (List.mem_of_mem_head? hv)
  · exact ⟨h.id, by simp⟩

@[simp] theorem groupMember_campaignId (c : Campaign) : c.groupMember.campaignId = c.id := by
  rw [groupMember]
  split <;> rfl

end Campaign

/-- A campaign of the settings, by itself or as a rule links it. -/
def Settings.Has (s : Settings) (c : Campaign) : Prop :=
  c ∈ s.campaigns ∨ ∃ f ∈ s.features, c ∈ f.linked

/-- What the rules of a feature link comes from the first campaign of its id. -/
theorem Settings.link_origin (s : Settings) {f : Feature} {c : Campaign}
    (hLinked : c ∈ (f.link s.campaigns).linked) :
    ∃ origin, s.campaign? c.id = some origin ∧ origin ∈ s.campaigns ∧ c.NarrowedFrom origin := by
  obtain ⟨r, -, hRule⟩ := List.mem_filterMap.mp hLinked
  obtain ⟨origin, hFind, rfl⟩ := Option.map_eq_some_iff.mp hRule
  have hNarrow := origin.linkedBy_narrowedFrom r
  refine ⟨origin, ?_, List.mem_of_find?_eq_some hFind, hNarrow⟩
  have hId : origin.id = r.campaignId := by simpa using List.find?_some hFind
  rw [hNarrow.id_eq, hId]
  exact hFind

namespace Settings.Ready

variable {s : Settings} {f : Feature} {c : Campaign}

/-- The campaigns of linked settings are those that were given, with their ranges. -/
theorem ranged (h : s.Ready) (hCampaign : c ∈ s.campaigns) :
    ∃ raw : Campaign, raw.withRanges = c := by
  obtain ⟨raw, hRaw, rfl⟩ := h.linked
  simp only [Settings.link, hRaw, Bool.false_eq_true, if_false] at hCampaign
  obtain ⟨rawCampaign, -, rfl⟩ := List.mem_map.mp hCampaign
  exact ⟨rawCampaign, rfl⟩

/-- The features of linked settings are those that were given, with the campaigns of their rules. -/
theorem ruled (h : s.Ready) (hFeature : f ∈ s.features) :
    ∃ raw : Feature, raw.link s.campaigns = f := by
  obtain ⟨raw, hRaw, rfl⟩ := h.linked
  simp only [Settings.link, hRaw, Bool.false_eq_true, if_false] at hFeature ⊢
  obtain ⟨rawFeature, -, rfl⟩ := List.mem_map.mp hFeature
  exact ⟨rawFeature, rfl⟩

/-- Every linked campaign comes from the first campaign of its id. -/
theorem origin (h : s.Ready) (hFeature : f ∈ s.features) (hLinked : c ∈ f.linked) :
    ∃ origin, s.campaign? c.id = some origin ∧ origin ∈ s.campaigns ∧ c.NarrowedFrom origin := by
  obtain ⟨raw, rfl⟩ := h.ruled hFeature
  exact s.link_origin hLinked

theorem linked_fits (h : s.Ready) (hFeature : f ∈ s.features) (hLinked : c ∈ f.linked) :
    c.FitsWords := by
  obtain ⟨origin, -, hMem, hNarrow⟩ := h.origin hFeature hLinked
  exact hNarrow.fitsWords (h.words origin hMem)

theorem same_origin (h : s.Ready) {f' : Feature} {c' : Campaign} (hFeature : f ∈ s.features)
    (hLinked : c ∈ f.linked) (hFeature' : f' ∈ s.features) (hLinked' : c' ∈ f'.linked)
    (hId : c.id = c'.id) :
    ∃ origin ∈ s.campaigns, c.NarrowedFrom origin ∧ c'.NarrowedFrom origin := by
  obtain ⟨origin, hFind, hMem, hNarrow⟩ := h.origin hFeature hLinked
  obtain ⟨origin', hFind', -, hNarrow'⟩ := h.origin hFeature' hLinked'
  rw [hId, hFind'] at hFind
  obtain rfl := Option.some.inj hFind
  exact ⟨origin', hMem, hNarrow, hNarrow'⟩

end Settings.Ready

/-- Keys name campaigns, and ids name variations within a campaign. -/
structure Settings.Distinct (s : Settings) : Prop where
  campaigns : (s.campaigns.map (·.key)).Nodup
  variations : ∀ c ∈ s.campaigns, (c.variations.map (·.id)).Nodup

instance (s : Settings) : Decidable s.Distinct :=
  decidable_of_iff ((s.campaigns.map (·.key)).Nodup ∧
    ∀ c ∈ s.campaigns, (c.variations.map (·.id)).Nodup) ⟨fun h => ⟨h.1, h.2⟩, fun h => ⟨h.1, h.2⟩⟩

/-- An element is found by its name where names are unique. -/
theorem find?_of_nodup {α β : Type} [DecidableEq β] {name : α → β} {l : List α} {a : α}
    (hNodup : (l.map name).Nodup) (ha : a ∈ l) : l.find? (name · == name a) = some a := by
  induction l with
  | nil => simp at ha
  | cons b rest ih =>
      obtain ⟨hNew, hRest⟩ := List.nodup_cons.mp hNodup
      rcases List.mem_cons.mp ha with rfl | ha
      · simp
      · have hOther : name b ≠ name a := fun hSame => hNew (hSame ▸ List.mem_map_of_mem ha)
        rw [List.find?_cons_of_neg (by simpa using hOther), ih hRest ha]

namespace Settings

/-- A choice that is found again by the key of its campaign and the id of its variation. -/
structure Knows (s : Settings) (choice : Campaign × Variation) : Prop where
  found : ∃ origin, s.variationByKey? choice.1.key choice.2.id = some (origin, choice.2) ∧
    origin.key = choice.1.key
  campaignId : choice.1.id < word64Limit
  variationId : choice.2.id < word64Limit

variable {s : Settings} {f : Feature} {c : Campaign} {v : Variation}

/-- A variation of a narrowed campaign is found again by the key and its id. -/
theorem Distinct.variationByKey?_eq (h : s.Distinct) {origin : Campaign}
    (hMem : origin ∈ s.campaigns) (hNarrow : c.NarrowedFrom origin) (hv : v ∈ c.variations) :
    s.variationByKey? c.key v.id = some (origin, v) := by
  have hCampaign : s.campaigns.find? (·.key == c.key) = some origin := by
    rw [hNarrow.key_eq]
    exact find?_of_nodup h.campaigns hMem
  have hVariation : origin.variation? v.id = some v :=
    find?_of_nodup (h.variations origin hMem) (hNarrow.sublist.subset hv)
  simp [variationByKey?, hCampaign, hVariation]

theorem Ready.knows_linked (h : s.Ready) (hDistinct : s.Distinct) (hFeature : f ∈ s.features)
    (hLinked : c ∈ f.linked) (hv : v ∈ c.variations) : s.Knows (c, v) := by
  obtain ⟨origin, -, hMem, hNarrow⟩ := h.origin hFeature hLinked
  have hFits := h.linked_fits hFeature hLinked
  exact ⟨⟨origin, hDistinct.variationByKey?_eq hMem hNarrow hv, hNarrow.key_eq.symm⟩, hFits.id,
    hFits.variationIds v hv⟩

theorem Ready.knows_found (h : s.Ready) {key : String} {id : Nat}
    (hFound : s.variationByKey? key id = some (c, v)) : s.Knows (c, v) := by
  obtain ⟨c', hCampaign, hRest⟩ := Option.bind_eq_some_iff.mp hFound
  obtain ⟨v', hVariation, hSame⟩ := Option.bind_eq_some_iff.mp hRest
  obtain ⟨rfl, rfl⟩ : c' = c ∧ v' = v := by simpa using hSame
  obtain rfl : c'.key = key := by simpa using List.find?_some hCampaign
  obtain rfl : v'.id = id := by simpa using List.find?_some hVariation
  have hFits := h.words c' (List.mem_of_find?_eq_some hCampaign)
  exact ⟨⟨c', hFound, rfl⟩, hFits.id, hFits.variationIds v' (List.mem_of_find?_eq_some hVariation)⟩

end Settings

/-- A campaign that is named by its id, with one variation that takes all traffic. -/
def Campaign.small (kind : CampaignKind) (id : Nat) : Campaign where
  id
  key := toString id
  kind
  percentTraffic := 100
  variations := [{ id := 1, weight := 100 }]

/-- A rollout that targets nobody. -/
def Campaign.closed (id : Nat) : Campaign :=
  { Campaign.small .rollout id with
    variations := [{ id := 1, weight := 100, segments := some (.disj []) }] }

/-- A feature that links campaigns by their ids. -/
def Feature.small (id : Nat) (key : String) (campaignIds : List Nat) : Feature where
  id
  key
  rules := campaignIds.map fun campaignId => { campaignId }

/-- A group of whole campaigns, whose winner is picked by priority. -/
def Group.small (campaignIds priority : List Nat) : Group where
  campaigns := campaignIds.map (⟨·, none⟩)
  algorithm := 2
  priority := priority.map (⟨·, none⟩)

namespace Settings

/-- Two features with an experiment each in group 7. The experiment of the second one comes after a
rollout, which has group 9 for itself, and wins. -/
def rivals : Settings :=
  { accountId := 1
    campaigns := [.small .ab 1, .small .ab 2, .small .rollout 3]
    features := [.small 1 "left" [1], .small 2 "right" [3, 2]]
    groups := [(7, .small [1, 2] [2]), (9, .small [3] [])]
    campaignGroups := [(⟨1, none⟩, 7), (⟨2, none⟩, 7), (⟨3, none⟩, 9)] : Settings }.link

theorem rivals_ready : rivals.Ready := ⟨⟨_, rfl, rfl⟩, by decide +kernel⟩

end Settings

end FlagDecision
