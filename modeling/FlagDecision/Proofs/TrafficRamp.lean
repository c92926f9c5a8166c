import FlagDecision.Proofs.BucketSpace

/-! More traffic. The bucket of a user depends on the seed of the campaign and not on
its traffic, and variations that are added come after those that were there. So who is
in a campaign stays in it, and sees the same variation, when traffic is raised and when
a sister campaign with the same salt takes over. A rule that names a variation leaves it
in the buckets that it has among all variations, so then the buckets of those before it
have to be as many in both. -/
namespace FlagDecision

namespace Binary64

variable {x y z : Binary64}

theorem atMost_finite_iff {negative negative' : Bool} {m m' : Nat} {e e' : Int} :
    (finite negative m e).atMost (finite negative' m' e') ↔
      (finite negative m e).toRat ≤ (finite negative' m' e').toRat := by
  rw [atMost, compare?, le_iff_lt_or_eq]
  by_cases hLess : (finite negative m e).toRat < (finite negative' m' e').toRat
  · simp [hLess]
  · by_cases hSame : (finite negative m e).toRat = (finite negative' m' e').toRat
    · simp [hSame]
    · simp [hLess, hSame]

/-- The negative infinity is below all numbers. -/
theorem least_atMost_iff : (infinity true).atMost y ↔ y ≠ nan := by
  rcases y with _ | (_ | _) | _ <;> simp [atMost, compare?]

/-- The positive infinity is above all numbers, and nothing else is above it. -/
theorem greatest_atMost_iff : (infinity false).atMost y ↔ y = infinity false := by
  rcases y with _ | (_ | _) | _ <;> simp [atMost, compare?]

theorem atMost_greatest_iff : x.atMost (infinity false) ↔ x ≠ nan := by
  rcases x with _ | (_ | _) | _ <;> simp [atMost, compare?]

theorem atMost_least_iff : x.atMost (infinity true) ↔ x = infinity true := by
  rcases x with _ | (_ | _) | _ <;> simp [atMost, compare?]

theorem ne_nan_of_atMost (h : x.atMost y) : y ≠ nan := by
  rintro rfl
  cases x <;> simp [atMost, compare?] at h

theorem atMost_trans (hxy : x.atMost y) (hyz : y.atMost z) : x.atMost z := by
  rcases x with ⟨negative, m, e⟩ | (_ | _) | _
  · rcases y with _ | (_ | _) | _
    · rcases z with _ | (_ | _) | _
      · exact atMost_finite_iff.mpr ((atMost_finite_iff.mp hxy).trans (atMost_finite_iff.mp hyz))
      · simp [atMost_greatest_iff]
      · simp [atMost_least_iff] at hyz
      · exact absurd rfl (ne_nan_of_atMost hyz)
    · obtain rfl := greatest_atMost_iff.mp hyz
      exact hxy
    · simp [atMost_least_iff] at hxy
    · exact absurd rfl (ne_nan_of_atMost hxy)
  · obtain rfl := greatest_atMost_iff.mp hxy
    exact hyz
  · exact least_atMost_iff.mpr (ne_nan_of_atMost hyz)
  · cases y <;> simp [atMost, compare?] at hxy

end Binary64

namespace BucketSeed

variable {id id' : Nat} {salt salt' : Option String}

/-- A salt stands in the seed by itself, whichever campaign has it. -/
theorem campaignPart_salted (id : Nat) {text : String} (h : text ≠ "") :
    campaignPart id (some text) = text := by
  simp [campaignPart, Option.filter, h]

theorem campaign_bucket_eq (h : campaignPart id salt = campaignPart id' salt') (userId : String)
    (max : Nat) :
    (campaign id salt).bucket userId max = (campaign id' salt').bucket userId max := by
  simp only [bucket, text, h]

theorem account_bucket_eq (h : campaignPart id salt = campaignPart id' salt') (accountId : Nat)
    (userId : String) (max : Nat) :
    (account id salt accountId).bucket userId max =
      (account id' salt' accountId).bucket userId max := by
  simp only [bucket, text, h]

end BucketSeed

namespace Campaign

open BucketSeed

variable {c d origin origin' : Campaign} {v w : Variation} {i : Nat} {gap : Nat → Nat}

/-- The experiment `d` is `c` with more traffic: users keep their buckets, no fewer are let in, and
variations were added at the end only. -/
structure RampsTo (c d : Campaign) : Prop where
  seed : campaignPart c.id c.salt = campaignPart d.id d.salt
  traffic : c.percentTraffic.atMost d.percentTraffic
  weights : c.variations.map (·.weight) <+: d.variations.map (·.weight)

/-- The variation `w`, alone in `d`, is `v`, alone in `c`, with more traffic. -/
structure WeighsTo (c : Campaign) (v : Variation) (d : Campaign) (w : Variation) : Prop where
  seed : campaignPart c.id v.salt = campaignPart d.id w.salt
  weight : v.weight.atMost w.weight

/-- The variations of `c` are variations of `origin`, of which others may be left out. Those that
are left out before the variation at place `i` take `gap i` buckets. -/
structure SpacedIn (c origin : Campaign) (gap : Nat → Nat) : Prop where
  eq : c = { origin with ruleKey := c.ruleKey, variations := c.variations }
  places : ∀ (i : Nat) (v : Variation), c.variations[i]? = some v →
    ∃ place, origin.variations[place]? = some v ∧
      (origin.units.take place).sum = gap i + (c.units.take i).sum

theorem isMember_of_several (hKind : c.kind.isSingleVariation = false) (userId : String) :
    c.isMember userId ↔
      (Binary64.ofNat ((campaign c.id c.salt).bucket userId trafficSpace)).atMost
        c.percentTraffic := by
  simp [isMember, hKind]

theorem isMember_of_single (hKind : c.kind.isSingleVariation) (hFirst : c.variations.head? = some v)
    (userId : String) :
    c.isMember userId ↔
      (Binary64.ofNat ((campaign c.id v.salt).bucket userId trafficSpace)).atMost v.weight := by
  cases hVariations : c.variations with
  | nil => simp [hVariations] at hFirst
  | cons first rest =>
      obtain rfl : first = v := by simpa [hVariations] using hFirst
      simp [isMember, hKind, hVariations]

/-- Who is let in gets the variation at the place of the bucket. -/
theorem allot?_of_slot (hKind : c.kind.isSingleVariation = false) {accountId : Nat}
    {userId : String} (hMember : c.isMember userId)
    (hSlot : c.slot? (c.accountBucket accountId userId) = some i) :
    c.allot? accountId userId = c.variations[i]? := by
  have hSelected : c.selectVariation? accountId userId =
      (c.slot? (c.accountBucket accountId userId)).bind fun i => c.variations[i]? :=
    List.find?_eq_bind_findIdx?_getElem?
  rw [allot?, hMember, hKind, Bool.not_true, if_neg Bool.false_ne_true,
    if_neg Bool.false_ne_true, hSelected, hSlot, Option.bind_some]

/-- The gate of a single variation opens wider with its weight. -/
theorem WeighsTo.isMember (h : c.WeighsTo v d w) (hKind : c.kind.isSingleVariation)
    (hKind' : d.kind.isSingleVariation) (hFirst : c.variations.head? = some v)
    (hFirst' : d.variations.head? = some w) {userId : String} (hMember : c.isMember userId) :
    d.isMember userId := by
  rw [isMember_of_single hKind hFirst, campaign_bucket_eq h.seed] at hMember
  rw [isMember_of_single hKind' hFirst']
  exact Binary64.atMost_trans hMember h.weight

/-- Where all variations are linked, none is left out. -/
theorem spacedIn_of_all (hAll : c = { origin with ruleKey := c.ruleKey }) :
    c.SpacedIn origin fun _ => 0 := by
  have hVariations : c.variations = origin.variations := by rw [hAll]
  refine ⟨hVariations ▸ hAll, fun i v hPlace => ⟨i, hVariations ▸ hPlace, ?_⟩⟩
  rw [units, units, hVariations, Nat.zero_add]

/-- What stands before an element of a part of a list stands before it in the list. -/
theorem exists_place_of_sublist {α : Type} {part whole : List α} (h : part.Sublist whole) {a : α}
    (hPlace : part[i]? = some a) :
    ∃ place, whole[place]? = some a ∧ (part.take i).Sublist (whole.take place) := by
  induction h generalizing i with
  | slnil => simp at hPlace
  | cons b _ ih =>
      obtain ⟨place, hFound, hBefore⟩ := ih hPlace
      exact ⟨place + 1, hFound, hBefore.cons b⟩
  | cons_cons b _ ih =>
      cases i with
      | zero => exact ⟨0, hPlace, List.Sublist.refl _⟩
      | succ i =>
          obtain ⟨place, hFound, hBefore⟩ := ih hPlace
          exact ⟨place + 1, hFound, hBefore.cons_cons b⟩

/-- Whatever a rule leaves out takes some number of buckets. -/
theorem NarrowedFrom.spacedIn (h : c.NarrowedFrom origin) : ∃ gap, c.SpacedIn origin gap := by
  have hPlaces : ∀ i, ∃ gap, ∀ v, c.variations[i]? = some v →
      ∃ place, origin.variations[place]? = some v ∧
        (origin.units.take place).sum = gap + (c.units.take i).sum := by
    intro i
    cases hPlace : c.variations[i]? with
    | none => exact ⟨0, fun v hNone => by cases hNone⟩
    | some v =>
        obtain ⟨place, hFound, hBefore⟩ := exists_place_of_sublist h.sublist hPlace
        have hUnits : (c.units.take i).sum ≤ (origin.units.take place).sum := by
          rw [units, units, ← List.map_take, ← List.map_take]
          exact (hBefore.map _).sum_le_sum fun _ _ => Nat.zero_le _
        exact ⟨_, fun w hSame => ⟨place, hFound.trans hSame, (Nat.sub_add_cancel hUnits).symm⟩⟩
  choose gap hGap using hPlaces
  exact ⟨gap, h.eq, hGap⟩

/-- All that stands before a variation that is linked alone is left out. -/
theorem NarrowedFrom.spacedIn_of_single (h : c.NarrowedFrom origin) {place units : Nat}
    (hSingle : c.variations = [v]) (hPlace : origin.variations[place]? = some v)
    (hUnits : (origin.units.take place).sum = units) : c.SpacedIn origin fun _ => units := by
  refine ⟨h.eq, fun i w hFound => ?_⟩
  obtain ⟨rfl, rfl⟩ : i = 0 ∧ v = w := by simpa [hSingle, List.getElem?_singleton] using hFound
  exact ⟨place, hPlace, by simpa using hUnits⟩

namespace SpacedIn

theorem kind_eq (h : c.SpacedIn origin gap) : c.kind = origin.kind := by rw [h.eq]

/-- The variation at a place has the buckets after those of all variations before it, left out or
not. -/
theorem holds_iff (h : c.SpacedIn origin gap) (hLaid : origin.IsLaidOut)
    (hPlace : c.variations[i]? = some v) {b : Nat} :
    v.range.any (·.contains b) ↔
      gap i + (c.units.take i).sum < b ∧ b ≤ gap i + (c.units.take (i + 1)).sum := by
  obtain ⟨place, hFound, hBefore⟩ := h.places i v hPlace
  rw [hLaid.holds_iff hFound, units_take_succ hFound, units_take_succ hPlace, hBefore,
    Nat.add_assoc]

theorem selected_iff (h : c.SpacedIn origin gap) (hLaid : origin.IsLaidOut) {accountId : Nat}
    {userId : String} :
    c.selectVariation? accountId userId = some v ↔
      v ∈ c.variations ∧ v.range.any (·.contains (c.accountBucket accountId userId)) := by
  have hMem : ∀ w ∈ c.variations, w ∈ origin.variations := by
    intro w hw
    obtain ⟨i, hPlace⟩ := List.mem_iff_getElem?.mp hw
    obtain ⟨place, hFound, -⟩ := h.places i w hPlace
    exact List.mem_of_getElem? hFound
  exact selected_iff_of_unique (fun _ hv _ hw => hLaid.unique (hMem _ hv) (hMem _ hw)) v

end SpacedIn

namespace RampsTo

/-- The gate opens wider with the traffic. -/
theorem isMember (h : c.RampsTo d) (hKind : c.kind.isSingleVariation = false)
    (hKind' : d.kind.isSingleVariation = false) {userId : String} (hMember : c.isMember userId) :
    d.isMember userId := by
  rw [isMember_of_several hKind, campaign_bucket_eq h.seed] at hMember
  rw [isMember_of_several hKind']
  exact Binary64.atMost_trans hMember h.traffic

theorem accountBucket_eq (h : c.RampsTo d) (accountId : Nat) (userId : String) :
    c.accountBucket accountId userId = d.accountBucket accountId userId :=
  account_bucket_eq h.seed accountId userId _

theorem units_prefix (h : c.RampsTo d) : c.units <+: d.units := by
  have hUnits := h.weights.map fun weight => min (BucketRange.unitsOfWeight weight) bucketSpace
  simpa only [units, List.map_map, Function.comp_def] using hUnits

/-- Each place up to the last one of `c` begins in both at the same bucket. -/
theorem units_before (h : c.RampsTo d) (hPlace : i ≤ c.variations.length) :
    d.units.take i = c.units.take i := by
  obtain ⟨added, hAdded⟩ := h.units_prefix
  have hLength : i ≤ c.units.length := by simpa [units] using hPlace
  rw [← hAdded, List.take_append_of_le_length hLength]

/-- The variation at a place holds the same buckets in both, if the same number is left out before
it. -/
theorem holds_at (h : c.RampsTo d) (hLaid : origin.IsLaidOut) (hLaid' : origin'.IsLaidOut)
    (hSpaced : c.SpacedIn origin gap) (hSpaced' : d.SpacedIn origin' gap)
    (hPlace : c.variations[i]? = some v) {b : Nat} (hHolds : v.range.any (·.contains b)) :
    ∃ w, d.variations[i]? = some w ∧ w.range.any (·.contains b) := by
  have hBound : i < c.variations.length := (List.getElem?_eq_some_iff.mp hPlace).1
  have hLength : c.variations.length ≤ d.variations.length := by
    simpa using h.weights.length_le
  have hBuckets := (hSpaced.holds_iff hLaid hPlace).mp hHolds
  have hPlace' : d.variations[i]? = some d.variations[i] := List.getElem?_eq_getElem (by omega)
  refine ⟨d.variations[i], hPlace', (hSpaced'.holds_iff hLaid' hPlace').mpr ?_⟩
  rwa [h.units_before (by omega), h.units_before (by omega)]

/-- Who gets the variation at a place of `c` gets the one at that place of `d`. -/
theorem allot (h : c.RampsTo d) (hKind : c.kind.isSingleVariation = false)
    (hKind' : d.kind.isSingleVariation = false) (hLaid : origin.IsLaidOut)
    (hLaid' : origin'.IsLaidOut) (hSpaced : c.SpacedIn origin gap)
    (hSpaced' : d.SpacedIn origin' gap) (hPlace : c.variations[i]? = some v) {accountId : Nat}
    {userId : String} (hAllot : c.allot? accountId userId = some v) :
    ∃ w, d.variations[i]? = some w ∧ d.allot? accountId userId = some w := by
  rw [allot?] at hAllot
  split at hAllot
  · cases hAllot
  · rename_i hMember
    rw [hKind, if_neg Bool.false_ne_true, hSpaced.selected_iff hLaid] at hAllot
    have hMember : c.isMember userId := by simpa using hMember
    have hMember' : d.isMember userId := h.isMember hKind hKind' hMember
    obtain ⟨w, hPlace', hHolds⟩ := h.holds_at hLaid hLaid' hSpaced hSpaced' hPlace hAllot.2
    refine ⟨w, hPlace', ?_⟩
    rw [allot?, hMember', hKind', Bool.not_true, if_neg Bool.false_ne_true,
      if_neg Bool.false_ne_true, hSpaced'.selected_iff hLaid', ← h.accountBucket_eq]
    exact ⟨List.mem_of_getElem? hPlace', hHolds⟩

end RampsTo

end Campaign

namespace Settings

open Campaign

variable {s s' : Settings} {c d : Campaign}

/-- A campaign of the settings, by itself or as a rule links it. The variations that the rule leaves
out before the one at place `i` take `gap i` buckets. -/
def HasSpaced (s : Settings) (c : Campaign) (gap : Nat → Nat) : Prop :=
  ∃ origin ∈ s.campaigns, c.SpacedIn origin gap

/-- Nothing is left out of the campaigns of the settings themselves. -/
theorem hasSpaced_of_mem (h : c ∈ s.campaigns) : s.HasSpaced c fun _ => 0 :=
  ⟨c, h, spacedIn_of_all rfl⟩

/-- Nothing is left out by a rule that names no variation. -/
theorem hasSpaced_of_rule (h : c ∈ s.campaigns) {r : Rule} (hAll : r.variationId = none) :
    s.HasSpaced (c.linkedBy r) fun _ => 0 :=
  ⟨c, h, spacedIn_of_all (by simp [linkedBy, hAll])⟩

/-- Every campaign of the settings has its gaps. -/
theorem Ready.hasSpaced (hReady : s.Ready) (hHas : s.Has c) : ∃ gap, s.HasSpaced c gap := by
  rcases hHas with hCampaign | ⟨f, hFeature, hLinked⟩
  · exact ⟨_, hasSpaced_of_mem hCampaign⟩
  · obtain ⟨origin, -, hOrigin, hNarrow⟩ := hReady.origin hFeature hLinked
    obtain ⟨gap, hSpaced⟩ := hNarrow.spacedIn
    exact ⟨gap, origin, hOrigin, hSpaced⟩

/-- Raising traffic moves nobody, and sister campaigns agree. Whoever an experiment gives the
variation at some place gets the one at that place from an experiment of the same seed that lets in
no fewer users and has at most added variations at its end, in the same settings or in others, where
rules leave out as many buckets before it in the one as in the other; and whoever is in a campaign
of a single variation is in one of the same seed with no less weight. -/
theorem Ready.traffic_ramps (hReady : s.Ready) (hReady' : s'.Ready) (accountId : Nat)
    (userId : String) :
    (c.kind = .ab → d.kind = .ab → c.RampsTo d →
      ∀ gap, s.HasSpaced c gap → s'.HasSpaced d gap →
        ∀ (i : Nat) (v : Variation), c.variations[i]? = some v →
          c.allot? accountId userId = some v →
            ∃ w, d.variations[i]? = some w ∧ d.allot? accountId userId = some w) ∧
    (c.kind.isSingleVariation → d.kind.isSingleVariation → ∀ v w,
      c.variations.head? = some v → d.variations.head? = some w → c.WeighsTo v d w →
        c.isMember userId → d.isMember userId) := by
  constructor
  · rintro hKind hKind' hRamps gap ⟨origin, hOrigin, hSpaced⟩ ⟨origin', hOrigin', hSpaced'⟩ i v
      hPlace hAllot
    have hLaid := hReady.isLaidOut hOrigin (hSpaced.kind_eq ▸ hKind)
    have hLaid' := hReady'.isLaidOut hOrigin' (hSpaced'.kind_eq ▸ hKind')
    exact hRamps.allot (by rw [hKind]; rfl) (by rw [hKind']; rfl) hLaid hLaid' hSpaced hSpaced'
      hPlace hAllot
  · intro hKind hKind' v w hFirst hFirst' hWeighs hMember
    exact hWeighs.isMember hKind hKind' hFirst hFirst' hMember

end Settings

/-- A feature that links a campaign for the variations of one id only. -/
def Feature.narrow (id : Nat) (key : String) (campaignId variationId : Nat) : Feature where
  id
  key
  rules := [{ campaignId, variationId }]

namespace Campaign

open BucketSeed

/-- An experiment for half of the users, which leaves half of its bucket space empty. -/
def pilot : Campaign :=
  { Campaign.small .ab 1 with
    salt := some "S"
    percentTraffic := 50
    variations := [{ id := 1, weight := 30 }, { id := 2, weight := 20 }] }

/-- The sister of the pilot, for all users and with one variation more. -/
def sister : Campaign :=
  { Campaign.small .ab 2 with
    salt := some "S"
    variations := [
      { id := 7, weight := 30 }, { id := 8, weight := 20 }, { id := 9, weight := 50 }] }

/-- An experiment with a variation for each half of its users. -/
def halved : Campaign :=
  { Campaign.small .ab 1 with
    variations := [{ id := 1, weight := 50 }, { id := 2, weight := 50 }] }

/-- A campaign of one variation with a salt. -/
def salted (kind : CampaignKind) (id : Nat) (weight : Binary64) : Campaign :=
  { Campaign.small kind id with variations := [{ id := 1, weight, salt := some "R" }] }

/-- A campaign with its ranges, as a rule links it for the variations of one id. -/
def only (c : Campaign) (variationId : Nat) : Campaign :=
  c.withRanges.linkedBy { campaignId := c.id, variationId }

theorem pilot_rampsTo_sister : pilot.withRanges.RampsTo sister.withRanges where
  seed := (campaignPart_salted 1 (by decide)).trans (campaignPart_salted 2 (by decide)).symm
  traffic := by decide +kernel
  weights := by decide +kernel

theorem second_rampsTo_second : (pilot.only 2).RampsTo (sister.only 8) where
  seed := (campaignPart_salted 1 (by decide)).trans (campaignPart_salted 2 (by decide)).symm
  traffic := by decide +kernel
  weights := by decide +kernel

theorem pilot_variations : pilot.withRanges.variations =
    [{ id := 1, weight := 30, range := some ⟨1, 3000⟩ },
      { id := 2, weight := 20, range := some ⟨3001, 5000⟩ }] := by
  have hRanges : BucketRange.sequential (pilot.variations.map (·.weight)) =
      [some ⟨1, 3000⟩, some ⟨3001, 5000⟩] := by decide +kernel
  rw [withRanges_variations rfl, hRanges]
  rfl

theorem sister_variations : sister.withRanges.variations =
    [{ id := 7, weight := 30, range := some ⟨1, 3000⟩ },
      { id := 8, weight := 20, range := some ⟨3001, 5000⟩ },
      { id := 9, weight := 50, range := some ⟨5001, 10000⟩ }] := by
  have hRanges : BucketRange.sequential (sister.variations.map (·.weight)) =
      [some ⟨1, 3000⟩, some ⟨3001, 5000⟩, some ⟨5001, 10000⟩] := by decide +kernel
  rw [withRanges_variations rfl, hRanges]
  rfl

theorem halved_variations : halved.withRanges.variations =
    [{ id := 1, weight := 50, range := some ⟨1, 5000⟩ },
      { id := 2, weight := 50, range := some ⟨5001, 10000⟩ }] := by
  have hRanges : BucketRange.sequential (halved.variations.map (·.weight)) =
      [some ⟨1, 5000⟩, some ⟨5001, 10000⟩] := by decide +kernel
  rw [withRanges_variations rfl, hRanges]
  rfl

theorem only_variations (c : Campaign) (variationId : Nat) :
    (c.only variationId).variations = c.withRanges.variations.filter (·.id == variationId) := rfl

theorem only_narrowedFrom (c : Campaign) (variationId : Nat) :
    (c.only variationId).NarrowedFrom c.withRanges := linkedBy_narrowedFrom _ _

/-- This user is let in and is in the bucket of the second variation, be it linked alone or not. -/
theorem pilot_allot :
    pilot.withRanges.allot? 1 "u" = pilot.withRanges.variations[1]? ∧
      (pilot.only 2).allot? 1 "u" = (pilot.only 2).variations[0]? :=
  ⟨allot?_of_slot rfl (by decide +kernel) (by decide +kernel),
    allot?_of_slot rfl (by decide +kernel) (by decide +kernel)⟩

theorem salted_first {kind : CampaignKind} (hKind : kind.isSingleVariation) (id : Nat)
    (weight : Binary64) :
    (salted kind id weight).withRanges.variations.head? =
      some { id := 1, weight, salt := some "R", range := BucketRange.alone weight } := by
  simp [withRanges, salted, small, hKind]

end Campaign

namespace Settings

open Campaign

/-- The pilot and its sister, whole and for their second variations only, and two campaigns of a
single variation. -/
def sisters : Settings :=
  { accountId := 1
    campaigns := [pilot, sister, salted .rollout 3 50, salted .personalize 4 75]
    features := [.small 1 "f" [3, 1], .small 2 "g" [4, 2], .narrow 3 "h" 1 2, .narrow 4 "k" 2 8] :
      Settings }.link

/-- A user of the pilot stays with the second variation in its sister, where the rules name that
variation too. -/
theorem sisters_ramp :
    sisters.Ready ∧ sisters.Has (pilot.only 2) ∧ sisters.Has (sister.only 8) ∧
      (∃ w, sister.withRanges.variations[1]? = some w ∧
        sister.withRanges.allot? 1 "u" = some w) ∧
      (∃ w, (sister.only 8).variations[0]? = some w ∧ (sister.only 8).allot? 1 "u" = some w) ∧
      (salted .personalize 4 75).withRanges.isMember "u" := by
  have hReady : sisters.Ready := ⟨⟨_, rfl, rfl⟩, by decide +kernel⟩
  have hLinked : sisters.Has (pilot.only 2) :=
    Or.inr ⟨_, List.mem_of_getElem? (i := 2) rfl, List.mem_singleton.mpr rfl⟩
  have hLinked' : sisters.Has (sister.only 8) :=
    Or.inr ⟨_, List.mem_of_getElem? (i := 3) rfl, List.mem_singleton.mpr rfl⟩
  have hPilot : pilot.withRanges ∈ sisters.campaigns := List.mem_of_getElem? (i := 0) rfl
  have hSister : sister.withRanges ∈ sisters.campaigns := List.mem_of_getElem? (i := 1) rfl
  -- In both, the rule for the second variation leaves out one of thirty percent.
  have hSpaced : sisters.HasSpaced (pilot.only 2) fun _ => 3000 :=
    ⟨_, hPilot, (only_narrowedFrom _ _).spacedIn_of_single
      (by simp [only_variations, pilot_variations]) (congrArg (·[1]?) pilot_variations)
      (by decide +kernel)⟩
  have hSpaced' : sisters.HasSpaced (sister.only 8) fun _ => 3000 :=
    ⟨_, hSister, (only_narrowedFrom _ _).spacedIn_of_single
      (by simp [only_variations, sister_variations]) (congrArg (·[1]?) sister_variations)
      (by decide +kernel)⟩
  obtain ⟨hWhole, hSecond⟩ := pilot_allot
  refine ⟨hReady, hLinked, hLinked', ?_, ?_, ?_⟩
  · have hPlace := congrArg (·[1]?) pilot_variations
    exact (hReady.traffic_ramps hReady 1 "u").1 rfl rfl pilot_rampsTo_sister _
      (hasSpaced_of_mem hPilot) (hasSpaced_of_mem hSister) 1 _ hPlace (hWhole.trans hPlace)
  · have hPlace : (pilot.only 2).variations[0]? =
        some { id := 2, weight := 20, range := some ⟨3001, 5000⟩ } := by
      simp [only_variations, pilot_variations]
    exact (hReady.traffic_ramps hReady 1 "u").1 rfl rfl second_rampsTo_second _ hSpaced hSpaced' 0 _
      hPlace (hSecond.trans hPlace)
  · have hFirst : (salted .rollout 3 50).withRanges.variations.head? = _ := salted_first rfl 3 50
    have hFirst' : (salted .personalize 4 75).withRanges.variations.head? = _ :=
      salted_first rfl 4 75
    exact (hReady.traffic_ramps hReady 1 "u").2 rfl rfl _ _ hFirst hFirst'
      ⟨rfl, by decide +kernel⟩ (by decide +kernel)

/-- A feature that shows the second of two variations only, and one that shows both. -/
def halves : Settings :=
  { accountId := 1
    campaigns := [halved]
    features := [.narrow 1 "narrow" 1 2, .small 2 "whole" [1]] : Settings }.link

/-- A rule leaves a variation in its buckets. Whoever is in those of the second one gets what stands
first where the rule names it, and not what stands first where nothing is left out. -/
theorem halves_move :
    halves.Ready ∧ halves.Has (halved.only 2) ∧ halves.Has halved.withRanges ∧
      (halved.only 2).kind = .ab ∧ halved.withRanges.kind = .ab ∧
      (halved.only 2).RampsTo halved.withRanges ∧
      (∃ v, (halved.only 2).variations[0]? = some v ∧ (halved.only 2).allot? 1 "u" = some v) ∧
      ¬∃ w, halved.withRanges.variations[0]? = some w ∧
        halved.withRanges.allot? 1 "u" = some w := by
  have hReady : halves.Ready := ⟨⟨_, rfl, rfl⟩, by decide +kernel⟩
  have hLinked : halves.Has (halved.only 2) :=
    Or.inr ⟨_, List.mem_of_getElem? (i := 0) rfl, List.mem_singleton.mpr rfl⟩
  have hCampaign : halves.Has halved.withRanges := Or.inl (List.mem_of_getElem? (i := 0) rfl)
  have hRamps : (halved.only 2).RampsTo halved.withRanges :=
    ⟨rfl, by decide +kernel, by decide +kernel⟩
  have hNarrow : (halved.only 2).allot? 1 "u" = (halved.only 2).variations[0]? :=
    allot?_of_slot rfl (by decide +kernel) (by decide +kernel)
  have hWhole : halved.withRanges.allot? 1 "u" = halved.withRanges.variations[1]? :=
    allot?_of_slot rfl (by decide +kernel) (by decide +kernel)
  refine ⟨hReady, hLinked, hCampaign, rfl, rfl, hRamps, ?_, ?_⟩
  · rw [hNarrow, only_variations, halved_variations]
    exact ⟨_, rfl, rfl⟩
  · rw [hWhole, halved_variations]
    simp

end Settings

end FlagDecision
