import FlagDecision.Allotment
import FlagDecision.Proofs.Linking
import FlagDecision.Proofs.Rounding
import Mathlib.Algebra.Order.BigOperators.Group.List

/-! The bucket space. A hash is scaled to a bucket without rounding error, so no user is
outside the space. The variations of an experiment take the space from its beginning,
one after the other without gaps, so each bucket up to the total of their units is in
the range of one variation, and both ways to look for it find that one. -/
namespace FlagDecision

namespace Binary64

/-- Fractions over a power of two are numbers. -/
theorem representable_div_two_pow {n k : Nat} (hDigits : n < 2 ^ precision) (hLeast : k ≤ 1074) :
    Representable ((n : Rat) / (2 ^ k : Nat)) := by
  refine ⟨n, -k, hDigits, ?_, ?_, ?_⟩
  · simp only [leastExponent]
    omega
  · simp only [greatestExponent]
    omega
  · rw [zpow_neg, zpow_natCast, div_eq_mul_inv]
    push_cast
    rfl

end Binary64

namespace Bucket

open Binary64

/-- Scaling a hash is exact, for spaces of up to `2 ^ 20` buckets. -/
theorem scale_eq (hash : UInt32) {max : Nat} (hMax : max ≤ 2 ^ 20) :
    scale hash max = hash.toNat * max / 2 ^ 32 + 1 := by
  have hHash : hash.toNat < 2 ^ 32 := hash.toNat_lt
  have hProduct : hash.toNat * max ≤ 2 ^ 32 * 2 ^ 20 := Nat.mul_le_mul hHash.le hMax
  have hHashIs : (ofNat hash.toNat).Is hash.toNat := ofNat_is (by simp only [precision]; omega)
  have hSpaceIs : (ofNat (2 ^ 32)).Is (2 ^ 32 : Nat) := ofNat_is (by decide)
  have hMaxIs : (ofNat max).Is max := ofNat_is (by simp only [precision]; omega)
  have hOneIs : (1 : Binary64).Is (1 : Nat) := ofNat_is (by decide)
  -- All three results are whole numbers of at most 53 digits over the size of the hash space.
  have hExact : ∀ n : Nat, n < 2 ^ 53 → Representable ((n : Rat) / (2 ^ 32 : Nat)) := fun n hn =>
    representable_div_two_pow hn (by decide)
  have hScaled : (max : Rat) * (hash.toNat / (2 ^ 32 : Nat)) =
      (hash.toNat * max : Nat) / (2 ^ 32 : Nat) := by
    push_cast
    ring
  have hShifted : ((hash.toNat * max : Nat) : Rat) / (2 ^ 32 : Nat) + (1 : Nat) =
      (hash.toNat * max + 2 ^ 32 : Nat) / (2 ^ 32 : Nat) := by
    push_cast
    ring
  have hRatioIs := hHashIs.div hSpaceIs (by norm_num) (hExact _ (by omega))
  have hScaledIs := hMaxIs.mul hRatioIs (hScaled ▸ hExact _ (by omega))
  rw [hScaled] at hScaledIs
  have hShiftedIs := hScaledIs.add hOneIs (hShifted ▸ hExact _ (by omega))
  rw [hShifted] at hShiftedIs
  have hFloor : ((hash.toNat * max + 2 ^ 32 : Nat) : Int) / ((2 ^ 32 : Nat) : Int) =
      (hash.toNat * max / 2 ^ 32 + 1 : Nat) := by
    rw [← Int.natCast_ediv, Nat.add_div_right _ (by norm_num)]
  rw [scale, Nat.pow_eq, hShiftedIs.floor, Rat.floor_natCast_div_natCast, Option.getD_some, hFloor,
    clampNat, Int.toNat_natCast]
  omega

/-- Every user is in a bucket of the space. -/
theorem value_mem (seed : String) {max : Nat} (hSome : 1 ≤ max) (hMax : max ≤ 2 ^ 20) :
    1 ≤ value seed max ∧ value seed max ≤ max := by
  have hHash : (hash seed).toNat < 2 ^ 32 := (hash seed).toNat_lt
  rw [value, scale_eq _ hMax]
  have hBelow : (hash seed).toNat * max / 2 ^ 32 < max :=
    Nat.div_lt_of_lt_mul (Nat.mul_lt_mul_of_pos_right hHash hSome)
  omega

end Bucket

namespace BucketRange

variable {units : List Nat} {i j b : Nat}

@[simp] theorem layOut_length (used : Nat) (units : List Nat) :
    (layOut used units).length = units.length := by
  induction units generalizing used with
  | nil => rfl
  | cons u rest ih =>
      rw [layOut]
      split <;> simp [ih]

/-- What is laid out at a place begins after all that comes before it. -/
theorem layOut_getElem? (used : Nat) {u : Nat} (h : units[i]? = some u) :
    (layOut used units)[i]? = some (if u = 0 then none
      else some ⟨used + (units.take i).sum + 1, used + (units.take (i + 1)).sum⟩) := by
  induction units generalizing used i with
  | nil => simp at h
  | cons first rest ih =>
      cases i with
      | zero =>
          obtain rfl : first = u := by simpa using h
          rw [layOut]
          split <;> simp
      | succ i =>
          have hRest : rest[i]? = some u := by simpa using h
          rw [layOut]
          split
          · rename_i hZero
            simp [ih used hRest, hZero]
          · simp [ih (used + first) hRest, add_assoc]

/-- A bucket has its place in at most one of the parts laid end to end. -/
theorem place_unique (hi : (units.take i).sum < b) (hi' : b ≤ (units.take (i + 1)).sum)
    (hj : (units.take j).sum < b) (hj' : b ≤ (units.take (j + 1)).sum) : i = j := by
  have hMono := List.monotone_sum_take units
  rcases Nat.lt_trichotomy i j with hLess | hSame | hGreater
  · have : (units.take (i + 1)).sum ≤ (units.take j).sum := hMono hLess
    omega
  · exact hSame
  · have : (units.take (j + 1)).sum ≤ (units.take i).sum := hMono hGreater
    omega

/-- Ranges laid end to end hold the buckets of their whole width. -/
theorem layOut_holds_iff (used : Nat) (units : List Nat) (b : Nat) :
    (∃ range ∈ layOut used units, range.any (·.contains b)) ↔
      used < b ∧ b ≤ used + units.sum := by
  induction units generalizing used with
  | nil => simp [layOut]
  | cons u rest ih =>
      rw [layOut]
      split
      · rename_i hNone
        simp [ih, hNone]
      · rw [List.exists_mem_cons_iff, ih, List.sum_cons]
        simp only [Option.any_some, contains, Bool.and_eq_true, decide_eq_true_eq]
        omega

end BucketRange

namespace Campaign

open BucketRange

variable {c : Campaign} {v : Variation} {i b : Nat}

/-- The units of the bucket space that the variations take. -/
def units (c : Campaign) : List Nat :=
  c.variations.map fun v => min (unitsOfWeight v.weight) bucketSpace

/-- The variations take the bucket space one after the other. -/
def IsLaidOut (c : Campaign) : Prop :=
  c.variations.map (·.range) = sequential (c.variations.map (·.weight))

theorem sequential_weights (c : Campaign) :
    sequential (c.variations.map (·.weight)) = layOut 0 c.units := by
  rw [sequential, units, List.map_map]
  rfl

theorem withRanges_variations (hKind : c.kind = .ab) :
    c.withRanges.variations = (c.variations.zip (sequential (c.variations.map (·.weight)))).map
      fun placed => { placed.1 with range := placed.2 } := by
  simp [withRanges, hKind, CampaignKind.isSingleVariation]

/-- Linking lays out the variations of an experiment with several variations. -/
theorem withRanges_isLaidOut (c : Campaign) (hKind : c.kind = .ab) : c.withRanges.IsLaidOut := by
  have hRanges := withRanges_variations hKind
  have hLength : (sequential (c.variations.map (·.weight))).length = c.variations.length := by
    simp [sequential]
  have hWeights : c.withRanges.variations.map (·.weight) = c.variations.map (·.weight) := by
    rw [hRanges, List.map_map]
    exact (List.map_map (f := Prod.fst) (g := (·.weight))).symm.trans
      (congrArg _ (List.map_fst_zip hLength.ge))
  rw [IsLaidOut, hWeights, hRanges, List.map_map]
  exact List.map_snd_zip hLength.le

/-- The variation at a place has the range of its units, after all variations before it. -/
theorem IsLaidOut.range_eq (h : c.IsLaidOut) (hPlace : c.variations[i]? = some v) :
    v.range = if min (unitsOfWeight v.weight) bucketSpace = 0 then none
      else some ⟨1 + (c.units.take i).sum, (c.units.take (i + 1)).sum⟩ := by
  have hUnits : c.units[i]? = some (min (unitsOfWeight v.weight) bucketSpace) := by
    simp [units, hPlace]
  have hRange : (c.variations.map (·.range))[i]? = some v.range := by simp [hPlace]
  rw [h, sequential_weights, layOut_getElem? 0 hUnits] at hRange
  simpa [add_comm] using (Option.some.inj hRange).symm

/-- The units up to a variation are those before it and its own. -/
theorem units_take_succ (hPlace : c.variations[i]? = some v) :
    (c.units.take (i + 1)).sum =
      (c.units.take i).sum + min (unitsOfWeight v.weight) bucketSpace := by
  obtain ⟨hPlaced, hUnits⟩ : ∃ hi : i < c.units.length, c.units[i] =
      min (unitsOfWeight v.weight) bucketSpace := by
    refine List.getElem?_eq_some_iff.mp ?_
    simp [units, hPlace]
  rw [List.sum_take_succ _ _ hPlaced, hUnits]

/-- The variation at a place has the buckets after all variations before it, up to its own units. -/
theorem IsLaidOut.holds_iff (h : c.IsLaidOut) (hPlace : c.variations[i]? = some v) :
    v.range.any (·.contains b) ↔ (c.units.take i).sum < b ∧ b ≤ (c.units.take (i + 1)).sum := by
  rw [h.range_eq hPlace, units_take_succ hPlace]
  split
  · rename_i hZero
    simp [hZero]
  · simp only [Option.any_some, contains, Bool.and_eq_true, decide_eq_true_eq]
    omega

/-- At most one variation holds a bucket. -/
theorem IsLaidOut.place_eq (h : c.IsLaidOut) {j : Nat} {w : Variation}
    (hPlace : c.variations[i]? = some v) (hHolds : v.range.any (·.contains b))
    (hPlace' : c.variations[j]? = some w) (hHolds' : w.range.any (·.contains b)) : i = j := by
  obtain ⟨hLow, hHigh⟩ := (h.holds_iff hPlace).mp hHolds
  obtain ⟨hLow', hHigh'⟩ := (h.holds_iff hPlace').mp hHolds'
  exact place_unique hLow hHigh hLow' hHigh'

/-- The buckets that some variation holds are those up to the total. -/
theorem IsLaidOut.held_iff (h : c.IsLaidOut) :
    (∃ v ∈ c.variations, v.range.any (·.contains b)) ↔ 1 ≤ b ∧ b ≤ c.units.sum := by
  have hHeld := layOut_holds_iff 0 c.units b
  rw [← sequential_weights, ← h, Nat.zero_add] at hHeld
  simpa only [List.mem_map, exists_exists_and_eq_and, Nat.lt_iff_add_one_le] using hHeld

/-- The place of the variation that holds a bucket. -/
def slot? (c : Campaign) (bucket : Nat) : Option Nat :=
  c.variations.findIdx? fun v => v.range.any (·.contains bucket)

/-- The bucket by which a user of an account gets a variation. -/
def accountBucket (c : Campaign) (accountId : Nat) (userId : String) : Nat :=
  (BucketSeed.account c.id c.salt accountId).bucket userId bucketSpace

/-- The variations of a campaign part the bucket space among them, and a bucket leads to its
variation, by its range as well as by the weights. -/
structure Partitions (c : Campaign) : Prop where
  ranged : ∀ (i : Nat) (v : Variation), c.variations[i]? = some v →
    v.range = if min (unitsOfWeight v.weight) bucketSpace = 0 then none
      else some ⟨1 + (c.units.take i).sum, (c.units.take (i + 1)).sum⟩
  disjoint : ∀ (i j : Nat) (v w : Variation) (b : Nat), c.variations[i]? = some v →
    c.variations[j]? = some w → v.range.any (·.contains b) → w.range.any (·.contains b) → i = j
  contiguous : ∀ b, (∃ v ∈ c.variations, v.range.any (·.contains b)) ↔ 1 ≤ b ∧ b ≤ c.units.sum
  selected : ∀ accountId userId v, c.selectVariation? accountId userId = some v ↔
    v ∈ c.variations ∧ v.range.any (·.contains (c.accountBucket accountId userId))
  unselected : ∀ accountId userId, c.selectVariation? accountId userId = none ↔
    c.units.sum < c.accountBucket accountId userId
  placed : ∀ accountId userId, c.selectVariation? accountId userId =
    (c.slot? (c.accountBucket accountId userId)).bind fun i => c.variations[i]?
  picked : ∀ (α : Type) (candidates : List (α × Binary64)),
    candidates.map (·.2) = c.variations.map (·.weight) → ∀ b,
      pickByWeight candidates b = (c.slot? b).bind fun i => (candidates.map (·.1))[i]?

/-- Where at most one variation holds the bucket of a user, that one is selected. -/
theorem selected_iff_of_unique {accountId : Nat} {userId : String}
    (hUnique : ∀ v ∈ c.variations, ∀ w ∈ c.variations,
      v.range.any (·.contains (c.accountBucket accountId userId)) →
        w.range.any (·.contains (c.accountBucket accountId userId)) → v = w) (v : Variation) :
    c.selectVariation? accountId userId = some v ↔
      v ∈ c.variations ∧ v.range.any (·.contains (c.accountBucket accountId userId)) := by
  rw [selectVariation?]
  constructor
  · intro hFound
    exact ⟨List.mem_of_find?_eq_some hFound, (List.find?_eq_some_iff_append.mp hFound).1⟩
  · rintro ⟨hMem, hHolds⟩
    obtain ⟨w, hFound⟩ : ∃ w, c.variations.find? (fun v =>
        v.range.any (·.contains (c.accountBucket accountId userId))) = some w :=
      Option.isSome_iff_exists.mp (List.find?_isSome.mpr ⟨v, hMem, hHolds⟩)
    obtain rfl := hUnique v hMem w (List.mem_of_find?_eq_some hFound) hHolds
      (List.find?_eq_some_iff_append.mp hFound).1
    exact hFound

/-- A bucket leads to one variation. -/
theorem IsLaidOut.unique (h : c.IsLaidOut) {w : Variation} (hv : v ∈ c.variations)
    (hw : w ∈ c.variations) (hHolds : v.range.any (·.contains b))
    (hHolds' : w.range.any (·.contains b)) : v = w := by
  obtain ⟨i, hPlace⟩ := List.mem_iff_getElem?.mp hv
  obtain ⟨j, hPlace'⟩ := List.mem_iff_getElem?.mp hw
  obtain rfl := h.place_eq hPlace hHolds hPlace' hHolds'
  exact Option.some.inj (hPlace.symm.trans hPlace')

theorem IsLaidOut.selected_iff (h : c.IsLaidOut) (accountId : Nat) (userId : String)
    (v : Variation) :
    c.selectVariation? accountId userId = some v ↔
      v ∈ c.variations ∧ v.range.any (·.contains (c.accountBucket accountId userId)) :=
  selected_iff_of_unique (fun _ hv _ hw => h.unique hv hw) v

/-- Every user is in a bucket of the space, so only those beyond the total get no variation. -/
theorem IsLaidOut.unselected_iff (h : c.IsLaidOut) (accountId : Nat) (userId : String) :
    c.selectVariation? accountId userId = none ↔
      c.units.sum < c.accountBucket accountId userId := by
  have hFirst : 1 ≤ c.accountBucket accountId userId :=
    (Bucket.value_mem _ (by decide) (by decide)).1
  have hHeld := h.held_iff (b := c.accountBucket accountId userId)
  rw [← not_iff_not, not_lt, ← ne_eq, ← Option.isSome_iff_ne_none, selectVariation?,
    List.find?_isSome]
  exact hHeld.trans (and_iff_right hFirst)

/-- What stands beside the first element that passes stands at its place. -/
theorem find?_zip_eq {α β : Type} {as : List α} {bs : List β} (hLength : as.length = bs.length)
    (p : β → Bool) :
    ((as.zip bs).find? fun x => p x.2).map (·.1) = (bs.findIdx? p).bind fun i => as[i]? := by
  have hSecond : (as.zip bs).findIdx? (fun x => p x.2) = bs.findIdx? p := by
    rw [← List.map_snd_zip hLength.ge, List.findIdx?_map, List.map_snd_zip hLength.ge]
    rfl
  have hFirst : ∀ i : Nat, ((as.zip bs)[i]?).map (·.1) = as[i]? := fun i => by
    rw [← List.getElem?_map, List.map_fst_zip hLength.le]
  rw [List.find?_eq_bind_findIdx?_getElem?, hSecond, Option.map_bind]
  exact congrArg _ (funext hFirst)

/-- The same weights lead to the same place. -/
theorem IsLaidOut.picked (h : c.IsLaidOut) {α : Type} {candidates : List (α × Binary64)}
    (hWeights : candidates.map (·.2) = c.variations.map (·.weight)) (b : Nat) :
    pickByWeight candidates b = (c.slot? b).bind fun i => (candidates.map (·.1))[i]? := by
  have hLength : candidates.length = (c.variations.map (·.range)).length := by
    simpa using congrArg List.length hWeights
  have hFound := find?_zip_eq hLength (fun range => range.any (·.contains b))
  rw [List.findIdx?_map] at hFound
  have hPicked : pickByWeight candidates b =
      (((candidates.zip (c.variations.map (·.range))).find? fun x =>
        x.2.any (·.contains b)).map (·.1)).map (·.1) := by
    rw [pickByWeight, hWeights, ← h, Option.map_map]
    rfl
  rw [hPicked, hFound, Option.map_bind]
  simp only [slot?, Function.comp_def, List.getElem?_map]

theorem IsLaidOut.partitions (h : c.IsLaidOut) : c.Partitions where
  ranged _ _ := h.range_eq
  disjoint _ _ _ _ _ hPlace hPlace' hHolds hHolds' := h.place_eq hPlace hHolds hPlace' hHolds'
  contiguous _ := h.held_iff
  selected := h.selected_iff
  unselected := h.unselected_iff
  placed _ _ := List.find?_eq_bind_findIdx?_getElem?
  picked _ _ := h.picked

end Campaign

namespace Settings

variable {s : Settings} {c : Campaign}

theorem Ready.isLaidOut (hReady : s.Ready) (hCampaign : c ∈ s.campaigns) (hKind : c.kind = .ab) :
    c.IsLaidOut := by
  obtain ⟨raw, rfl⟩ := hReady.ranged hCampaign
  exact raw.withRanges_isLaidOut hKind

/-- In linked settings, every experiment with several variations parts the bucket space among
them. -/
theorem Ready.experiment_partitions (hReady : s.Ready) (hCampaign : c ∈ s.campaigns)
    (hKind : c.kind = .ab) : c.Partitions :=
  (hReady.isLaidOut hCampaign hKind).partitions

/-- Settings with an experiment whose weights are whole, negative, zero, fractional, and too
large. -/
def split : Settings :=
  { accountId := 1
    campaigns := [
      { Campaign.small .ab 1 with
        variations := [
          { id := 1, weight := 33 }, { id := 2, weight := -5 }, { id := 3, weight := 0 },
          { id := 4, weight := 1 / 8 }, { id := 5, weight := 1000 }] }]
    features := [.small 1 "f" [1]] : Settings }.link

theorem split_partitions :
    split.Ready ∧ ∀ c ∈ split.campaigns, c.kind = .ab ∧ c.Partitions ∧
      c.units = [3300, 0, 0, 13, 10000] := by
  have hReady : split.Ready := ⟨⟨_, rfl, rfl⟩, by decide +kernel⟩
  have hKind : ∀ c ∈ split.campaigns, c.kind = .ab := by decide +kernel
  have hUnits : ∀ c ∈ split.campaigns, c.units = [3300, 0, 0, 13, 10000] := by decide +kernel
  refine ⟨hReady, fun c hc => ⟨hKind c hc, ?_, hUnits c hc⟩⟩
  exact hReady.experiment_partitions hc (hKind c hc)

end Settings

end FlagDecision
