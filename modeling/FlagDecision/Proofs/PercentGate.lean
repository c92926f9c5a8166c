import FlagDecision.Proofs.LinkedRules
import FlagDecision.Proofs.TrafficRamp

/-! Two gates at one place. Scaling a hash is exact, so the bucket of a user in percent is that in
hundredths of a percent, rounded up. The gate of a rollout asks for the one and the range
of its variation for the other, and where the weight is a whole percentage both let in the
same users. -/
namespace FlagDecision

namespace Binary64.Is

variable {x y : Binary64} {a b : Rat}

/-- Numbers are in the order of their values. -/
theorem atMost_iff (hx : x.Is a) (hy : y.Is b) : x.atMost y ↔ a ≤ b := by
  rw [← hx.toRat, ← hy.toRat]
  obtain ⟨m, e, rfl, -⟩ := hx
  obtain ⟨m', e', rfl, -⟩ := hy
  exact atMost_finite_iff

end Binary64.Is

namespace Bucket

/-- The bucket in percent is the one in hundredths of a percent, rounded up. -/
theorem value_percent (seed : String) :
    (value seed trafficSpace : Int) = ⌈(value seed bucketSpace : Rat) / 100⌉ := by
  have hCeil : ⌈(value seed bucketSpace : Rat) / 100⌉ =
      -(-(value seed bucketSpace : Int) / 100) := by
    exact_mod_cast Rat.ceil_natCast_div_natCast (value seed bucketSpace) 100
  rw [hCeil, value, value, scale_eq _ (by decide), scale_eq _ (by decide)]
  simp only [trafficSpace, bucketSpace]
  omega

end Bucket

namespace BucketRange

open Binary64

/-- A whole percentage takes a hundred buckets for each percent. -/
theorem alone_whole {weight : Binary64} {w : Nat} (hWeight : weight.Is w) (hSome : 1 ≤ w)
    (hMost : w ≤ 100) : alone weight = some ⟨1, 100 * w⟩ := by
  have hHundred : (100 : Binary64).Is (100 : Nat) := ofNat_is (by decide)
  have hUnits : (w : Rat) * (100 : Nat) = (100 * w : Nat) := by
    push_cast
    ring
  have hScaled := hWeight.mul hHundred
    (hUnits ▸ representable_natCast (show 100 * w < 2 ^ precision by simp only [precision]; omega))
  rw [hUnits] at hScaled
  have hFloor := hScaled.floor
  obtain ⟨m, e, hFinite, -⟩ := hScaled
  rw [hFinite] at hFloor
  have hClamp : clampNat bucketSpace (100 * w : Nat) = 100 * w := by
    simp only [clampNat, bucketSpace, Int.toNat_natCast]
    omega
  simp only [alone, hFinite, hFloor, Option.getD_some, Int.floor_natCast, hClamp]
  exact if_pos (by omega)

/-- A range from the first bucket on has the buckets up to its end. -/
theorem contains_first_iff {last bucket : Nat} (hLow : 1 ≤ bucket) :
    (some (⟨1, last⟩ : BucketRange)).any (·.contains bucket) ↔ bucket ≤ last := by
  simp [contains, hLow]

end BucketRange

namespace Campaign

variable {c : Campaign} {v : Variation} {w : Nat}

/-- Whether the bucket in percent is up to a whole percentage can be told by the other bucket. -/
theorem percent_le_iff (seed : String) (w : Nat) :
    Bucket.value seed trafficSpace ≤ w ↔ Bucket.value seed bucketSpace ≤ 100 * w :=
  calc Bucket.value seed trafficSpace ≤ w
      ↔ (Bucket.value seed trafficSpace : Int) ≤ w := Nat.cast_le.symm
    _ ↔ (Bucket.value seed bucketSpace : Rat) / 100 ≤ w := by
      rw [Bucket.value_percent, Int.ceil_le, Int.cast_natCast]
    _ ↔ (Bucket.value seed bucketSpace : Rat) ≤ (100 * w : Nat) := by
      rw [div_le_iff₀ (by norm_num), Nat.cast_mul, mul_comm, Nat.cast_ofNat]
    _ ↔ Bucket.value seed bucketSpace ≤ 100 * w := Nat.cast_le

/-- The gate of a whole percentage lets in the buckets of its range. -/
theorem isMember_iff_range (hKind : c.kind.isSingleVariation) (hFirst : c.variations.head? = some v)
    (hRange : v.range = BucketRange.alone v.weight) (hWeight : v.weight.Is w) (hSome : 1 ≤ w)
    (hMost : w ≤ 100) (userId : String) :
    c.isMember userId ↔
      v.range.any (·.contains ((BucketSeed.campaign c.id v.salt).bucket userId bucketSpace)) := by
  rw [isMember_of_single hKind hFirst, hRange, BucketRange.alone_whole hWeight hSome hMost,
    BucketSeed.bucket, BucketSeed.bucket]
  generalize (BucketSeed.campaign c.id v.salt).text userId = seed
  have hPercent : Bucket.value seed trafficSpace ≤ trafficSpace :=
    (Bucket.value_mem seed (by decide) (by decide)).2
  have hLow : 1 ≤ Bucket.value seed bucketSpace :=
    (Bucket.value_mem seed (by decide) (by decide)).1
  have hDigits : Bucket.value seed trafficSpace < 2 ^ Binary64.precision :=
    hPercent.trans_lt (by decide)
  rw [(Binary64.ofNat_is hDigits).atMost_iff hWeight, Nat.cast_le, percent_le_iff]
  exact (BucketRange.contains_first_iff hLow).symm

end Campaign

namespace Settings

variable {raw : Settings} {c : Campaign} {v : Variation}

theorem range_eq_alone (hRaw : raw.isLinked = false) (hHas : raw.link.Has c)
    (hKind : c.kind.isSingleVariation) (hv : v ∈ c.variations) :
    v.range = BucketRange.alone v.weight := by
  obtain ⟨origin, hOrigin, hOriginKind, hMem⟩ : ∃ origin ∈ raw.link.campaigns,
      origin.kind.isSingleVariation ∧ v ∈ origin.variations := by
    rcases hHas with hCampaign | ⟨f, hFeature, hLinked⟩
    · exact ⟨c, hCampaign, hKind, hv⟩
    · obtain ⟨origin, hOrigin, hNarrow⟩ := linked_narrowedFrom hRaw hFeature hLinked
      exact ⟨origin, hOrigin, hNarrow.kind_eq ▸ hKind, hNarrow.sublist.subset hv⟩
  rw [link_eq hRaw] at hOrigin
  obtain ⟨before, -, rfl⟩ := List.mem_map.mp hOrigin
  obtain ⟨i, hPlace⟩ := List.mem_iff_getElem?.mp hMem
  rw [Campaign.withRanges_getElem?, Option.map_eq_some_iff] at hPlace
  obtain ⟨u, -, rfl⟩ := hPlace
  exact if_pos hOriginKind

/-- Buckets are exact, and so are the gates of rollouts. A hash is scaled to a bucket of a space
as it would be in whole numbers, so every user is in the space; the bucket in percent is that
in hundredths of a percent, rounded up; and where the first variation of a rollout has a whole
percentage for its weight, its range has the buckets of exactly the users that are let in. -/
theorem link_gates_exact (hRaw : raw.isLinked = false) :
    (∀ (seed : String) (max : Nat), 1 ≤ max → max ≤ 2 ^ 20 →
      Bucket.value seed max = (Bucket.hash seed).toNat * max / 2 ^ 32 + 1 ∧
        1 ≤ Bucket.value seed max ∧ Bucket.value seed max ≤ max) ∧
    (∀ seed : String,
      (Bucket.value seed trafficSpace : Int) = ⌈(Bucket.value seed bucketSpace : Rat) / 100⌉) ∧
    ∀ c : Campaign, raw.link.Has c → c.kind.isSingleVariation →
      ∀ v, c.variations.head? = some v → ∀ w : Nat, 1 ≤ w → w ≤ 100 → v.weight.Is w →
        ∀ userId, c.isMember userId ↔ v.range.any
          (·.contains ((BucketSeed.campaign c.id v.salt).bucket userId bucketSpace)) := by
  refine ⟨fun seed max hSome hMax => ?_, Bucket.value_percent, ?_⟩
  · exact ⟨Bucket.scale_eq _ hMax, Bucket.value_mem seed hSome hMax⟩
  · intro c hHas hKind v hFirst w hSome hMost hWeight userId
    have hRange := range_eq_alone hRaw hHas hKind (List.mem_of_mem_head? hFirst)
    exact Campaign.isMember_iff_range hKind hFirst hRange hWeight hSome hMost userId

/-- A rollout for half of the users. -/
def half : Settings :=
  { accountId := 1
    campaigns := [.salted .rollout 3 50]
    features := [.small 1 "f" [3]] }

/-- Of two users one is in the range of the rollout and is let in, the other one neither. -/
theorem half_gates :
    let c := (Campaign.salted .rollout 3 50).withRanges
    let range := BucketRange.alone 50
    let bucket := fun userId => (BucketSeed.campaign c.id (some "R")).bucket userId bucketSpace
    half.isLinked = false ∧ half.link.Has c ∧ c.kind.isSingleVariation ∧
      (50 : Binary64).Is (50 : Nat) ∧
      c.isMember "u" = true ∧ range.any (·.contains (bucket "u")) = true ∧
      c.isMember "v" = false ∧ range.any (·.contains (bucket "v")) = false := by
  intro c range bucket
  have hRaw : half.isLinked = false := rfl
  have hHas : half.link.Has c := Or.inl (List.mem_map_of_mem (List.mem_singleton_self _))
  have hWeight : (50 : Binary64).Is (50 : Nat) := Binary64.ofNat_is (by decide)
  have hGate : ∀ userId, c.isMember userId = range.any (·.contains (bucket userId)) := fun userId =>
    Bool.eq_iff_iff.mpr ((link_gates_exact hRaw).2.2 c hHas rfl _
      (Campaign.salted_first rfl 3 50) 50 (by decide) (by decide) hWeight userId)
  have hIn : c.isMember "u" = true := by decide +kernel
  have hOut : c.isMember "v" = false := by decide +kernel
  exact ⟨hRaw, hHas, rfl, hWeight, hIn, hGate "u" ▸ hIn, hOut, hGate "v" ▸ hOut⟩

end Settings

end FlagDecision
