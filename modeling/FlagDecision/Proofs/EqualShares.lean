import FlagDecision.Proofs.BucketSpace
import FlagDecision.Proofs.RoundingError
import FlagDecision.Proofs.RuleMoves

/-! Equal shares. Each of several candidates gets the same share of the bucket space, rounded
to four decimals of a percent and then up to whole buckets, and the shares are laid end to
end. They take the whole space unless the first rounding loses what the second one would
have kept, and then the users in the last buckets get nobody. -/
namespace FlagDecision

namespace Binary64.Is

variable {x y : Binary64} {a b : Rat}

theorem below_iff (hx : x.Is a) (hy : y.Is b) : x.below y ↔ a < b := by
  rw [← hx.toRat, ← hy.toRat]
  obtain ⟨m, e, rfl, -⟩ := hx
  obtain ⟨m', e', rfl, -⟩ := hy
  rw [below, compare?]
  split
  · rename_i hLess
    simp [hLess]
  · rename_i hNot
    split <;> simp [hNot]

/-- Rounding gives the whole number that is at most a half away, the upper one of two. -/
theorem exists_round (h : x.Is a) :
    ∃ k : Nat, x.round = ofNat k ∧ (k : Rat) ≤ a + 1 / 2 ∧ a + 1 / 2 < k + 1 := by
  have hValue := h.toRat
  have hNonneg : ¬ a < 0 := not_lt.mpr h.nonneg
  have hFloor : (0 : Int) ≤ ⌊a + 1 / 2⌋ := Int.floor_nonneg.mpr (by linarith [h.nonneg])
  have hCast : ((⌊a + 1 / 2⌋.natAbs : Nat) : Rat) = ⌊a + 1 / 2⌋ := by
    rw [← Int.cast_natCast, Int.natAbs_of_nonneg hFloor]
  have hHalf : mkRat 1 2 = 1 / 2 := by rw [Rat.mkRat_eq_div]; norm_num
  obtain ⟨m, e, rfl, -⟩ := h
  refine ⟨⌊a + 1 / 2⌋.natAbs, ?_, ?_, ?_⟩
  · simp only [round, hValue, if_neg hNonneg, hHalf, ofNat]
    rfl
  · rw [hCast]
    exact Int.floor_le _
  · rw [hCast]
    exact Int.lt_floor_add_one _

end Binary64.Is

namespace BucketRange

open Binary64

/-- The units of a weight are those of its hundredfold, rounded up. -/
theorem unitsOfWeight_eq {weight : Binary64} {s t : Rat} (hWeight : weight.Is s) (hSome : 0 < s)
    (hScaled : (weight * 100).Is t) :
    unitsOfWeight weight = clampNat (Nat.pow 2 32 - 1) ⌈t⌉ := by
  have hBelow : below 0 weight = true :=
    ((ofNat_is (show 0 < 2 ^ precision by decide)).below_iff hWeight).mpr (by simpa using hSome)
  have hCeil := hScaled.ceil
  rw [unitsOfWeight, hWeight.isFinite, hBelow, Bool.and_self, if_pos rfl]
  obtain ⟨m, e, hFinite, -⟩ := hScaled
  rw [hFinite] at hCeil ⊢
  simp only [hCeil, Option.getD_some]

end BucketRange

open BucketRange in
/-- Nobody is picked for the buckets after the last range. -/
theorem pickByWeight_eq_none_iff {α : Type} (candidates : List (α × Binary64)) {b : Nat}
    (hFirst : 1 ≤ b) :
    pickByWeight candidates b = none ↔
      (candidates.map fun c => min (unitsOfWeight c.2) bucketSpace).sum < b := by
  have hRanges : layOut 0 (candidates.map fun c => min (unitsOfWeight c.2) bucketSpace) =
      (candidates.zip (sequential (candidates.map (·.2)))).map (·.2) := by
    rw [List.map_snd_zip (by simp [sequential]), sequential, List.map_map]
    rfl
  rw [← not_le, pickByWeight, Option.map_eq_none_iff, List.find?_eq_none]
  have hHeld := layOut_holds_iff 0 (candidates.map fun c => min (unitsOfWeight c.2) bucketSpace) b
  rw [Nat.zero_add, and_iff_right (show 0 < b from hFirst)] at hHeld
  rw [← hHeld, hRanges]
  simp only [not_exists, not_and, List.forall_mem_map]

namespace Group

open Binary64

/-- The buckets that each of `n` candidates takes. -/
def equalUnits (n : Nat) : Nat := min (BucketRange.unitsOfWeight (equalShare n)) bucketSpace

/-- The buckets that a share of `k` units of the fourth decimal takes. -/
def roundedUnits (k : Nat) : Nat :=
  min (BucketRange.unitsOfWeight (Binary64.ofNat k / 10000)) bucketSpace

theorem ofNat_hundred_is : (100 : Binary64).Is 100 := ofNat_is (show 100 < 2 ^ precision by decide)

theorem ofNat_tenThousand_is : (10000 : Binary64).Is 10000 :=
  ofNat_is (show 10000 < 2 ^ precision by decide)

/-- Shares are far from overflow. -/
theorem lt_of_le_billion {value : Rat} (h : value ≤ 10 ^ 9) : value < 2 ^ 1000 :=
  calc value ≤ 10 ^ 9 := h
    _ < 2 ^ 30 := by norm_num
    _ ≤ 2 ^ 1000 := pow_le_pow_right₀ one_le_two (by decide)

/-- Before it is rounded, a share in units of the fourth decimal has a tiny error. -/
theorem share_near {x : Binary64} {a : Rat} (hx : x.Is a) (hHalf : 1 / 2 ≤ a) :
    ∃ d, ((100 : Binary64) / x * 10000).Is d ∧ |d - 1000000 / a| ≤ 1 / 10 ^ 8 := by
  have hPos : 0 < a := by linarith
  have hQuotient : 100 / a ≤ 200 := by
    rw [div_le_iff₀ hPos]
    linarith
  obtain ⟨c, hShare, hNear⟩ := ofNat_hundred_is.div_near hx hPos.ne'
    (lt_of_le_billion (by linarith))
  obtain ⟨hLow, hHigh⟩ := abs_le.mp hNear
  have hMost : c ≤ 201 := by
    rw [precision] at hHigh
    linarith
  obtain ⟨d, hScaled, hNear'⟩ := hShare.mul_near ofNat_tenThousand_is
    (lt_of_le_billion (by linarith))
  obtain ⟨hLow', hHigh'⟩ := abs_le.mp hNear'
  have hSame : 1000000 / a = 100 / a * 10000 := by ring
  refine ⟨d, hScaled, ?_⟩
  rw [precision] at hLow hHigh hLow' hHigh'
  rw [hSame, abs_le]
  constructor <;> linarith

/-- Rounding leaves `k` units of the fourth decimal when a share is at most half a unit away. -/
theorem exists_share {x : Binary64} {a : Rat} (hx : x.Is a) (hHalf : 1 / 2 ≤ a) :
    ∃ k : Nat, ((100 : Binary64) / x * 10000).round = ofNat k ∧
      (k : Rat) ≤ 1000000 / a + 1 / 10 ^ 8 + 1 / 2 ∧
      1000000 / a - 1 / 10 ^ 8 + 1 / 2 < k + 1 := by
  obtain ⟨d, hScaled, hNear⟩ := share_near hx hHalf
  obtain ⟨k, hRound, hLow, hHigh⟩ := hScaled.exists_round
  obtain ⟨hLow', hHigh'⟩ := abs_le.mp hNear
  exact ⟨k, hRound, by linarith, by linarith⟩

/-- The share of up to two million candidates, in whole numbers. -/
theorem equalShare_eq {n : Nat} (hSome : 1 ≤ n) (hMost : n ≤ 2000000) :
    ∃ k : Nat, equalShare n = ofNat k / 10000 ∧ 2000000 ≤ (2 * k + 1) * n ∧
      2 * k * n ≤ 2000000 + n := by
  have hSome' : (1 : Rat) ≤ n := by exact_mod_cast hSome
  have hMost' : (n : Rat) ≤ 2000000 := by exact_mod_cast hMost
  have hPos : (0 : Rat) < n := by linarith
  have hNat : (ofNat n).Is n := ofNat_is (hMost.trans_lt (by decide))
  obtain ⟨k, hRound, hLow, hHigh⟩ := exists_share hNat (by linarith)
  refine ⟨k, congrArg (· / 10000) hRound, ?_, ?_⟩
  -- The error is less than a whole number can tell.
  · have hLess : (2000000 : Rat) < (2 * k + 1) * n + 1 := by
      have := mul_lt_mul_of_pos_right hHigh hPos
      rw [add_mul, sub_mul, div_mul_cancel₀ _ hPos.ne'] at this
      linarith
    exact Nat.lt_add_one_iff.mp (by exact_mod_cast hLess)
  · have hLess : (2 * k * n : Rat) < 2000000 + n + 1 := by
      have := mul_le_mul_of_nonneg_right hLow hPos.le
      rw [add_mul, add_mul, div_mul_cancel₀ _ hPos.ne'] at this
      linarith
    exact Nat.lt_add_one_iff.mp (by exact_mod_cast hLess)

/-- Beyond two million candidates nothing is left of a share. -/
theorem equalShare_eq_zero {n : Nat} (hMany : 2000000 < n) : equalShare n = ofNat 0 / 10000 := by
  refine congrArg (· / 10000) ?_
  have hMany' : (2000001 : Rat) ≤ n := by exact_mod_cast hMany
  have hNear := ofRatio_near n one_pos
  rw [Nat.cast_one, div_one] at hNear
  rcases hNear with ⟨a, hNat, hNear⟩ | ⟨hHuge, -⟩
  · have hLow := (abs_le.mp hNear).1
    rw [precision] at hLow
    have hLarge : 2000000 + 1 / 2 ≤ a := by linarith
    obtain ⟨k, hRound, hLow, -⟩ := exists_share hNat (by linarith)
    have hQuotient : 1000000 / a ≤ 1 / 2 - 1 / 10 ^ 7 := by
      rw [div_le_iff₀ (by linarith)]
      linarith
    have hLess : (k : Rat) < (1 : Nat) := by
      push_cast
      linarith
    rw [ofNat, hRound, Nat.lt_one_iff.mp (Nat.cast_lt.mp hLess)]
  · rw [ofNat, hHuge]
    decide +kernel

/-- A share of `k` units has the buckets for it. -/
theorem le_roundedUnits {k : Nat} (hMost : k ≤ 1000000) : k ≤ 100 * roundedUnits k := by
  obtain rfl | hSome := Nat.eq_zero_or_pos k
  · decide +kernel
  have hSome' : (1 : Rat) ≤ k := by exact_mod_cast hSome
  have hMost' : (k : Rat) ≤ 1000000 := by exact_mod_cast hMost
  have hNat : (ofNat k).Is k := ofNat_is (hMost.trans_lt (by decide))
  obtain ⟨s, hShare, hNear⟩ := hNat.div_near ofNat_tenThousand_is (by norm_num)
    (lt_of_le_billion (by linarith))
  obtain ⟨hLow, hHigh⟩ := abs_le.mp hNear
  rw [precision] at hLow hHigh
  obtain ⟨t, hScaled, hNear'⟩ := hShare.mul_near ofNat_hundred_is (lt_of_le_billion (by linarith))
  obtain ⟨hLow', hHigh'⟩ := abs_le.mp hNear'
  rw [precision] at hLow' hHigh'
  have hUnits := BucketRange.unitsOfWeight_eq hShare (by linarith) hScaled
  have hFirst : (k : Rat) < 100 * ⌈t⌉ + 1 := by linarith [Int.le_ceil t]
  have hFirst' : (k : Int) < 100 * ⌈t⌉ + 1 := by exact_mod_cast hFirst
  have hWord : Nat.pow 2 32 = 4294967296 := rfl
  rw [roundedUnits, hUnits, clampNat, bucketSpace, hWord]
  omega

/-- Whole numbers of buckets up to half of the space are kept, except for three. -/
theorem roundedUnits_hundreds : ∀ q < 50,
    roundedUnits (100 * q) = if q = 7 ∨ q = 14 ∨ q = 28 then q + 1 else q := by
  decide +kernel

/-- Rounded to four decimals, equal shares of `n` candidates still take the whole space: they leave
no rest, or one of at least half a unit of the last decimal for each. Of 1428 candidates each takes
eight buckets only because seven hundredths times a hundred is a bit more than seven. -/
def SharesCover (n : Nat) : Prop :=
  bucketSpace % n = 0 ∨ n ≤ 200 * (bucketSpace % n) ∨ n = 1428

theorem equalUnits_bounds {n : Nat} (hSome : 1 ≤ n) (hMost : n ≤ 2000000) :
    ∃ k : Nat, equalUnits n = roundedUnits k ∧ k ≤ 100 * equalUnits n ∧
      2000000 ≤ (2 * k + 1) * n ∧ 2 * k * n ≤ 2000000 + n := by
  obtain ⟨k, hShare, hLow, hHigh⟩ := equalShare_eq hSome hMost
  have hUnits : equalUnits n = roundedUnits k := by rw [equalUnits, hShare, roundedUnits]
  have hFew : k ≤ 1000000 := by nlinarith
  exact ⟨k, hUnits, hUnits ▸ le_roundedUnits hFew, hLow, hHigh⟩

variable {n q r k u : Nat}

/-- Where the space can be shared without a rest, no share is too small. -/
theorem le_of_no_rest (hSpace : n * q = 10000) (hLow : 2000000 ≤ (2 * k + 1) * n)
    (hUnits : k ≤ 100 * u) : q ≤ u := by
  have hPos : 0 < n := Nat.pos_of_ne_zero (by rintro rfl; simp at hSpace)
  have hTwice : 200 * q ≤ 2 * k + 1 :=
    Nat.le_of_mul_le_mul_right (by linarith) hPos
  omega

/-- Where a rest of half a unit for each is left, the share is rounded up. -/
theorem lt_of_rest (hSpace : n * q + r = 10000) (hRest : 0 < r) (hFew : n < 2000000)
    (hHalf : n ≤ 200 * r) (hLow : 2000000 ≤ (2 * k + 1) * n) (hUnits : k ≤ 100 * u) : q < u := by
  have hPos : 0 < n := Nat.pos_of_ne_zero (by rintro rfl; simp at hLow)
  have hTwice : 200 * q + 1 ≤ 2 * k + 1 :=
    Nat.le_of_mul_le_mul_right (by linarith) hPos
  -- A share of `q` units exactly needs a rest of half a unit exactly, which is never left.
  have hNext : 100 * q ≠ k := by
    rintro rfl
    have hExact : n = 200 * r := by linarith
    have hDivides : r * (200 * q + 1) = 10000 := by
      rw [← hSpace, hExact]
      ring
    have hBound : q < 50 := by
      have := Nat.le_mul_of_pos_left (200 * q + 1) hRest
      omega
    have hNone : ∀ q < 50, 10000 % (200 * q + 1) = 0 → q = 0 := by decide
    obtain rfl := hNone q hBound (hDivides ▸ Nat.mul_mod_left r _)
    omega
  omega

/-- Where less of a rest is left, the share has just the hundreds. -/
theorem eq_hundreds (hSpace : n * q + r = 10000) (hHalf : 200 * r < n)
    (hLow : 2000000 ≤ (2 * k + 1) * n) (hHigh : 2 * k * n ≤ 2000000 + n) : k = 100 * q := by
  have hPos : 0 < n := by omega
  have hBelow : 2 * k < 200 * q + 2 := Nat.lt_of_mul_lt_mul_right (a := n) (by linarith)
  have hAbove : 200 * q < 2 * k + 1 + 1 := Nat.lt_of_mul_lt_mul_right (a := n) (by linarith)
  omega

/-- Beyond two million candidates nobody takes a bucket. -/
theorem equalUnits_of_many (hMany : 2000000 < n) : equalUnits n = 0 := by
  rw [equalUnits, equalShare_eq_zero hMany]
  decide +kernel

/-- Shares that cover the space take all its buckets. -/
theorem SharesCover.le (h : SharesCover n) (hSome : 1 ≤ n) : bucketSpace ≤ n * equalUnits n := by
  have hSpace : n * (bucketSpace / n) + bucketSpace % n = 10000 := Nat.div_add_mod _ _
  rw [bucketSpace] at hSpace ⊢
  by_cases hMany : 2000000 < n
  · have hAll : 10000 % n = 10000 := Nat.mod_eq_of_lt (by omega)
    rw [SharesCover, bucketSpace, hAll] at h
    omega
  by_cases hLast : n = 2000000
  · subst hLast
    decide +kernel
  obtain ⟨k, -, hUnits, hLow, -⟩ := equalUnits_bounds hSome (not_lt.mp hMany)
  obtain hNone | hRest := Nat.eq_zero_or_pos (10000 % n)
  · rw [hNone, Nat.add_zero] at hSpace
    calc 10000 = n * (10000 / n) := hSpace.symm
      _ ≤ n * equalUnits n := Nat.mul_le_mul_left n (le_of_no_rest hSpace hLow hUnits)
  · rcases h with hNone | hHalf | rfl
    · exact absurd hNone hRest.ne'
    · have hMore : 10000 / n < equalUnits n :=
        lt_of_rest hSpace hRest (by omega) hHalf hLow hUnits
      calc 10000 ≤ n * (10000 / n) + n := by
            have := Nat.mod_lt 10000 hSome
            omega
        _ = n * (10000 / n + 1) := by ring
        _ ≤ n * equalUnits n := Nat.mul_le_mul_left n hMore
    · decide +kernel

/-- Shares that do not cover the space are rounded down to whole buckets after all. -/
theorem equalUnits_eq_div (h : ¬ SharesCover n) (hSome : 1 ≤ n) :
    equalUnits n = bucketSpace / n := by
  have hSpace : n * (bucketSpace / n) + bucketSpace % n = 10000 := Nat.div_add_mod _ _
  rw [SharesCover, not_or, not_or, not_le] at h
  obtain ⟨hRest, hHalf, hOther⟩ := h
  rw [bucketSpace] at *
  by_cases hMany : 2000000 < n
  · rw [equalUnits_of_many hMany, Nat.div_eq_of_lt (by omega)]
  obtain ⟨k, hUnits, -, hLow, hHigh⟩ := equalUnits_bounds hSome (not_lt.mp hMany)
  obtain rfl := eq_hundreds hSpace hHalf hLow hHigh
  generalize 10000 / n = q at *
  generalize 10000 % n = r at *
  have hFew : q < 50 := by
    by_contra hMore
    have := Nat.mul_le_mul (show 201 ≤ n by omega) (not_lt.mp hMore)
    omega
  rw [hUnits, roundedUnits_hundreds q hFew, if_neg]
  rintro (rfl | rfl | rfl) <;> omega

variable {candidates : List Campaign}

theorem bucket_mem (groupId : Nat) (userId : String) :
    1 ≤ bucket groupId userId ∧ bucket groupId userId ≤ bucketSpace :=
  Bucket.value_mem _ (by decide) (by decide)

theorem randomWinner?_eq_none_iff_units (groupId : Nat) (candidates : List Campaign)
    (userId : String) :
    randomWinner? groupId candidates userId = none ↔
      candidates.length * equalUnits candidates.length < bucket groupId userId := by
  rw [randomWinner?, pickByWeight_eq_none_iff _ (bucket_mem groupId userId).1, List.map_map]
  simp only [Function.comp_def, List.map_const', List.sum_replicate_nat]
  rfl

/-- A random group has a winner unless the rounding of the shares loses it. The winner is one of the
candidates, and where equal shares do not cover the space, just the users in the buckets after
those that the shares take, rounded down, get nobody. -/
theorem randomWinner?_unless_lost (groupId : Nat) (hSome : candidates ≠ []) (userId : String) :
    (∀ c, randomWinner? groupId candidates userId = some c → c ∈ candidates) ∧
      (randomWinner? groupId candidates userId = none ↔
        ¬ SharesCover candidates.length ∧
          candidates.length * (bucketSpace / candidates.length) < bucket groupId userId) := by
  have hLength : 1 ≤ candidates.length := List.length_pos_iff.mpr hSome
  refine ⟨fun c => randomWinner?_mem, ?_⟩
  rw [randomWinner?_eq_none_iff_units]
  by_cases hCover : SharesCover candidates.length
  · have hAll := hCover.le hLength
    have hLast := (bucket_mem groupId userId).2
    simp only [hCover, not_true_eq_false, false_and, iff_false]
    omega
  · rw [equalUnits_eq_div hCover hLength]
    exact (and_iff_right hCover).symm

/-- So many experiments in one group. -/
def crowd (n : Nat) : List Campaign := (List.range n).map fun i => .small .ab (i + 1)

theorem trio_won : crowd 3 ≠ [] ∧ ∃ c ∈ crowd 3, randomWinner? 7 (crowd 3) "u3638" = some c := by
  have hSome : crowd 3 ≠ [] := by decide
  obtain ⟨hMem, hNone⟩ := randomWinner?_unless_lost 7 hSome "u3638"
  refine ⟨hSome, ?_⟩
  cases hWinner : randomWinner? 7 (crowd 3) "u3638" with
  | none => exact absurd (Or.inr (Or.inl (by decide))) (hNone.mp hWinner).1
  | some c => exact ⟨c, hMem c hWinner, rfl⟩

/-- Of 303 candidates each takes 33 buckets, and a user in the last bucket gets none of them. -/
theorem crowd_not_won :
    2 ≤ (crowd 303).length ∧ ¬ ∃ c ∈ crowd 303, randomWinner? 7 (crowd 303) "u3638" = some c := by
  have hLength : (crowd 303).length = 303 := by simp [crowd]
  have hUnits : equalUnits 303 = 33 := by decide +kernel
  have hBucket : bucket 7 "u3638" = 10000 := by decide +kernel
  have hNone : randomWinner? 7 (crowd 303) "u3638" = none := by
    rw [randomWinner?_eq_none_iff_units, hLength, hUnits, hBucket]
    decide
  refine ⟨by rw [hLength]; decide, ?_⟩
  rintro ⟨c, -, hWinner⟩
  rw [hNone] at hWinner
  cases hWinner

end Group

end FlagDecision
