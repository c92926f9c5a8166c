import FlagDecision.Proofs.Rounding
import Mathlib.Algebra.Order.Floor.Semiring
import Mathlib.Tactic.NormNum

/-! The error of rounding. A number is off by at most half of its last place, which for numbers
with `precision` digits is a fixed part of the number, and for the smallest ones next to
nothing. So an operation that does not overflow gives its exact result up to that error. -/
namespace FlagDecision

namespace Binary64

/-- The number `a` may be what one rounding makes of a value that is not negative. -/
def IsNear (a value : Rat) : Prop := |a - value| ≤ (value + 1) / 2 ^ precision

/-- Rounding to a whole number is off by at most a half. -/
theorem divideToEven_near (num : Nat) {den : Nat} (hDen : 0 < den) :
    |(divideToEven num den : Rat) - num / den| ≤ 1 / 2 := by
  have hBounds : 2 * (divideToEven num den * den) ≤ 2 * num + den ∧
      2 * num ≤ 2 * (divideToEven num den * den) + den := by
    have hDivide := Nat.div_add_mod' num den
    have hRest := Nat.mod_lt num hDen
    simp only [divideToEven]
    generalize num / den = q at hDivide ⊢
    generalize num % den = r at hDivide hRest ⊢
    have hNext : (q + 1) * den = q * den + den := by ring
    split_ifs <;> omega
  have hPos : (0 : Rat) < den := by exact_mod_cast hDen
  have hHigh : 2 * ((divideToEven num den : Rat) * den) ≤ 2 * num + den := by
    exact_mod_cast hBounds.1
  have hLow : 2 * (num : Rat) ≤ 2 * (divideToEven num den * den) + den := by
    exact_mod_cast hBounds.2
  rw [abs_le]
  constructor
  · rw [neg_le_sub_iff_le_add, div_le_iff₀ hPos]
    linarith
  · rw [sub_le_iff_le_add, ← sub_le_iff_le_add', le_div_iff₀ hPos]
    linarith

/-- The exponent that rounding takes for a quotient. -/
def roundingExponent (num den : Nat) : Int :=
  max leastExponent (if num = 0 then leastExponent else normalExponent num den)

/-- Unless it is the least one, the exponent leaves `precision` digits before the point. -/
theorem roundingExponent_cases (num : Nat) {den : Nat} (hDen : 0 < den) :
    roundingExponent num den = leastExponent ∨
      (2 : Rat) ^ ((precision - 1 : Nat) + roundingExponent num den) ≤ num / den := by
  rw [roundingExponent]
  split
  · exact Or.inl (max_self _)
  · rename_i hNum
    rcases max_choice leastExponent (normalExponent num den) with hLeast | hNormal
    · exact Or.inl hLeast
    · rw [hNormal]
      exact Or.inr (normalExponent_le hNum hDen)

theorem two_pow_roundingExponent_le (num : Nat) {den : Nat} (hDen : 0 < den) :
    (2 : Rat) ^ roundingExponent num den / 2 ≤ (num / den + 1) / 2 ^ precision := by
  have hValue : (0 : Rat) ≤ num / den := by positivity
  rw [div_le_div_iff₀ two_pos (by positivity)]
  rcases roundingExponent_cases num hDen with hLeast | hNormal
  · have hTiny : (2 : Rat) ^ leastExponent * 2 ^ precision ≤ 2 := by
      rw [← zpow_natCast, ← zpow_add₀ two_ne_zero]
      exact (zpow_le_zpow_right₀ one_le_two (by decide)).trans_eq (zpow_one 2)
    rw [hLeast]
    linarith
  · have hPlaces : (2 : Rat) ^ roundingExponent num den * 2 ^ precision =
        2 ^ ((precision - 1 : Nat) + roundingExponent num den) * 2 := by
      rw [← zpow_natCast, ← zpow_add₀ two_ne_zero, ← zpow_add_one₀ two_ne_zero]
      congr 1
      simp only [precision]
      omega
    rw [hPlaces]
    linarith

/-- With its exponent, the whole number that is nearest to a quotient is off by at most half of a
place. -/
theorem divideToEven_scaled_near (num : Nat) {den : Nat} (hDen : 0 < den) (e : Int) :
    |(divideToEven (num * (powerOfTwo e).2) (den * (powerOfTwo e).1) : Rat) * 2 ^ e - num / den| ≤
      2 ^ e / 2 := by
  obtain ⟨hUp, hDown⟩ := powerOfTwo_pos e
  have hNear := divideToEven_near (num * (powerOfTwo e).2) (Nat.mul_pos hDen hUp)
  generalize divideToEven (num * (powerOfTwo e).2) (den * (powerOfTwo e).1) = m at hNear ⊢
  have hPlace : (0 : Rat) < 2 ^ e := by positivity
  have hScaled : ((num * (powerOfTwo e).2 : Nat) : Rat) / (den * (powerOfTwo e).1 : Nat) =
      num / den / 2 ^ e := by
    have hDown : ((powerOfTwo e).2 : Rat) ≠ 0 := by exact_mod_cast hDown.ne'
    have hUp : ((powerOfTwo e).1 : Rat) ≠ 0 := by exact_mod_cast hUp.ne'
    rw [← powerOfTwo_fst_div_snd e]
    push_cast
    field_simp
  rw [hScaled] at hNear
  calc |(m : Rat) * 2 ^ e - num / den|
      = |(m : Rat) - num / den / 2 ^ e| * 2 ^ e := by
        rw [← abs_of_pos hPlace, ← abs_mul, abs_of_pos hPlace, sub_mul,
          div_mul_cancel₀ _ hPlace.ne']
    _ ≤ 1 / 2 * 2 ^ e := by gcongr
    _ = 2 ^ e / 2 := by ring

/-- Rounding gives a number near the quotient, or the quotient is huge. -/
theorem ofRatio_near (num : Nat) {den : Nat} (hDen : 0 < den) :
    (∃ a, (ofRatio false num den).Is a ∧ IsNear a (num / den)) ∨
      (ofRatio false num den = infinity false ∧ (2 : Rat) ^ 1000 ≤ num / den) := by
  have hNear := (divideToEven_scaled_near num hDen (roundingExponent num den)).trans
    (two_pow_roundingExponent_le num hDen)
  have hCases := roundingExponent_cases num hDen
  rw [roundingExponent] at hNear hCases
  rw [ofRatio]
  generalize max leastExponent
    (if num = 0 then leastExponent else normalExponent num den) = e at hNear hCases ⊢
  dsimp only
  generalize divideToEven (num * (powerOfTwo e).2) (den * (powerOfTwo e).1) = m at hNear ⊢
  -- One digit too many moves the point, and the value stays.
  obtain ⟨m', e', hPair, hSame, hNext⟩ : ∃ (m' : Nat) (e' : Int),
      (if m = Nat.pow 2 precision then (Nat.pow 2 (precision - 1), e + 1) else (m, e)) = (m', e') ∧
        (m' : Rat) * 2 ^ e' = m * 2 ^ e ∧ e' ≤ e + 1 := by
    split
    · rename_i hCarry
      refine ⟨_, _, rfl, ?_, le_rfl⟩
      rw [hCarry, zpow_add_one₀ two_ne_zero]
      simp only [Nat.pow_eq, precision]
      push_cast
      ring
    · exact ⟨m, e, rfl, rfl, by omega⟩
  rw [hPair]
  dsimp only
  split
  · rename_i hOver
    refine Or.inr ⟨rfl, ?_⟩
    rcases hCases with hLeast | hNormal
    · simp only [hLeast, leastExponent, greatestExponent] at hNext hOver
      omega
    · refine le_trans ?_ hNormal
      rw [← zpow_natCast]
      refine zpow_le_zpow_right₀ one_le_two ?_
      simp only [greatestExponent, precision] at hOver ⊢
      omega
  · exact Or.inl ⟨m' * 2 ^ e', ⟨m', e', rfl, rfl⟩, hSame ▸ hNear⟩

/-- A number that is not huge has one near it. -/
theorem ofRatio_rat_near {value : Rat} (hSign : 0 ≤ value) (hMost : value < 2 ^ 1000) :
    ∃ a, (ofRatio false value.num.natAbs value.den).Is a ∧ IsNear a value := by
  have hNear := ofRatio_near value.num.natAbs value.den_pos
  rw [natAbs_num_div_den hSign] at hNear
  exact hNear.resolve_right fun hHuge => absurd hMost (not_lt.mpr hHuge.2)

namespace Is

variable {x y : Binary64} {a b : Rat}

theorem mul_near (hx : x.Is a) (hy : y.Is b) (hMost : a * b < 2 ^ 1000) :
    ∃ c, (x * y).Is c ∧ IsNear c (a * b) :=
  hx.mul_eq hy ▸ ofRatio_rat_near (mul_nonneg hx.nonneg hy.nonneg) hMost

theorem div_near (hx : x.Is a) (hy : y.Is b) (hb : b ≠ 0) (hMost : a / b < 2 ^ 1000) :
    ∃ c, (x / y).Is c ∧ IsNear c (a / b) :=
  hx.div_eq hy hb ▸ ofRatio_rat_near (div_nonneg hx.nonneg hy.nonneg) hMost

end Is

end Binary64

end FlagDecision
