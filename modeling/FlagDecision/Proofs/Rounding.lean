import FlagDecision.Number.Binary64
import Mathlib.Algebra.Order.Field.Power
import Mathlib.Algebra.Order.Floor.Ring
import Mathlib.Data.Rat.Floor
import Mathlib.Tactic.Linarith
import Mathlib.Tactic.Positivity
import Mathlib.Tactic.Ring

/-! Operations without rounding error. Rounding gives a number that is as precise as it
can be, so what has a significand of 53 binary digits is not changed by it, and an
operation on numbers that are not negative is exact where its result has one. -/
namespace FlagDecision

namespace Binary64

/-- The number is finite, without sign, and its value is exactly this one. -/
def Is (x : Binary64) (value : Rat) : Prop :=
  ∃ m e, x = finite false m e ∧ value = (m : Rat) * 2 ^ e

/-- The value has a significand of at most `precision` binary digits, and is far from overflow. -/
def Representable (value : Rat) : Prop :=
  ∃ (m : Nat) (e : Int), m < 2 ^ precision ∧ leastExponent ≤ e ∧ e < greatestExponent ∧
    value = m * 2 ^ e

theorem powerOfTwo_fst_div_snd (e : Int) :
    ((powerOfTwo e).1 : Rat) / (powerOfTwo e).2 = 2 ^ e := by
  obtain ⟨n, rfl | rfl⟩ := Int.eq_nat_or_neg e <;> simp [powerOfTwo]

theorem powerOfTwo_pos (e : Int) : 0 < (powerOfTwo e).1 ∧ 0 < (powerOfTwo e).2 :=
  ⟨Nat.two_pow_pos _, Nat.two_pow_pos _⟩

theorem divideToEven_exact {num den m : Nat} (hDen : 0 < den) (h : num = m * den) :
    divideToEven num den = m := by
  simp [divideToEven, h, hDen]

/-- The normal exponent leaves a quotient that has `precision` digits before the point. -/
theorem normalExponent_le {num den : Nat} (hNum : num ≠ 0) (hDen : 0 < den) :
    (2 : Rat) ^ ((precision - 1 : Nat) + normalExponent num den) ≤ num / den := by
  have hPos : (0 : Rat) < den := by exact_mod_cast hDen
  rw [normalExponent]
  dsimp only
  generalize hGuess : (Nat.log2 num : Int) - (Nat.log2 den : Int) - (precision - 1 : Nat) = guess
  obtain ⟨hUp, hDown⟩ := powerOfTwo_pos guess
  split
  · -- One less than the guess is below the ratio of the leading powers of two.
    have hLow : ((2 ^ Nat.log2 num : Nat) : Rat) ≤ num := by exact_mod_cast Nat.log2_self_le hNum
    have hHigh : (den : Rat) ≤ (2 ^ (Nat.log2 den + 1) : Nat) := by
      exact_mod_cast Nat.lt_log2_self.le
    have hExponent : ((precision - 1 : Nat) : Int) + (guess - 1) =
        (Nat.log2 num : Int) - ((Nat.log2 den + 1 : Nat) : Int) := by
      push_cast
      omega
    calc (2 : Rat) ^ ((precision - 1 : Nat) + (guess - 1))
        = (2 ^ Nat.log2 num : Nat) / (2 ^ (Nat.log2 den + 1) : Nat) := by
          rw [hExponent, zpow_sub₀ two_ne_zero, zpow_natCast, zpow_natCast]
          push_cast
          rfl
      _ ≤ num / den := by gcongr
  · rename_i hLarge
    have hLarge : (2 ^ (precision - 1) * (den * (powerOfTwo guess).1) : Nat) ≤
        num * (powerOfTwo guess).2 := Nat.not_lt.mp hLarge
    have hCast : (2 : Rat) ^ (precision - 1) * (den * (powerOfTwo guess).1) ≤
        num * (powerOfTwo guess).2 := by exact_mod_cast hLarge
    have hDown : (0 : Rat) < (powerOfTwo guess).2 := by exact_mod_cast hDown
    rw [zpow_add₀ two_ne_zero, zpow_natCast, ← powerOfTwo_fst_div_snd, le_div_iff₀ hPos,
      mul_div_assoc', div_mul_eq_mul_div, div_le_iff₀ hDown]
    linarith

/-- A significand has the exponent that rounding takes, or a greater one. -/
theorem max_normalExponent_le {num den m : Nat} {e : Int} (hDen : 0 < den)
    (hDigits : m < 2 ^ precision) (hLeast : leastExponent ≤ e)
    (hValue : (num : Rat) / den = m * 2 ^ e) :
    max leastExponent (if num = 0 then leastExponent else normalExponent num den) ≤ e := by
  refine max_le hLeast ?_
  split
  · exact hLeast
  · rename_i hNum
    have hBelow : (2 : Rat) ^ ((precision - 1 : Nat) + normalExponent num den) <
        2 ^ ((precision : Int) + e) :=
      calc (2 : Rat) ^ ((precision - 1 : Nat) + normalExponent num den)
          ≤ num / den := normalExponent_le hNum hDen
        _ = m * 2 ^ e := hValue
        _ < 2 ^ precision * 2 ^ e := by
          have : (m : Rat) < 2 ^ precision := by exact_mod_cast hDigits
          gcongr
        _ = 2 ^ ((precision : Int) + e) := by rw [zpow_add₀ two_ne_zero, zpow_natCast]
    have := (zpow_lt_zpow_iff_right₀ one_lt_two).mp hBelow
    simp only [precision] at this
    omega

/-- A ratio that is a whole multiple of a power of two is divided by it without remainder. -/
theorem divideToEven_powerOfTwo {num den m : Nat} {e : Int} (hDen : 0 < den)
    (hValue : (num : Rat) / den = m * 2 ^ e) :
    divideToEven (num * (powerOfTwo e).2) (den * (powerOfTwo e).1) = m := by
  obtain ⟨hUp, hDown⟩ := powerOfTwo_pos e
  have hDenNe : (den : Rat) ≠ 0 := by exact_mod_cast hDen.ne'
  have hDownNe : ((powerOfTwo e).2 : Rat) ≠ 0 := by exact_mod_cast hDown.ne'
  refine divideToEven_exact (Nat.mul_pos hDen hUp) ?_
  rw [← powerOfTwo_fst_div_snd, mul_div_assoc', div_eq_div_iff hDenNe hDownNe] at hValue
  have hCast : (num * (powerOfTwo e).2 : Rat) = m * (den * (powerOfTwo e).1) := by
    rw [hValue]
    ring
  exact_mod_cast hCast

/-- Rounding a significand of at most `precision` digits only shifts it. -/
theorem ofRatio_shifted {num den m : Nat} {e : Int} (hDen : 0 < den) (hDigits : m < 2 ^ precision)
    (hLeast : leastExponent ≤ e) (hGreatest : e < greatestExponent)
    (hValue : (num : Rat) / den = m * 2 ^ e) :
    ∃ k : Nat, ofRatio false num den = finite false (m * 2 ^ k) (e - k) := by
  have hExponent := max_normalExponent_le hDen hDigits hLeast hValue
  rw [ofRatio]
  generalize max leastExponent
    (if num = 0 then leastExponent else normalExponent num den) = e' at hExponent ⊢
  obtain ⟨k, rfl⟩ : ∃ k : Nat, e = k + e' := ⟨(e - e').toNat, by omega⟩
  -- With the lesser exponent the significand is a whole number still.
  have hWhole : (num : Rat) / den = (m * 2 ^ k : Nat) * 2 ^ e' := by
    rw [hValue, zpow_add₀ two_ne_zero, zpow_natCast]
    push_cast
    ring
  dsimp only
  rw [divideToEven_powerOfTwo hDen hWhole]
  split
  · rename_i hCarry
    cases k with
    | zero => exact absurd hCarry (by simpa using hDigits.ne)
    | succ k =>
        have hDouble : m * 2 ^ k * 2 = Nat.pow 2 (precision - 1) * 2 := by
          rw [mul_assoc, ← pow_succ, hCarry]
          rfl
        have hHalf : m * 2 ^ k = Nat.pow 2 (precision - 1) :=
          Nat.eq_of_mul_eq_mul_right two_pos hDouble
        refine ⟨k, ?_⟩
        push_cast at hGreatest ⊢
        rw [if_neg (by omega), hHalf]
        congr 1
        ring
  · refine ⟨k, ?_⟩
    rw [if_neg (by omega), add_sub_cancel_left]

/-- Rounding does not change a representable value. -/
theorem ofRatio_exact {num den : Nat} (hDen : 0 < den)
    (hValue : Representable ((num : Rat) / den)) : (ofRatio false num den).Is (num / den) := by
  obtain ⟨m, e, hDigits, hLeast, hGreatest, hValue⟩ := hValue
  obtain ⟨k, hShifted⟩ := ofRatio_shifted hDen hDigits hLeast hGreatest hValue
  refine ⟨_, _, hShifted, ?_⟩
  rw [hValue, zpow_sub₀ two_ne_zero, zpow_natCast]
  push_cast
  field_simp

theorem natAbs_num_div_den {value : Rat} (hSign : 0 ≤ value) :
    (value.num.natAbs : Rat) / value.den = value := by
  rw [← Int.cast_natCast, Int.natAbs_of_nonneg (Rat.num_nonneg.mpr hSign), Rat.num_div_den]

theorem ofRatio_rat {value : Rat} (hSign : 0 ≤ value) (hValue : Representable value) :
    (ofRatio false value.num.natAbs value.den).Is value := by
  have hRatio := natAbs_num_div_den hSign
  have hExact : (ofRatio false value.num.natAbs value.den).Is (value.num.natAbs / value.den) :=
    ofRatio_exact value.den_pos (hRatio.symm ▸ hValue)
  rwa [hRatio] at hExact

namespace Is

variable {x y : Binary64} {a b : Rat}

theorem nonneg (h : x.Is a) : 0 ≤ a := by
  obtain ⟨m, e, -, rfl⟩ := h
  positivity

theorem toRat (h : x.Is a) : x.toRat = a := by
  obtain ⟨m, e, rfl, rfl⟩ := h
  simp only [Binary64.toRat, Bool.false_eq_true, if_false]
  rw [Rat.mkRat_eq_div, ← powerOfTwo_fst_div_snd]
  push_cast
  ring

theorem mul_eq (hx : x.Is a) (hy : y.Is b) :
    x * y = ofRatio false (a * b).num.natAbs (a * b).den := by
  have hx' := hx.toRat
  have hy' := hy.toRat
  obtain ⟨m, e, rfl, -⟩ := hx
  obtain ⟨m', e', rfl, -⟩ := hy
  change Binary64.mul _ _ = _
  simp only [Binary64.mul, isNegative, bne_self_eq_false, hx', hy']

theorem mul (hx : x.Is a) (hy : y.Is b) (h : Representable (a * b)) : (x * y).Is (a * b) :=
  hx.mul_eq hy ▸ ofRatio_rat (mul_nonneg hx.nonneg hy.nonneg) h

theorem add (hx : x.Is a) (hy : y.Is b) (h : Representable (a + b)) : (x + y).Is (a + b) := by
  have hSum := add_nonneg hx.nonneg hy.nonneg
  have hExact := ofRatio_rat hSum h
  have hx' := hx.toRat
  have hy' := hy.toRat
  obtain ⟨m, e, rfl, -⟩ := hx
  obtain ⟨m', e', rfl, -⟩ := hy
  change (Binary64.add _ _).Is _
  have hSign : ¬ (a + b).num < 0 := not_lt.mpr (Rat.num_nonneg.mpr hSum)
  simpa only [Binary64.add, ofRat, hx', hy', hSign, Bool.and_false, decide_false, ite_self]
    using hExact

theorem div_eq (hx : x.Is a) (hy : y.Is b) (hb : b ≠ 0) :
    x / y = ofRatio false (a / b).num.natAbs (a / b).den := by
  have hx' := hx.toRat
  have hy' := hy.toRat
  obtain ⟨m, e, rfl, -⟩ := hx
  obtain ⟨m', e', rfl, rfl⟩ := hy
  have hZero : (finite false m' e').isZero = false := by
    refine beq_eq_false_iff_ne.mpr fun hm => hb ?_
    simp [hm]
  change Binary64.div _ _ = _
  simp only [Binary64.div, isNegative, bne_self_eq_false, hZero, Bool.false_eq_true, if_false, hx',
    hy']

theorem div (hx : x.Is a) (hy : y.Is b) (hb : b ≠ 0) (h : Representable (a / b)) :
    (x / y).Is (a / b) :=
  hx.div_eq hy hb ▸ ofRatio_rat (div_nonneg hx.nonneg hy.nonneg) h

theorem isFinite (h : x.Is a) : x.isFinite = true := by
  obtain ⟨m, e, rfl, -⟩ := h
  rfl

theorem floor (h : x.Is a) : x.floor? = some ⌊a⌋ := by
  rw [floor?, if_pos h.isFinite, h.toRat]
  rfl

theorem ceil (h : x.Is a) : x.ceil? = some ⌈a⌉ := by
  rw [ceil?, if_pos h.isFinite, h.toRat, ← neg_neg ⌈a⌉, ← Int.floor_neg]
  rfl

end Is

theorem representable_natCast {n : Nat} (h : n < 2 ^ precision) : Representable n :=
  ⟨n, 0, h, by decide, by decide, by simp⟩

/-- Natural numbers of `precision` binary digits are numbers. -/
theorem ofNat_is {n : Nat} (h : n < 2 ^ precision) : (ofNat n).Is n := by
  have hExact : (ofRatio false n 1).Is ((n : Rat) / (1 : Nat)) :=
    ofRatio_exact one_pos (by simpa using representable_natCast h)
  simpa [ofNat] using hExact

end Binary64

end FlagDecision
