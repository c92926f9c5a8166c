import FlagDecision.Number.Decimal
import FlagDecision.Proofs.Rounding
import FlagDecision.Text.Blank
import Mathlib.Data.List.TakeWhile
import Mathlib.Data.Nat.Digits.Defs

/-! The text of whole numbers. Below `2 ^ 53` whole numbers are so far apart that only a
decimal of the same value reads back as the number. So the digits of a whole number are
read as that number, and are its plain text again. -/
namespace FlagDecision

/-! Reading. -/

theorem digitsValue_toDigits (n : Nat) : digitsValue (Nat.toDigits 10 n) = n :=
  Nat.ofDigitChars_ten_toDigits

theorem isDigit_of_mem_toDigits {n : Nat} {c : Char} (h : c ∈ Nat.toDigits 10 n) : c.isDigit :=
  Nat.isDigit_of_mem_toDigits (by decide) (by decide) h

theorem spanDigits_toDigits (n : Nat) :
    spanDigits (Nat.toDigits 10 n) = (Nat.toDigits 10 n, []) := by
  rw [spanDigits, List.takeWhile_eq_self_iff.mpr fun c hc => isDigit_of_mem_toDigits hc,
    List.dropWhile_eq_nil_iff.mpr fun c hc => isDigit_of_mem_toDigits hc]

/-- Digits alone have neither sign nor point nor exponent. -/
theorem readDecimal?_toDigits (n : Nat) :
    readDecimal? (Nat.toDigits 10 n) = some (Binary64.ofDecimal false n 0) := by
  have hSpan := spanDigits_toDigits n
  have hValue := digitsValue_toDigits n
  cases hDigits : Nat.toDigits 10 n with
  | nil => exact absurd hDigits Nat.toDigits_ne_nil
  | cons c rest =>
      have hFirst : c.isDigit := isDigit_of_mem_toDigits (n := n) (by simp [hDigits])
      have hPlus : c ≠ '+' := by
        rintro rfl
        simp at hFirst
      have hMinus : c ≠ '-' := by
        rintro rfl
        simp at hFirst
      rw [hDigits] at hSpan hValue
      simp [readDecimal?, hPlus, hMinus, hSpan, hValue, readExponent?]

namespace Text

theorem not_isBlank_of_isDigit {c : Char} (h : c.isDigit) : isBlank c = false := by
  have hRange : 48 ≤ c.toNat ∧ c.toNat ≤ 57 := by
    simpa [Char.isDigit, UInt32.le_iff_toNat_le] using h
  simp only [isBlank, Bool.or_eq_false_iff, Bool.and_eq_false_iff, decide_eq_false_iff_not,
    beq_eq_false_iff_ne]
  omega

theorem trim_eq_self {s : List Char} (h : ∀ c ∈ s, isBlank c = false) : trim s = s := by
  have hStart : ∀ t : List Char, (∀ c ∈ t, isBlank c = false) → trimStart t = t := fun t ht =>
    List.dropWhile_eq_self_iff.mpr fun hl => by simp [ht]
  rw [trim, hStart s h, hStart s.reverse (by simpa using h), List.reverse_reverse]

end Text

namespace Binary64

/-! Writing. -/

theorem powerOfTwo_quarter (k : Nat) : powerOfTwo (-(k : Int) - 2) = (1, 2 ^ (k + 2)) := by
  have hUp : (-(k : Int) - 2).toNat = 0 := by omega
  have hDown : (-(-(k : Int) - 2)).toNat = k + 2 := by omega
  rw [powerOfTwo, hUp, hDown]
  rfl

/-- Whole numbers are too far apart to be taken for each other. -/
theorem near_whole_iff {x n k gap : Nat} (hGap : 1 ≤ gap) (hGap' : gap ≤ 2) :
    (if n * 2 ^ k % 2 = 0 then
      decide (n * 2 ^ (k + 2) ≤ x * 2 ^ (k + 2) + gap) &&
        decide (x * 2 ^ (k + 2) ≤ n * 2 ^ (k + 2) + 2)
    else
      decide (n * 2 ^ (k + 2) < x * 2 ^ (k + 2) + gap) &&
        decide (x * 2 ^ (k + 2) < n * 2 ^ (k + 2) + 2)) = decide (x = n) := by
  have hFar : 4 ≤ 2 ^ (k + 2) := by
    rw [pow_add]
    have := Nat.one_le_two_pow (n := k)
    omega
  generalize 2 ^ (k + 2) = spacing at hFar ⊢
  rcases Nat.lt_trichotomy x n with hLess | rfl | hGreater
  · have hNext : (x + 1) * spacing ≤ n * spacing := Nat.mul_le_mul_right _ hLess
    have hLow : ¬ n * spacing ≤ x * spacing + gap := by
      rw [Nat.add_mul] at hNext
      omega
    have hLow' : ¬ n * spacing < x * spacing + gap := fun h => hLow h.le
    simp [hLow, hLow', hLess.ne]
  · have hSelf : x * spacing < x * spacing + gap := by omega
    simp
    omega
  · have hNext : (n + 1) * spacing ≤ x * spacing := Nat.mul_le_mul_right _ hGreater
    have hHigh : ¬ x * spacing ≤ n * spacing + 2 := by
      rw [Nat.add_mul] at hNext
      omega
    have hHigh' : ¬ x * spacing < n * spacing + 2 := fun h => hHigh h.le
    simp [hHigh, hHigh', hGreater.ne']

/-- Of the multiples of a power of ten, only the number itself reads back as a whole number. -/
theorem readsBackAt?_whole (tie : Tie) (n k places : Nat) :
    readsBackAt? tie (n * 2 ^ k) (-(k : Int)) places =
      if 10 ^ places ∣ n then some (n / 10 ^ places) else none := by
  have hNone : (-(places : Int)).toNat = 0 := by omega
  have hValue : 4 * (n * 2 ^ k) = n * 2 ^ (k + 2) := by ring
  have hDown : n * 2 ^ (k + 2) / (10 ^ places * 2 ^ (k + 2)) = n / 10 ^ places :=
    Nat.mul_div_mul_right _ _ (by positivity)
  have hGap : ∀ p : Prop, [Decidable p] → 1 ≤ (if p then 1 else 2) ∧ (if p then 1 else 2) ≤ 2 :=
    fun p _ => by split <;> omega
  have hHere : n / 10 ^ places * 10 ^ places = n ↔ 10 ^ places ∣ n :=
    ⟨fun h => h ▸ Nat.dvd_mul_left _ _, Nat.div_mul_cancel⟩
  have hAbove : (n / 10 ^ places + 1) * 10 ^ places ≠ n := by
    rw [mul_comm]
    exact (Nat.lt_mul_div_succ n (by positivity)).ne'
  simp only [readsBackAt?, powerOfTwo_quarter, hNone, Int.toNat_natCast, Nat.pow_eq, pow_zero,
    mul_one, hValue, hDown, ← mul_assoc, near_whole_iff (hGap _).1 (hGap _).2, hHere, hAbove]
  by_cases hDvd : 10 ^ places ∣ n <;> simp [hDvd]

/-- A search over numbers in order ends at the latest where it is known to succeed. -/
theorem findSome?_range {α : Type} {f : Nat → Option α} {last bound : Nat} {a : α}
    (hLast : last < bound) (hFound : f last = some a) :
    ∃ i ≤ last, ∃ b, f i = some b ∧ (List.range bound).findSome? f = some b := by
  have hSome : ((List.range bound).findSome? f).isSome := by
    rw [List.findSome?_isSome_iff]
    exact ⟨last, List.mem_range.mpr hLast, by simp [hFound]⟩
  obtain ⟨b, hResult⟩ := Option.isSome_iff_exists.mp hSome
  obtain ⟨before, i, later, hRange, hHere, hBefore⟩ := List.findSome?_eq_some_iff.mp hResult
  refine ⟨i, ?_, b, hHere, hResult⟩
  have hMem : last ∈ before ++ i :: later := hRange ▸ List.mem_range.mpr hLast
  rcases List.mem_append.mp hMem with hMissed | hReached
  · simp [hBefore last hMissed] at hFound
  · have hOrder : (before ++ i :: later).Pairwise (· < ·) := hRange ▸ List.pairwise_lt_range
    obtain ⟨hFirst, -⟩ := List.pairwise_cons.mp (List.pairwise_append.mp hOrder).2.1
    rcases List.mem_cons.mp hReached with rfl | hLater
    · exact Nat.le_refl _
    · exact (hFirst last hLater).le

theorem log2_mul_two_pow {n : Nat} (h : n ≠ 0) (k : Nat) :
    Nat.log2 (n * 2 ^ k) = Nat.log2 n + k := by
  induction k with
  | zero => simp
  | succ k ih =>
      have hDouble : n * 2 ^ (k + 1) = 2 * (n * 2 ^ k) := by ring
      rw [hDouble, Nat.log2_two_mul (by positivity), ih, add_assoc]

/-- The fewest digits of a whole number are its digits up to the zeros at the end. -/
theorem shortest_whole (tie : Tie) {n : Nat} (k : Nat) (hSome : n ≠ 0)
    (hSmall : n < 2 ^ precision) :
    ∃ places : Nat, 10 ^ places ∣ n ∧
      shortest tie (n * 2 ^ k) (-(k : Int)) = (n / 10 ^ places, (places : Int)) := by
  have hLog : Nat.log2 n < 53 := (Nat.log2_lt hSome).mpr hSmall
  obtain ⟨top, hTop, hBound⟩ : ∃ top : Nat,
      (((Nat.log2 (n * 2 ^ k) : Int) + 1 + -(k : Int)) * 30103) / 100000 + 1 = top ∧ top < 24 := by
    refine ⟨(Nat.log2 n + 1) * 30103 / 100000 + 1, ?_, by omega⟩
    rw [log2_mul_two_pow hSome]
    push_cast
    congr 2
    ring
  have hUnits : (readsBackAt? tie (n * 2 ^ k) (-(k : Int)) ((top : Int) - (top : Int))).map
      (·, (top : Int) - (top : Int)) = some (n, 0) := by
    simpa using readsBackAt?_whole tie n k 0
  -- No place beyond the units is looked at, since the units read back.
  obtain ⟨i, hi, b, hHere, hResult⟩ := findSome?_range
    (f := fun i => (readsBackAt? tie (n * 2 ^ k) (-(k : Int)) ((top : Int) - (i : Int))).map
      (·, (top : Int) - (i : Int))) hBound hUnits
  have hPlaces : (top : Int) - (i : Int) = ((top - i : Nat) : Int) := by omega
  rw [hPlaces, readsBackAt?_whole] at hHere
  by_cases hDvd : 10 ^ (top - i) ∣ n
  · refine ⟨top - i, hDvd, ?_⟩
    have hFound : b = (n / 10 ^ (top - i), ((top - i : Nat) : Int)) := by
      simpa [hDvd, eq_comm] using hHere
    rw [shortest, hTop]
    simp only [hResult, hFound, Option.getD_some]
  · simp [hDvd] at hHere

theorem toDigits_mul_pow {n : Nat} (h : n ≠ 0) (places : Nat) :
    Nat.toDigits 10 (n * 10 ^ places) = Nat.toDigits 10 n ++ List.replicate places '0' := by
  induction places with
  | zero => simp
  | succ places ih =>
      have hTenfold : n * 10 ^ (places + 1) = 10 * (n * 10 ^ places) + 0 := by ring
      rw [hTenfold, ← Nat.toDigits_append_toDigits (by decide) (by positivity) (by decide), ih,
        List.append_assoc, List.replicate_succ']
      rfl

theorem ofNat_shifted {n : Nat} (hSmall : n < 2 ^ precision) :
    ∃ k : Nat, ofNat n = finite false (n * 2 ^ k) (-(k : Int)) := by
  have hValue : (n : Rat) / (1 : Nat) = n * 2 ^ (0 : Int) := by simp
  obtain ⟨k, hShifted⟩ := ofRatio_shifted one_pos hSmall (by decide) (by decide) hValue
  exact ⟨k, by simpa [ofNat] using hShifted⟩

/-- A whole number is written in its digits. -/
theorem text_ofNat {n : Nat} (hSmall : n < 2 ^ precision) :
    (ofNat n).text = String.ofList (Nat.toDigits 10 n) := by
  obtain ⟨k, hShifted⟩ := ofNat_shifted hSmall
  rw [hShifted, text]
  split
  · rename_i hZero
    obtain rfl : n = 0 := by simpa using hZero
    rfl
  · rename_i hZero
    have hSome : n ≠ 0 := by
      rintro rfl
      simp at hZero
    obtain ⟨places, hDvd, hShortest⟩ := shortest_whole .upward k hSome hSmall
    obtain ⟨front, rfl⟩ := hDvd
    have hFront : front ≠ 0 := by
      rintro rfl
      simp at hSome
    rw [hShortest, Nat.mul_div_cancel_left _ (by positivity), mul_comm, toDigits_mul_pow hFront]
    simp [plainDigits]

/-- The digits of a whole number are read as a number whose plain text they are. -/
theorem readDecimal?_whole {n : Nat} (hSmall : n < 2 ^ precision) :
    ∃ x, readDecimal? (Nat.toDigits 10 n) = some x ∧ x.isFinite ∧
      x.text = String.ofList (Nat.toDigits 10 n) := by
  refine ⟨ofDecimal false n 0, readDecimal?_toDigits n, ?_⟩
  by_cases hZero : n = 0
  · subst hZero
    exact ⟨rfl, rfl⟩
  · have hLength : (Nat.toDigits 10 n).length ≤ 16 :=
      Nat.toDigits_length 10 n 16 (by decide) (hSmall.trans_le (by decide))
    have hNumber : ofDecimal false n 0 = ofNat n := by
      rw [ofDecimal, if_neg (by omega), if_neg (by omega)]
      simp [ofNat]
    obtain ⟨k, hShifted⟩ := ofNat_shifted hSmall
    exact ⟨by rw [hNumber, hShifted]; rfl, by rw [hNumber, text_ofNat hSmall]⟩

end Binary64

end FlagDecision
