import FlagDecision.Operand
import Mathlib.Algebra.Order.Ring.Rat
import Mathlib.Data.List.Basic

/-! Orders of texts. A version is ordered by its components, with zeros where another one
goes on, so versions are ordered as lists of one length are. Numbers are ordered by
their values. The four conditions on the order of two texts agree with each other, and
with the conditions in which the texts have changed places. -/
namespace FlagDecision

namespace Text

variable {sep : Char}

theorem splitAll_ne_nil (s : List Char) : splitAll sep s ≠ [] := by
  fun_cases splitAll sep s <;> simp_all

/-- The pieces of two texts apart by a separator are those of both. -/
theorem splitAll_append_sep (s t : List Char) :
    splitAll sep (s ++ sep :: t) = splitAll sep s ++ splitAll sep t := by
  induction s with
  | nil => simp [splitAll]
  | cons c rest ih =>
      rw [List.cons_append, splitAll, splitAll, ih]
      by_cases hSep : c = sep
      · simp [hSep]
      · cases hPieces : splitAll sep rest with
        | nil => exact absurd hPieces (splitAll_ne_nil rest)
        | cons piece pieces => simp [hSep]

end Text

namespace Version

variable {ls rs ts : List Nat} {n : Nat}

theorem rightpad_cons_succ (l : Nat) (ls : List Nat) (n : Nat) :
    (l :: ls).rightpad (n + 1) 0 = l :: ls.rightpad n 0 := by
  simp [List.rightpad]

theorem rightpad_nil_succ (n : Nat) :
    ([] : List Nat).rightpad (n + 1) 0 = 0 :: ([] : List Nat).rightpad n 0 := by
  simp [List.rightpad, List.replicate_succ]

/-- Components are compared as the lists of one length that they are with zeros behind. -/
theorem compareComponents_eq (hLeft : ls.length ≤ n) (hRight : rs.length ≤ n) :
    compareComponents ls rs = List.compareLex compare (ls.rightpad n 0) (rs.rightpad n 0) := by
  fun_induction compareComponents ls rs generalizing n with
  | case1 => exact Std.ReflCmp.compare_self.symm
  | case2 l ls ih =>
      cases n with
      | zero => simp at hLeft
      | succ n =>
          rw [rightpad_cons_succ, rightpad_nil_succ, List.compareLex_cons_cons,
            ih (Nat.le_of_succ_le_succ hLeft) (Nat.zero_le n)]
  | case3 r rs ih =>
      cases n with
      | zero => simp at hRight
      | succ n =>
          rw [rightpad_cons_succ, rightpad_nil_succ, List.compareLex_cons_cons,
            ih (Nat.zero_le n) (Nat.le_of_succ_le_succ hRight)]
  | case4 l ls r rs ih =>
      cases n with
      | zero => simp at hLeft
      | succ n =>
          rw [rightpad_cons_succ, rightpad_cons_succ, List.compareLex_cons_cons,
            ih (Nat.le_of_succ_le_succ hLeft) (Nat.le_of_succ_le_succ hRight)]

/-- Lists of one length are ordered by their first difference, and so are components. -/
instance : Std.TransCmp compareComponents where
  eq_swap {ls rs} := by
    have hLeft : ls.length ≤ max ls.length rs.length := Nat.le_max_left _ _
    have hRight : rs.length ≤ max ls.length rs.length := Nat.le_max_right _ _
    rw [compareComponents_eq hLeft hRight, compareComponents_eq hRight hLeft]
    exact Std.OrientedCmp.eq_swap
  isLE_trans {ls rs ts} hFirst hSecond := by
    obtain ⟨n, hls, hrs, hts⟩ : ∃ n, ls.length ≤ n ∧ rs.length ≤ n ∧ ts.length ≤ n :=
      ⟨ls.length + rs.length + ts.length, by omega, by omega, by omega⟩
    rw [compareComponents_eq hls hrs] at hFirst
    rw [compareComponents_eq hrs hts] at hSecond
    rw [compareComponents_eq hls hts]
    exact Std.TransCmp.isLE_trans hFirst hSecond

theorem compareComponents_swap (ls rs : List Nat) :
    compareComponents ls rs = (compareComponents rs ls).swap := Std.OrientedCmp.eq_swap

theorem compareTexts_swap (x y : String) : compareTexts x y = (compareTexts y x).swap :=
  compareComponents_swap _ _

instance : Std.TransCmp compareTexts where
  eq_swap := compareTexts_swap _ _
  isLE_trans hFirst hSecond := by
    rw [compareTexts] at hFirst hSecond ⊢
    exact Std.TransCmp.isLE_trans hFirst hSecond

theorem rightpad_snoc_zero (h : ls.length < n) : (ls ++ [0]).rightpad n 0 = ls.rightpad n 0 := by
  obtain ⟨k, rfl⟩ : ∃ k, n = ls.length + 1 + k := ⟨n - (ls.length + 1), by omega⟩
  have hLong : ls.length + 1 + k - (ls ++ [0]).length = k := by simp
  have hShort : ls.length + 1 + k - ls.length = k + 1 := by omega
  rw [List.rightpad, List.rightpad, hLong, hShort, List.append_assoc, List.replicate_succ]
  rfl

/-- A zero behind the components does not count. -/
theorem compareComponents_snoc_zero (ls rs : List Nat) :
    compareComponents (ls ++ [0]) rs = compareComponents ls rs := by
  obtain ⟨n, hls, hrs⟩ : ∃ n, ls.length < n ∧ rs.length ≤ n :=
    ⟨ls.length + rs.length + 1, by omega, by omega⟩
  have hLong : (ls ++ [0]).length ≤ n := by
    rw [List.length_append]
    exact hls
  rw [compareComponents_eq hLong hrs, compareComponents_eq hls.le hrs, rightpad_snoc_zero hls]

theorem components_append_zero (x : String) :
    components (x ++ ".0").toList = components x.toList ++ [0] := by
  have hText : (x ++ ".0").toList = x.toList ++ '.' :: ['0'] := by simp
  have hZero : components ['0'] = [0] := by decide +kernel
  rw [components, hText, Text.splitAll_append_sep, List.map_append, ← components, ← components,
    hZero]

theorem compareTexts_append_zero_left (x y : String) :
    compareTexts (x ++ ".0") y = compareTexts x y := by
  rw [compareTexts, components_append_zero, compareComponents_snoc_zero, ← compareTexts]

theorem compareTexts_append_zero_right (x y : String) :
    compareTexts x (y ++ ".0") = compareTexts x y := by
  rw [compareTexts_swap, compareTexts_append_zero_left, ← compareTexts_swap]

end Version

namespace Binary64

theorem compare?_swap (x y : Binary64) : y.compare? x = (x.compare? y).map Ordering.swap := by
  cases x with
  | nan => cases y <;> rfl
  | infinity s =>
      cases y with
      | infinity t => cases s <;> cases t <;> rfl
      | finite => cases s <;> rfl
      | nan => rfl
  | finite s m e =>
      cases y with
      | infinity t => cases t <;> rfl
      | nan => rfl
      | finite t m' e' =>
          simp only [compare?, Option.map_some]
          rcases lt_trichotomy (finite s m e).toRat (finite t m' e').toRat with
            hLess | hSame | hGreater
          · simp [hLess, hLess.not_gt, hLess.ne']
          · simp [hSame]
          · simp [hGreater, hGreater.not_gt, hGreater.ne']

end Binary64

namespace Operand

variable {actual expected : String}

/-- Two texts that have changed places are ordered the other way round. -/
theorem compareValues?_swap (actual expected : String) :
    compareValues? expected actual = (compareValues? actual expected).map Ordering.swap := by
  rw [compareValues?, compareValues?, Bool.and_comm]
  split
  · rw [Option.map_some, Version.compareComponents_swap]
  · cases number? (Text.trim actual.toList) with
    | none => cases number? (Text.trim expected.toList) <;> rfl
    | some x =>
        cases number? (Text.trim expected.toList) with
        | none => rfl
        | some y => exact Binary64.compare?_swap x y

/-- The four conditions on the order of two texts go together, and so do those in which the texts
have changed places. -/
structure OrderingsCohere (actual expected : String) : Prop where
  apart : (compareValues? actual expected = none ∧ ¬ (greaterThan expected).matchesText actual ∧
      ¬ (greaterOrEqual expected).matchesText actual ∧ ¬ (lessThan expected).matchesText actual ∧
      ¬ (lessOrEqual expected).matchesText actual) ∨
    (((greaterOrEqual expected).matchesText actual ↔ ¬ (lessThan expected).matchesText actual) ∧
      ((lessOrEqual expected).matchesText actual ↔ ¬ (greaterThan expected).matchesText actual) ∧
      ¬ ((greaterThan expected).matchesText actual ∧ (lessThan expected).matchesText actual))
  greater_iff : (greaterThan expected).matchesText actual ↔ (lessThan actual).matchesText expected
  greaterOrEqual_iff :
    (greaterOrEqual expected).matchesText actual ↔ (lessOrEqual actual).matchesText expected

theorem ordered_coherently (actual expected : String) : OrderingsCohere actual expected := by
  have hSwap := compareValues?_swap actual expected
  cases hOrder : compareValues? actual expected with
  | none =>
      rw [hOrder] at hSwap
      exact ⟨.inl (by simp [matchesText, hOrder]), by simp [matchesText, hOrder, hSwap],
        by simp [matchesText, hOrder, hSwap]⟩
  | some order =>
      rw [hOrder] at hSwap
      refine ⟨.inr ?_, ?_, ?_⟩ <;> cases order <;> simp [matchesText, hOrder, hSwap]

/-- Versions are in a total preorder, which does not see zeros at the end. The conditions on the
order of two texts cohere, whether these are versions, numbers, or neither. -/
theorem orderings_cohere (x y z : String) :
    Version.compareTexts x x = .eq ∧
    Version.compareTexts y x = (Version.compareTexts x y).swap ∧
    ((Version.compareTexts x y).isLE → (Version.compareTexts y z).isLE →
      (Version.compareTexts x z).isLE) ∧
    (Version.compareTexts x y = .eq → Version.compareTexts y z = .eq →
      Version.compareTexts x z = .eq) ∧
    Version.compareTexts (x ++ ".0") y = Version.compareTexts x y ∧
    Version.compareTexts x (y ++ ".0") = Version.compareTexts x y ∧
    OrderingsCohere x y :=
  ⟨Std.ReflCmp.compare_self, Std.OrientedCmp.eq_swap, Std.TransCmp.isLE_trans,
    Std.TransCmp.eq_trans, Version.compareTexts_append_zero_left x y,
    Version.compareTexts_append_zero_right x y, ordered_coherently x y⟩

/-- Releases with fewer components, with more of them, and with one that is no number. -/
theorem releases_cohere :
    (Version.compareTexts "17.2" "17.2.0").isLE ∧ (Version.compareTexts "17.2.0" "17.10").isLE ∧
      (Version.compareTexts "17.2" "17.10").isLE ∧
      Version.compareTexts "17.2.0" "17.2" = .eq ∧ Version.compareTexts "17.2" "17.2.x" = .eq ∧
      Version.compareTexts "17.2.0" "17.2.x" = .eq ∧
      (greaterThan "17.2").matchesText "17.10" ∧ (lessThan "17.10").matchesText "17.2" := by
  have hFirst : (Version.compareTexts "17.2" "17.2.0").isLE := by decide +kernel
  have hSecond : (Version.compareTexts "17.2.0" "17.10").isLE := by decide +kernel
  have hThird : (Version.compareTexts "17.2" "17.10").isLE :=
    (orderings_cohere "17.2" "17.2.0" "17.10").2.2.1 hFirst hSecond
  have hSame : Version.compareTexts "17.2.0" "17.2" = .eq := by decide +kernel
  have hSame' : Version.compareTexts "17.2" "17.2.x" = .eq := by decide +kernel
  have hSame'' : Version.compareTexts "17.2.0" "17.2.x" = .eq :=
    (orderings_cohere "17.2.0" "17.2" "17.2.x").2.2.2.1 hSame hSame'
  have hGreater : (greaterThan "17.2").matchesText "17.10" := by decide +kernel
  have hLess : (lessThan "17.10").matchesText "17.2" :=
    (orderings_cohere "17.10" "17.2" "17.2").2.2.2.2.2.2.greater_iff.mp hGreater
  exact ⟨hFirst, hSecond, hThird, hSame, hSame', hSame'', hGreater, hLess⟩

end Operand

end FlagDecision
