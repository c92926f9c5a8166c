import FlagDecision.Operand

/-! Texts that are numbers. Two of them are compared by the plain texts of their numbers,
but two versions, and all other texts, as they stand. Which way it is depends on both
texts: `5.0` and `5.00` are versions for each other and numbers for `5`. So equality is
reflexive and symmetric, and a third text leads from one text to every other one but
from a version to another version. -/
namespace FlagDecision.Operand

variable {x y z m n : String}

/-- The plain text of the number that a text writes. -/
def numberText? (s : String) : Option String := (number? s.toList).map (·.text)

/-- Two texts that are not changed for a comparison of numbers, because they are versions. -/
def AreVersions (x y : String) : Prop :=
  Version.isVersion x.toList ∧ Version.isVersion y.toList

instance (x y : String) : Decidable (AreVersions x y) := inferInstanceAs (Decidable (_ ∧ _))

theorem areVersions_comm : AreVersions x y ↔ AreVersions y x := and_comm

/-- The texts are compared as the numbers `m` and `n`, in plain text. -/
structure AreNumbers (x y m n : String) : Prop where
  apart : ¬ AreVersions x y
  left : numberText? x = some m
  right : numberText? y = some n

theorem normalize_of_versions (h : AreVersions x y) : normalize x y = (x, y) := by
  simp [normalize, h.1, h.2]

theorem normalize_of_number_left (h : numberText? x = none) : normalize x y = (x, y) := by
  have hNumber : number? x.toList = none := Option.map_eq_none_iff.mp h
  simp [normalize, hNumber]

theorem normalize_of_number_right (h : numberText? y = none) : normalize x y = (x, y) := by
  have hNumber : number? y.toList = none := Option.map_eq_none_iff.mp h
  simp [normalize, hNumber]

theorem AreNumbers.normalize_eq (h : AreNumbers x y m n) : normalize x y = (m, n) := by
  obtain ⟨a, hLeft, rfl⟩ := Option.map_eq_some_iff.mp h.left
  obtain ⟨b, hRight, rfl⟩ := Option.map_eq_some_iff.mp h.right
  have hApart := h.apart
  rw [AreVersions, ← Bool.and_eq_true] at hApart
  simp [normalize, hApart, hLeft, hRight]

/-- A comparison changes both texts or neither. -/
theorem normalize_cases (x y : String) :
    (∃ m n, AreNumbers x y m n) ∨
      (normalize x y = (x, y) ∧ ∀ m n, ¬ AreNumbers x y m n) := by
  by_cases hVersions : AreVersions x y
  · exact .inr ⟨normalize_of_versions hVersions, fun m n h => h.apart hVersions⟩
  · cases hLeft : numberText? x with
    | none =>
        refine .inr ⟨normalize_of_number_left hLeft, fun m n h => ?_⟩
        simp [h.left] at hLeft
    | some m =>
        cases hRight : numberText? y with
        | none =>
            refine .inr ⟨normalize_of_number_right hRight, fun m n h => ?_⟩
            simp [h.right] at hRight
        | some n => exact .inl ⟨m, n, hVersions, hLeft, hRight⟩

/-- A text equals another one that is the same, or writes the same number. -/
theorem equals_matches_iff :
    (equals x).matchesText y ↔ x = y ∨ ∃ n, AreNumbers x y n n := by
  have hMatches : (equals x).matchesText y ↔ (normalize x y).1 = (normalize x y).2 := by
    simp [matchesText]
  rw [hMatches]
  rcases normalize_cases x y with ⟨m, n, hNumbers⟩ | ⟨hSame, hOther⟩
  · rw [hNumbers.normalize_eq]
    show m = n ↔ _
    constructor
    · rintro rfl
      exact .inr ⟨m, hNumbers⟩
    · rintro (rfl | ⟨k, hEqual⟩)
      · exact Option.some.inj (hNumbers.left.symm.trans hNumbers.right)
      · exact Option.some.inj (hNumbers.left.symm.trans
          (hEqual.left.trans (hEqual.right.symm.trans hNumbers.right)))
  · simp [hSame, hOther]

theorem AreNumbers.symm (h : AreNumbers x y m n) : AreNumbers y x n m :=
  ⟨fun hVersions => h.apart (areVersions_comm.mp hVersions), h.right, h.left⟩

theorem equals_symm (h : (equals x).matchesText y) : (equals y).matchesText x := by
  rw [equals_matches_iff] at h ⊢
  rcases h with rfl | ⟨n, hNumbers⟩
  · exact .inl rfl
  · exact .inr ⟨n, hNumbers.symm⟩

/-- Two versions are equal only as texts. -/
theorem equals_versions_iff (h : AreVersions x y) : (equals x).matchesText y ↔ x = y := by
  rw [equals_matches_iff]
  exact or_iff_left fun ⟨n, hNumbers⟩ => hNumbers.apart h

/-- Texts that equal one and the same text equal each other, but for different versions. -/
theorem equals_trans_iff (hxy : (equals x).matchesText y) (hyz : (equals y).matchesText z) :
    (equals x).matchesText z ↔ x = z ∨ ¬ AreVersions x z := by
  by_cases hVersions : AreVersions x z
  · simp [equals_versions_iff hVersions, hVersions]
  · simp only [hVersions, not_false_eq_true, or_true, iff_true]
    rw [equals_matches_iff] at hxy hyz ⊢
    rcases hxy with rfl | ⟨m, hFirst⟩
    · exact hyz
    · rcases hyz with rfl | ⟨n, hSecond⟩
      · exact .inr ⟨m, hFirst⟩
      · obtain rfl : m = n := Option.some.inj (hFirst.right.symm.trans hSecond.left)
        exact .inr ⟨m, hVersions, hFirst.left, hSecond.right⟩

/-- Equality is reflexive and symmetric. It is transitive too, unless both ends are versions: these
are equal only if they are the same text, whatever numbers they write. -/
theorem equals_links (x y z : String) :
    (equals x).matchesText x ∧ ((equals x).matchesText y ↔ (equals y).matchesText x) ∧
      ((equals x).matchesText y → (equals y).matchesText z →
        ((equals x).matchesText z ↔ x = z ∨ ¬ AreVersions x z)) :=
  ⟨equals_matches_iff.mpr (.inl rfl), ⟨equals_symm, equals_symm⟩, equals_trans_iff⟩

/-- A version, a whole number and a number with an exponent, all of which are equal. -/
theorem equals_links_five :
    (equals "5.0").matchesText "5" ∧ (equals "5").matchesText " +50e-1" ∧
      (equals "5.0").matchesText " +50e-1" := by
  have hFirst : (equals "5.0").matchesText "5" := by decide +kernel
  have hSecond : (equals "5").matchesText " +50e-1" := by decide +kernel
  have hApart : ¬ AreVersions "5.0" " +50e-1" := by decide +kernel
  exact ⟨hFirst, hSecond,
    ((equals_links "5.0" "5" " +50e-1").2.2 hFirst hSecond).mpr (.inr hApart)⟩

/-- Two versions that both equal a whole number differ. -/
theorem equals_not_trans :
    ¬ ∀ x y z : String, (equals x).matchesText y → (equals y).matchesText z →
      (equals x).matchesText z := by
  intro hTrans
  have hFirst : (equals "5.0").matchesText "5" := by decide +kernel
  have hSecond : (equals "5").matchesText "5.00" := by decide +kernel
  have hThird : ¬ (equals "5.0").matchesText "5.00" := by decide +kernel
  exact hThird (hTrans _ _ _ hFirst hSecond)

end FlagDecision.Operand
