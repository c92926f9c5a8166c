import FlagDecision.Proofs.Normalization
import FlagDecision.Proofs.OperandForms
import FlagDecision.Proofs.WholeNumberText
import Mathlib.Data.List.Infix

/-! Wildcards. A value with a star behind it, in front of it, or on both sides stands for
all texts that begin with it, end with it, or have it somewhere. But two numbers are
written plainly first, so a wildcard for them is about digits that may not be there. -/
namespace FlagDecision

namespace Text

/-- Standing somewhere in a text is being a part of it without gaps. -/
theorem occursIn_iff (needle s : List Char) : occursIn needle s ↔ needle <:+: s := by
  induction s with
  | nil => simp [occursIn]
  | cons c rest ih => simp [occursIn, ih, List.infix_cons_iff]

end Text

namespace Operand

/-- A value that wildcards can be made of: some text on one line, without stars at its ends. -/
structure FitsWildcard (value : String) : Prop where
  nonempty : value ≠ ""
  line : '\n' ∉ value.toList
  first : value.toList.head? ≠ some '*'
  last : value.toList.getLast? ≠ some '*'

variable {value actual : String}

/-- For an actual text, the three wildcards of a value tell whether `sought` stands in `text`, at
its beginning, at its end, or anywhere. -/
structure WildcardsSeek (value actual sought text : String) : Prop where
  behind : (parse ("wildcard(" ++ value ++ "*)")).matchesText actual ↔
    sought.toList <+: text.toList
  before : (parse ("wildcard(*" ++ value ++ ")")).matchesText actual ↔
    sought.toList <:+ text.toList
  around : (parse ("wildcard(*" ++ value ++ "*)")).matchesText actual ↔
    sought.toList <:+: text.toList

/-- Each wildcard compares both texts after normalization. -/
theorem FitsWildcard.seeks_normalized (h : FitsWildcard value) (actual : String) :
    WildcardsSeek value actual (normalize value actual).1 (normalize value actual).2 where
  behind := by
    rw [(writtenWith h.line).startsWith h.nonempty h.first]
    simp [matchesText, List.isPrefixOf_iff_prefix]
  before := by
    rw [(writtenWith h.line).endsWith h.last]
    simp [matchesText, List.isSuffixOf_iff_suffix]
  around := by
    rw [(writtenWith h.line).contains]
    simp [matchesText, Text.occursIn_iff]

/-! Whole numbers. -/

/-- A whole number below `2 ^ 53` in its digits. -/
def IsWhole (text : String) : Prop :=
  ∃ n < 2 ^ Binary64.precision, text.toList = Nat.toDigits 10 n

theorem IsWhole.numberText?_eq (h : IsWhole value) : numberText? value = some value := by
  obtain ⟨n, hSmall, hDigits⟩ := h
  have hTrim : Text.trim (Nat.toDigits 10 n) = Nat.toDigits 10 n :=
    Text.trim_eq_self fun c hc => Text.not_isBlank_of_isDigit (isDigit_of_mem_toDigits hc)
  obtain ⟨x, hRead, hFinite, hText⟩ := Binary64.readDecimal?_whole hSmall
  rw [numberText?, number?, hDigits, hTrim, hRead]
  simp [hFinite, hText, ← hDigits]

/-- Wildcards are about the letters of a text. Two numbers, of which one is no version, are written
plainly before they are compared. All other texts, and whole numbers in digits, are
compared as they stand. -/
theorem FitsWildcard.seeks (h : FitsWildcard value) (actual : String) :
    (∀ m n, AreNumbers value actual m n → WildcardsSeek value actual m n) ∧
    ((∀ m n, ¬ AreNumbers value actual m n) → WildcardsSeek value actual value actual) ∧
    (IsWhole value → IsWhole actual → WildcardsSeek value actual value actual) := by
  have hSeeks := h.seeks_normalized actual
  have hNumbers : ∀ m n, AreNumbers value actual m n → WildcardsSeek value actual m n := by
    intro m n hBoth
    rwa [hBoth.normalize_eq] at hSeeks
  have hText : (∀ m n, ¬ AreNumbers value actual m n) →
      WildcardsSeek value actual value actual := by
    intro hNone
    rcases normalize_cases value actual with ⟨m, n, hBoth⟩ | ⟨hSame, -⟩
    · exact absurd hBoth (hNone m n)
    · rwa [hSame] at hSeeks
  refine ⟨hNumbers, hText, fun hWhole hWhole' => ?_⟩
  rcases normalize_cases value actual with ⟨m, n, hBoth⟩ | ⟨-, hNone⟩
  · obtain rfl : value = m := Option.some.inj (hWhole.numberText?_eq.symm.trans hBoth.left)
    obtain rfl : actual = n := Option.some.inj (hWhole'.numberText?_eq.symm.trans hBoth.right)
    exact hNumbers _ _ hBoth
  · exact hText hNone

/-- Words, whole numbers, and numbers with a point. -/
theorem seeks_middle :
    WildcardsSeek "lo wo" "hello world" "lo wo" "hello world" ∧
      WildcardsSeek "12" "5123" "12" "5123" ∧ WildcardsSeek ".0" "5.0" "0" "5" := by
  have hWord : FitsWildcard "lo wo" := ⟨by decide, by decide, by decide, by decide⟩
  have hWhole : FitsWildcard "12" := ⟨by decide, by decide, by decide, by decide⟩
  have hPoint : FitsWildcard ".0" := ⟨by decide, by decide, by decide, by decide⟩
  have hNoNumber : numberText? "lo wo" = none := by decide +kernel
  have hNumbers : AreNumbers ".0" "5.0" "0" "5" :=
    ⟨by decide +kernel, by decide +kernel, by decide +kernel⟩
  refine ⟨(hWord.seeks "hello world").2.1 fun m n h => ?_, ?_, ?_⟩
  · simp [h.left] at hNoNumber
  · exact (hWhole.seeks "5123").2.2 ⟨12, by decide, by decide⟩ ⟨5123, by decide, by decide⟩
  · exact (hPoint.seeks "5.0").1 _ _ hNumbers

/-- A text can end with a value that its wildcard does not find. -/
theorem wildcards_miss :
    ¬ ∀ value actual, FitsWildcard value → WildcardsSeek value actual value actual := by
  intro hSeek
  have hValue : FitsWildcard ".0" := ⟨by decide, by decide, by decide, by decide⟩
  have hEnds : ".0".toList <:+ "5.0".toList := by decide
  have hMissed : ¬ (parse "wildcard(*.0)").matchesText "5.0" := by decide +kernel
  exact hMissed ((hSeek ".0" "5.0" hValue).before.mpr hEnds)

end Operand

end FlagDecision
