import FlagDecision.Proofs.GlobText
import FlagDecision.Proofs.LetterCase
import FlagDecision.Proofs.Meaning
import FlagDecision.Proofs.PatternSearch

/-! Wildcards for the user agent. In ASCII and on one line, the pattern of a wildcard matches a
text if the text is the wildcard with some text for every star, up to case. -/
namespace FlagDecision

open Text
open Relation (Comp)

namespace Pattern

variable {text g b : List Char} {s : CharSet} {c : Char} {unicode : Bool} {i j : Nat}

/-! Parts of a wildcard. -/

/-- The only character of a set is its only member. -/
theorem mem_iff_of_single? (hValid : ∀ r ∈ s.ranges, r.first.isValidChar)
    (hc : s.single? = some c) (d : Char) : s.mem d ↔ d = c := by
  obtain ⟨ranges⟩ := s
  match ranges, hc with
  | [r], hc =>
      simp only [CharSet.single?, Option.ite_none_right_eq_some, Option.some.injEq] at hc
      obtain ⟨hPoint, rfl⟩ := hc
      have hCode : (Char.ofNat r.first).toNat = r.first := by
        rw [Char.ofNat, dif_pos (hValid r List.mem_cons_self)]
        rfl
      simp only [CharSet.mem, CharSet.hasCode, CodeRange.contains, List.any_cons, List.any_nil,
        Bool.or_false, Bool.and_eq_true, decide_eq_true_eq, ← hPoint, ← Char.toNat_inj, hCode]
      omega

/-- The pattern of a set spans each character of the set, however it is written. -/
theorem spans_ofSet_iff (hValid : ∀ r ∈ s.ranges, r.first.isValidChar) :
    Spans text (ofSet s unicode) i j ↔ ∃ c, text[i]? = some c ∧ s.mem c ∧ j = i + 1 := by
  rw [ofSet]
  split
  · rename_i hEmpty
    obtain ⟨ranges⟩ := s
    obtain rfl : ranges = [] := List.isEmpty_iff.mp hEmpty
    rfl
  · split
    · rename_i c hSingle
      have hHead : [c] <+: text.drop i ↔ text[i]? = some c := by
        rw [List.prefix_iff_eq_take, ← List.head?_drop]
        cases text.drop i <;> simp [eq_comm]
      simp only [Spans, hHead, mem_iff_of_single? hValid hSingle, List.length_singleton]
      constructor
      · rintro ⟨hHere, hEnd⟩
        exact ⟨c, hHere, rfl, hEnd⟩
      · rintro ⟨d, hHere, rfl, hEnd⟩
        exact ⟨hHere, hEnd⟩
    · rfl

theorem mem_compl_lineFeed (hc : c ≠ '\n') : (CharSet.char '\n').compl.mem c := by
  have hRanges : (CharSet.char '\n').compl = ⟨[⟨0, 9⟩, ⟨11, CodeRange.greatest⟩]⟩ := rfl
  have hOther : c.toNat ≠ 10 := fun h => hc (Char.toNat_inj.mp h)
  have hGreatest : c.toNat ≤ CodeRange.greatest := by
    have hValid : c.toNat < 0xD800 ∨ 0xDFFF < c.toNat ∧ c.toNat < 0x110000 := c.valid
    rw [CodeRange.greatest]
    omega
  rw [hRanges]
  simp only [CharSet.mem, CharSet.hasCode, CodeRange.contains, List.any_cons, List.any_nil,
    Bool.or_false, Bool.or_eq_true, Bool.and_eq_true, decide_eq_true_eq]
  omega

/-- On a single line, any number of characters that are no line feeds. -/
theorem steps_line (hLine : '\n' ∉ text) {n : Nat} (hInside : i + n ≤ text.length) :
    Steps (Spans text (set (CharSet.char '\n').compl true)) n i (i + n) := by
  induction n generalizing i with
  | zero => rfl
  | succ n ih =>
      refine ⟨i + 1, ⟨text[i], List.getElem?_eq_getElem _, ?_, rfl⟩, ?_⟩
      · exact mem_compl_lineFeed fun hFeed => hLine (hFeed ▸ List.getElem_mem _)
      · rw [Nat.add_comm n, ← Nat.add_assoc]
        exact ih (by omega)

/-- A star spans from a place on a single line to any later one. -/
theorem spans_star_iff (hLine : '\n' ∉ text) (hi : i ≤ text.length) :
    Spans text (glob.piece '*') i j ↔ i ≤ j ∧ j ≤ text.length := by
  have hForward := spans_forward text (glob.piece '*')
  constructor
  · intro hSpans
    have hInside := hForward.inside hSpans
    exact ⟨hForward.le hSpans, by omega⟩
  · rintro ⟨hOrder, hInside⟩
    obtain ⟨n, rfl⟩ := Nat.exists_eq_add_of_le hOrder
    refine ⟨n, by simp, ?_⟩
    rw [Nat.zero_add]
    exact steps_line hLine hInside

/-- Another character of a wildcard spans the same character in either case. -/
theorem spans_char_iff (hText : ∀ d ∈ text, d.toNat < 0x80) (hc : c.toNat < 0x80)
    (hStar : c ≠ '*') :
    Spans text (glob.piece c) i j ↔
      ∃ d, text[i]? = some d ∧ c.toLower = d.toLower ∧ j = i + 1 := by
  rw [glob.piece, if_neg hStar, spans_ofSet_iff (CharSet.isValidChar_of_mem_anyCase_char hc)]
  refine exists_congr fun d => and_congr_right fun hHere => and_congr_left' ?_
  exact CharSet.mem_anyCase_char_iff hc (hText d (List.mem_of_getElem? hHere))

/-! Whole wildcards. -/

/-- The text is the wildcard with some text in the place of every star. -/
inductive Fills : List Char → List Char → Prop
  | nil : Fills [] []
  | star (filler : List Char) {g b : List Char} : Fills g b → Fills ('*' :: g) (filler ++ b)
  | char {c : Char} {g b : List Char} : c ≠ '*' → Fills g b → Fills (c :: g) (c :: b)

/-- The text from some place on is the wildcard with its stars filled, up to case. -/
def FillsFrom (text g : List Char) (i : Nat) : Prop :=
  ∃ b, Fills g b ∧ b.map Char.toLower = (text.drop i).map Char.toLower

theorem fillsFrom_nil_iff (hi : i ≤ text.length) : FillsFrom text [] i ↔ i = text.length := by
  constructor
  · rintro ⟨b, hFills, hText⟩
    cases hFills
    have hLength := congrArg List.length hText
    simp only [List.length_map, List.length_nil, List.length_drop] at hLength
    omega
  · rintro rfl
    exact ⟨[], .nil, by simp⟩

theorem fillsFrom_star_iff (hi : i ≤ text.length) :
    FillsFrom text ('*' :: g) i ↔ ∃ k, (i ≤ k ∧ k ≤ text.length) ∧ FillsFrom text g k := by
  constructor
  · rintro ⟨_, hFills, hText⟩
    cases hFills with
    | char hStar _ => exact absurd rfl hStar
    | @star filler _ b hRest =>
      have hLength := congrArg List.length hText
      simp only [List.length_map, List.length_append, List.length_drop] at hLength
      refine ⟨i + filler.length, ⟨by omega, by omega⟩, b, hRest, ?_⟩
      have hTail := congrArg (List.drop filler.length) hText
      rwa [← List.map_drop, ← List.map_drop, List.drop_left, List.drop_drop] at hTail
  · rintro ⟨k, ⟨hOrder, hInside⟩, b, hRest, hText⟩
    obtain ⟨n, rfl⟩ := Nat.exists_eq_add_of_le hOrder
    refine ⟨(text.drop i).take n ++ b, .star _ hRest, ?_⟩
    rw [List.map_append, hText, ← List.map_append, ← List.drop_drop, List.take_append_drop]

theorem fillsFrom_char_iff (hStar : c ≠ '*') :
    FillsFrom text (c :: g) i ↔
      ∃ d, text[i]? = some d ∧ c.toLower = d.toLower ∧ FillsFrom text g (i + 1) := by
  constructor
  · rintro ⟨_, hFills, hText⟩
    cases hFills with
    | star => exact absurd rfl hStar
    | @char _ _ b _ hRest =>
      rw [List.map_cons] at hText
      obtain ⟨d, rest, hDrop, hLetter, hMore⟩ := List.map_eq_cons_iff.mp hText.symm
      refine ⟨d, by rw [← List.head?_drop, hDrop]; rfl, hLetter.symm, b, hRest, ?_⟩
      rw [← List.tail_drop, hDrop, List.tail_cons, hMore]
  · rintro ⟨d, hHere, hLetter, b, hRest, hText⟩
    obtain ⟨hInside, rfl⟩ := List.getElem?_eq_some_iff.mp hHere
    refine ⟨c :: b, .char hStar hRest, ?_⟩
    rw [List.drop_eq_getElem_cons hInside, List.map_cons, List.map_cons, hLetter, hText]

/-- The parts of a wildcard lead from a place to the end of the text if the rest of the text is the
wildcard with its stars filled, up to case. -/
theorem spansAll_glob_iff (hText : ∀ d ∈ text, d.toNat < 0x80) (hLine : '\n' ∉ text)
    (hGlob : ∀ c ∈ g, c.toNat < 0x80) (hi : i ≤ text.length) :
    (∃ j, SpansAll text (g.map glob.piece ++ [anchor .textEnd]) i j) ↔ FillsFrom text g i := by
  -- By induction on the wildcard: for its first character, both sides take the same part of the
  -- text.
  induction g generalizing i with
  | nil =>
      have hEnd : ∀ j, Spans text (anchor .textEnd) i j ↔ text.length ≤ i ∧ i = j := by
        simp [Spans, Anchor.holds]
      rw [fillsFrom_nil_iff hi]
      simp only [List.map_nil, List.nil_append, SpansAll, Relation.comp_eq, hEnd]
      constructor
      · rintro ⟨j, hPast, -⟩
        exact Nat.le_antisymm hi hPast
      · rintro rfl
        exact ⟨_, Nat.le_refl _, rfl⟩
  | cons c g ih =>
      have hFirst : (∃ j, SpansAll text ((c :: g).map glob.piece ++ [anchor .textEnd]) i j) ↔
          ∃ k, Spans text (glob.piece c) i k ∧
            ∃ j, SpansAll text (g.map glob.piece ++ [anchor .textEnd]) k j := by
        constructor
        · rintro ⟨j, k, hHere, hRest⟩
          exact ⟨k, hHere, j, hRest⟩
        · rintro ⟨k, hHere, j, hRest⟩
          exact ⟨j, k, hHere, hRest⟩
      have hTail : ∀ d ∈ g, d.toNat < 0x80 := fun d hd => hGlob d (List.mem_cons_of_mem _ hd)
      rw [hFirst]
      by_cases hStar : c = '*'
      · subst hStar
        rw [fillsFrom_star_iff hi]
        refine exists_congr fun k => ?_
        rw [spans_star_iff hLine hi]
        exact and_congr_right fun hk => ih hTail hk.2
      · rw [fillsFrom_char_iff hStar]
        simp only [spans_char_iff hText (hGlob c List.mem_cons_self) hStar]
        constructor
        · rintro ⟨_, ⟨d, hHere, hLetter, rfl⟩, hRest⟩
          have hInside := (List.getElem?_eq_some_iff.mp hHere).1
          exact ⟨d, hHere, hLetter, (ih hTail hInside).mp hRest⟩
        · rintro ⟨d, hHere, hLetter, hRest⟩
          have hInside := (List.getElem?_eq_some_iff.mp hHere).1
          exact ⟨i + 1, ⟨d, hHere, hLetter, rfl⟩, (ih hTail hInside).mpr hRest⟩

/-- The pattern of a wildcard is in a text if the text is the wildcard with its stars filled, up to
case. -/
theorem matchesIn_glob_iff {a : String} (hText : ∀ c ∈ a.toList, c.toNat < 0x80)
    (hLine : '\n' ∉ a.toList) (hGlob : ∀ c ∈ g, c.toNat < 0x80) :
    (glob g).matchesIn a ↔
      ∃ b, Fills g b ∧ b.map Char.toLower = a.toList.map Char.toLower := by
  have hAnchor : ∀ i ≤ a.toList.length, ∀ k, Spans a.toList (anchor .textStart) i k ↔
      i = 0 ∧ k = 0 := by
    intro i hi k
    rcases i.eq_zero_or_pos with rfl | hPos
    · simp [Spans, Anchor.holds, eq_comm]
    · -- Behind the start there is a character before the place.
      have hInside : i - 1 < a.toList.length := by omega
      simp [Spans, Anchor.holds, hPos.ne', hInside]
  rw [matchesIn_iff, glob, spans_concat]
  simp only [List.cons_append, SpansAll, Comp]
  constructor
  · rintro ⟨i, hi, j, k, hHere, hRest⟩
    obtain ⟨rfl, rfl⟩ := (hAnchor i hi k).mp hHere
    exact (spansAll_glob_iff hText hLine hGlob hi).mp ⟨j, hRest⟩
  · intro hFills
    obtain ⟨j, hRest⟩ := (spansAll_glob_iff hText hLine hGlob (Nat.zero_le _)).mpr hFills
    exact ⟨0, Nat.zero_le _, j, 0, (hAnchor 0 (Nat.zero_le _) 0).mpr ⟨rfl, rfl⟩, hRest⟩

end Pattern

namespace Segment

variable {env : Setting} {info : AgentInfo} {field : AgentField} {g a : String}

theorem wildcardGlob?_written (g : String) :
    wildcardGlob? ("wildcard(" ++ g ++ ")").toList = some g.toList := by
  have hText : ("wildcard(" ++ g ++ ")").toList = "wildcard(".toList ++ (g.toList ++ [')']) := by
    rw [String.toList_append, String.toList_append, List.append_assoc]
    rfl
  simp only [hText, wildcardGlob?, List.drop_left, List.reverse_append]
  simp

theorem agentMatches_wildcard (hInfo : env.provider.agentInfo env.user = some info)
    (hField : info.get? field = some a) (hFits : (Pattern.glob g.toList).fits) :
    agentMatches env [(field, "wildcard(" ++ g ++ ")")] = (Pattern.glob g.toList).matchesIn a := by
  have hValue : agentValueMatches ("wildcard(" ++ g ++ ")") a =
      (Pattern.glob g.toList).matchesIn a := by
    simp only [agentValueMatches, wildcardGlob?_written, hFits, Bool.true_and]
  simp only [agentMatches, hInfo, List.any_cons, List.any_nil, Bool.or_false, hField,
    Option.any_some, hValue]

/-- A wildcard for a part of the user agent. The wildcard is written as a pattern that is read as
the pattern sought, and the condition holds if the part is the wildcard with some text in
the place of every star, up to case. -/
theorem agent_wildcard_fills (hInfo : env.provider.agentInfo env.user = some info)
    (hField : info.get? field = some a) (hText : ∀ c ∈ a.toList, c.toNat < 0x80)
    (hLine : '\n' ∉ a.toList) (hGlob : ∀ c ∈ g.toList, c.toNat < 0x80)
    (hFits : (Pattern.glob g.toList).fits) (attributes : Attributes) (desk : ListDesk) :
    Pattern.ofString? (Pattern.globText g.toList) = some (.glob g.toList) ∧
      (((holds env attributes (.agent field ("wildcard(" ++ g ++ ")"))).run desk).1 ↔
        ∃ b, Pattern.Fills g.toList b ∧ b.map Char.toLower = a.toList.map Char.toLower) := by
  refine ⟨Pattern.ofString?_globText hFits, ?_⟩
  rw [holds, agentMatches_wildcard hInfo hField hFits]
  exact Pattern.matchesIn_glob_iff hText hLine hGlob

/-- A visitor with a phone. -/
def Setting.caller : Setting :=
  { Setting.visitor with
    user := { id := "u", agentInfo := some { device := some "Pixel 7a (5G)" } } }

/-- Stars that are empty, that follow one another, and that could end in several places, around
characters that have a meaning in patterns. -/
theorem caller_fills :
    (Pattern.glob "*p*L**7A (*)*".toList).fits ∧
      Pattern.ofString? (Pattern.globText "*p*L**7A (*)*".toList) =
        some (.glob "*p*L**7A (*)*".toList) ∧
      ((holds Setting.caller []
        (.agent .device ("wildcard(" ++ "*p*L**7A (*)*" ++ ")"))).run Setting.visitorDesk).1 ∧
      ∃ b, Pattern.Fills "*p*L**7A (*)*".toList b ∧
        b.map Char.toLower = "Pixel 7a (5G)".toList.map Char.toLower := by
  have hFits : (Pattern.glob "*p*L**7A (*)*".toList).fits := by decide +kernel
  have hHolds : ((holds Setting.caller []
      (.agent .device ("wildcard(" ++ "*p*L**7A (*)*" ++ ")"))).run Setting.visitorDesk).1 := by
    decide +kernel
  have hFound : Setting.caller.provider.agentInfo Setting.caller.user =
      some { device := some "Pixel 7a (5G)" } := rfl
  have hDevice : AgentInfo.get? { device := some "Pixel 7a (5G)" } .device =
      some "Pixel 7a (5G)" := rfl
  have hText : ∀ c ∈ "Pixel 7a (5G)".toList, c.toNat < 0x80 := by simp
  have hGlob : ∀ c ∈ "*p*L**7A (*)*".toList, c.toNat < 0x80 := by simp
  have hMeans := agent_wildcard_fills hFound hDevice hText (by decide) hGlob hFits []
    Setting.visitorDesk
  exact ⟨hFits, hMeans.1, hHolds, hMeans.2.mp hHolds⟩

end Segment

end FlagDecision
