import FlagDecision.GroupMember
import FlagDecision.Proofs.StorageKey
import FlagDecision.Proofs.WholeNumberText

/-! The text of group members. A member is read from one number, or from two around an
underscore, and from no other text. Its own text is one of these, so different
members have different texts. -/
namespace FlagDecision

/-! White space and separators. -/

namespace Text

variable {s before core after first second : List Char} {sep : Char}

theorem trim_decomposes (s : List Char) :
    ∃ before after, s = before ++ trim s ++ after ∧
      (∀ c ∈ before, isBlank c) ∧ ∀ c ∈ after, isBlank c := by
  refine ⟨s.takeWhile isBlank, ((trimStart s).reverse.takeWhile isBlank).reverse, ?_,
    fun c hc => List.mem_takeWhile_imp hc,
    fun c hc => List.mem_takeWhile_imp (List.mem_reverse.mp hc)⟩
  have hEnd : trim s ++ ((trimStart s).reverse.takeWhile isBlank).reverse = trimStart s := by
    rw [trim, ← List.reverse_append]
    exact (congrArg List.reverse List.takeWhile_append_dropWhile).trans (List.reverse_reverse _)
  rw [List.append_assoc, hEnd]
  exact List.takeWhile_append_dropWhile.symm

theorem trimStart_append (hBefore : ∀ c ∈ before, isBlank c) (s : List Char) :
    trimStart (before ++ s) = trimStart s :=
  List.dropWhile_append_of_pos hBefore

/-- What stands between white space is left over, if it has none itself. -/
theorem trim_between (hBefore : ∀ c ∈ before, isBlank c) (hAfter : ∀ c ∈ after, isBlank c)
    (hCore : ∀ c ∈ core, isBlank c = false) : trim (before ++ core ++ after) = core := by
  have hCut : trim (before ++ core ++ after) = trim (core ++ after) := by
    rw [trim, List.append_assoc, trimStart_append hBefore, trim]
  rw [hCut]
  cases core with
  | nil =>
      have hNone : trimStart after = [] := List.dropWhile_eq_nil_iff.mpr hAfter
      rw [List.nil_append, trim, hNone]
      rfl
  | cons c rest =>
      have hStay : ∀ t, trimStart (c :: t) = c :: t := fun t =>
        List.dropWhile_cons_of_neg (by simp [hCore c List.mem_cons_self])
      have hLast : ∀ d ∈ after.reverse, isBlank d := fun d hd => hAfter d (List.mem_reverse.mp hd)
      have hOwn := trim_eq_self hCore
      rw [trim, hStay] at hOwn
      rw [trim, List.cons_append, hStay, ← List.cons_append, List.reverse_append,
        trimStart_append hLast, hOwn]

theorem splitFirst?_eq_none_iff : splitFirst? sep s = none ↔ sep ∉ s := by
  rw [splitFirst?]
  split
  · rename_i hNone
    rw [List.dropWhile_eq_nil_iff] at hNone
    refine iff_of_true rfl fun hMem => ?_
    simpa using hNone sep hMem
  · rename_i c rest hSome
    have hSep : c = sep := by simpa [hSome] using List.head?_dropWhile_not (· != sep) s
    refine iff_of_false (by simp) fun hAbsent => hAbsent ?_
    rw [← List.takeWhile_append_dropWhile (p := (· != sep)) (l := s), hSome, hSep]
    simp

theorem splitFirst?_eq_some_iff :
    splitFirst? sep s = some (first, second) ↔ s = first ++ sep :: second ∧ sep ∉ first := by
  constructor
  · intro hSplit
    rw [splitFirst?] at hSplit
    split at hSplit
    · cases hSplit
    · rename_i c rest hSome
      have hSep : c = sep := by simpa [hSome] using List.head?_dropWhile_not (· != sep) s
      obtain ⟨rfl, rfl⟩ := Prod.mk.inj (Option.some.inj hSplit)
      refine ⟨?_, fun hMem => by simpa using List.mem_takeWhile_imp hMem⟩
      rw [hSep] at hSome
      rw [← hSome, List.takeWhile_append_dropWhile]
  · rintro ⟨rfl, hFirst⟩
    have hOther : ∀ c ∈ first, (c != sep) = true := fun c hc => by
      rw [bne_iff_ne]
      rintro rfl
      exact hFirst hc
    rw [splitFirst?, List.dropWhile_append_of_pos hOther, List.takeWhile_append_of_pos hOther]
    simp

end Text

/-! Numbers. -/

open Text

variable {s : List Char} {n : Nat}

/-- Some decimal digits, all of them ASCII, for a number of 64 bits. -/
structure IsNumeral (digits : List Char) (n : Nat) : Prop where
  nonempty : digits ≠ []
  isDigit : ∀ c ∈ digits, c.isDigit
  value : Nat.ofDigitChars 10 digits 0 = n
  fits : n < 2 ^ 64

/-- A text with a number of 64 bits in it and otherwise white space around. A plus sign may stand
directly in front of the digits. -/
def WritesWord (s : List Char) (n : Nat) : Prop :=
  ∃ before core after, s = before ++ core ++ after ∧
    (∀ c ∈ before, isBlank c) ∧ (∀ c ∈ after, isBlank c) ∧
    ∃ digits, (core = digits ∨ core = '+' :: digits) ∧ IsNumeral digits n

/-- The digits of a numeral stand behind a plus sign, or make up a text that begins with none. -/
theorem readWord64?_digits (s : List Char) :
    ∃ digits, (s = '+' :: digits ∨ s = digits ∧ ∀ rest, s ≠ '+' :: rest) ∧
      readWord64? s =
        if digits.isEmpty ∨ ¬ digits.all Char.isDigit then none
        else if digitsValue digits < word64Limit then some (digitsValue digits) else none := by
  cases s with
  | nil => exact ⟨[], by simp, rfl⟩
  | cons c rest =>
      by_cases hPlus : c = '+'
      · subst hPlus
        exact ⟨rest, Or.inl rfl, rfl⟩
      · have hPlain : ∀ tail, c :: rest ≠ '+' :: tail := by simp [hPlus]
        exact ⟨c :: rest, Or.inr ⟨rfl, hPlain⟩, by simp only [readWord64?]⟩

theorem readWord64?_eq_some_iff :
    readWord64? s = some n ↔ ∃ digits, (s = digits ∨ s = '+' :: digits) ∧ IsNumeral digits n := by
  obtain ⟨digits, hText, hRead⟩ := readWord64?_digits s
  rw [hRead]
  constructor
  · intro hValue
    split at hValue
    · cases hValue
    · rename_i hForm
      obtain ⟨hFits, hValue⟩ := Option.ite_none_right_eq_some.mp hValue
      obtain rfl := Option.some.inj hValue
      simp only [List.isEmpty_iff, List.all_eq_true, not_or, not_not] at hForm
      exact ⟨digits, hText.symm.imp And.left id, hForm.1, hForm.2, rfl, hFits⟩
  · rintro ⟨digits', hText', hNumeral⟩
    obtain rfl : digits' = digits := by
      rcases hText with rfl | ⟨rfl, hPlain⟩
      · rcases hText' with rfl | hSame
        · exact absurd (hNumeral.isDigit '+' List.mem_cons_self) (by decide)
        · exact (List.cons.inj hSame).2.symm
      · rcases hText' with hSame | hPlus
        · exact hSame.symm
        · exact absurd hPlus (hPlain digits')
    obtain ⟨hSome, hDigit, rfl, hFits⟩ := hNumeral
    rw [if_neg (by simpa [hSome] using hDigit)]
    exact if_pos hFits

theorem readWord64?_trim_iff : readWord64? (trim s) = some n ↔ WritesWord s n := by
  rw [readWord64?_eq_some_iff]
  constructor
  · rintro ⟨digits, hCore, hNumeral⟩
    obtain ⟨before, after, hText, hBefore, hAfter⟩ := trim_decomposes s
    exact ⟨before, trim s, after, hText, hBefore, hAfter, digits, hCore, hNumeral⟩
  · rintro ⟨before, core, after, rfl, hBefore, hAfter, digits, hCore, hNumeral⟩
    have hSolid : ∀ c ∈ core, isBlank c = false := by
      intro c hc
      have hDigit : c = '+' ∨ c ∈ digits := by rcases hCore with rfl | rfl <;> simp_all
      rcases hDigit with rfl | hDigit
      · decide
      · exact not_isBlank_of_isDigit (hNumeral.isDigit c hDigit)
    rw [trim_between hBefore hAfter hSolid]
    exact ⟨digits, hCore, hNumeral⟩

theorem writesWord_toDigits (h : n < word64Limit) : WritesWord (Nat.toDigits 10 n) n :=
  ⟨[], Nat.toDigits 10 n, [], by simp, by simp, by simp, Nat.toDigits 10 n, Or.inl rfl,
    Nat.toDigits_ne_nil, fun _ => isDigit_of_mem_toDigits, Nat.ofDigitChars_ten_toDigits, h⟩

namespace GroupMember

/-- The identifiers of the member are words of 64 bits. -/
structure FitsWords (m : GroupMember) : Prop where
  campaignId : m.campaignId < word64Limit
  variationId : ∀ v ∈ m.variationId, v < word64Limit

/-- The texts of a member: a number for a campaign, or the numbers of a campaign and of a variation
around the first underscore. -/
inductive WrittenAs (s : List Char) : GroupMember → Prop
  | whole {c : Nat} (hPlain : '_' ∉ s) (hCampaign : WritesWord s c) : WrittenAs s ⟨c, none⟩
  | variation {c v : Nat} {first second : List Char} (hText : s = first ++ '_' :: second)
      (hFirst : '_' ∉ first) (hCampaign : WritesWord first c) (hVariation : WritesWord second v) :
      WrittenAs s ⟨c, some v⟩

theorem parse_eq_ok_iff {s : String} {m : GroupMember} :
    parse s = .ok m ↔ WrittenAs s.toList m := by
  cases hSplit : splitFirst? '_' s.toList with
  | none =>
      have hPlain := splitFirst?_eq_none_iff.mp hSplit
      simp only [parse, hSplit]
      constructor
      · intro hParse
        split at hParse
        · rename_i hRead
          obtain ⟨c, hCampaign, rfl⟩ := Option.map_eq_some_iff.mp hRead
          obtain rfl := Except.ok.inj hParse
          exact .whole hPlain (readWord64?_trim_iff.mp hCampaign)
        · cases hParse
      · rintro (⟨-, hCampaign⟩ | ⟨hText, -, -, -⟩)
        · rw [readWord64?_trim_iff.mpr hCampaign]
          rfl
        · exact absurd (by simp [hText]) hPlain
  | some parts =>
      obtain ⟨first, second⟩ := parts
      obtain ⟨hText, hFirst⟩ := splitFirst?_eq_some_iff.mp hSplit
      simp only [parse, hSplit]
      constructor
      · intro hParse
        split at hParse
        · rename_i hRead
          obtain ⟨c, hCampaign, hRead⟩ := Option.bind_eq_some_iff.mp hRead
          obtain ⟨v, hVariation, hRead⟩ := Option.bind_eq_some_iff.mp hRead
          obtain rfl := Option.some.inj hRead
          obtain rfl := Except.ok.inj hParse
          exact .variation hText hFirst (readWord64?_trim_iff.mp hCampaign)
            (readWord64?_trim_iff.mp hVariation)
        · cases hParse
      · rintro (⟨hPlain, -⟩ | ⟨hText', hFirst', hCampaign, hVariation⟩)
        · exact absurd (by simp [hText]) hPlain
        · obtain ⟨rfl, rfl⟩ := StoredDecision.append_underscore_inj hFirst hFirst'
            (hText.symm.trans hText')
          rw [readWord64?_trim_iff.mpr hCampaign, readWord64?_trim_iff.mpr hVariation]
          rfl

/-- A text that is no member is refused, and the error names it as a whole. -/
theorem parse_eq_error_iff {s : String} {e : ParseError} :
    parse s = .error e ↔ e = ⟨s⟩ ∧ ∀ m, ¬ WrittenAs s.toList m := by
  have hCases : (∃ m, parse s = .ok m) ∨ parse s = .error ⟨s⟩ := by
    simp only [parse]
    split
    · exact Or.inl ⟨_, rfl⟩
    · exact Or.inr rfl
  simp only [← parse_eq_ok_iff]
  rcases hCases with ⟨m, hParse⟩ | hParse
  · simp [hParse]
  · simp [hParse, eq_comm]

theorem text_writtenAs {m : GroupMember} (h : m.FitsWords) : WrittenAs m.text.toList m := by
  obtain ⟨c, _ | v⟩ := m
  · refine .whole ?_ ?_
    all_goals simp only [text, Nat.toString_eq_repr, Nat.toList_repr]
    · exact StoredDecision.underscore_notMem_digits c
    · exact writesWord_toDigits h.campaignId
  · refine .variation ?_ (StoredDecision.underscore_notMem_digits c)
      (writesWord_toDigits h.campaignId) (writesWord_toDigits (h.variationId v rfl))
    simp [text, Nat.toString_eq_repr, Nat.toList_repr]

/-- The text of a member is read as that member, so no other member has it. A text is read if it
writes a member, one number or two, and then as that member. All other texts, with a second
underscore, an empty part, a minus sign or too great a number, are refused as a whole. -/
theorem parse_exact :
    (∀ m : GroupMember, m.FitsWords → parse m.text = .ok m) ∧
    (∀ m m' : GroupMember, m.FitsWords → m'.FitsWords → m.text = m'.text → m = m') ∧
    (∀ s m, parse s = .ok m ↔ WrittenAs s.toList m) ∧
    ∀ s e, parse s = .error e ↔ e = ⟨s⟩ ∧ ∀ m, ¬ WrittenAs s.toList m := by
  have hText : ∀ m : GroupMember, m.FitsWords → parse m.text = .ok m := fun m h =>
    parse_eq_ok_iff.mpr (text_writtenAs h)
  refine ⟨hText, fun m m' h h' hSame => ?_, fun s m => parse_eq_ok_iff,
    fun s e => parse_eq_error_iff⟩
  have hOwn := hText m h
  rw [hSame, hText m' h'] at hOwn
  exact (Except.ok.inj hOwn).symm

/-- The greatest identifier, a text with white space and a sign, and one with two underscores. -/
theorem greatest_exact :
    FitsWords ⟨7, some 18446744073709551615⟩ ∧
      parse (text ⟨7, some 18446744073709551615⟩) = .ok ⟨7, some 18446744073709551615⟩ ∧
      (FitsWords ⟨12, none⟩ ∧ text ⟨12, none⟩ ≠ text ⟨1, some 2⟩) ∧
      WrittenAs " +07_ 3".toList ⟨7, some 3⟩ ∧ ∀ m, ¬ WrittenAs "1_2_3".toList m := by
  obtain ⟨hText, hApart, hRead, hRefused⟩ := parse_exact
  have hGreatest : FitsWords ⟨7, some 18446744073709551615⟩ := ⟨by decide, by decide⟩
  have hTwelve : FitsWords ⟨12, none⟩ := ⟨by decide, by decide⟩
  have hOneTwo : FitsWords ⟨1, some 2⟩ := ⟨by decide, by decide⟩
  refine ⟨hGreatest, hText _ hGreatest, ⟨hTwelve, fun hSame => ?_⟩,
    (hRead " +07_ 3" _).mp (by decide), ((hRefused "1_2_3" ⟨"1_2_3"⟩).mp (by decide)).2⟩
  exact absurd (hApart _ _ hTwelve hOneTwo hSame) (by decide)

example : ∀ s ∈ ["1_2_3", "1_", "_1", "-1", "1_-2", "18446744073709551616", "1 2", "", " "],
    parse? s = none := by decide

end GroupMember

end FlagDecision
