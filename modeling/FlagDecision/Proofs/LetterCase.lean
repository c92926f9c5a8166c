import FlagDecision.Text.Folding

/-! The cases of ASCII characters. Of all that equals an ASCII character up to case, only its other
letter is ASCII too; beyond ASCII there are the Kelvin sign for `k` and the long s for
`s`. Of the table of cases, three entries touch ASCII, and the others play no part. -/
namespace FlagDecision.Text

namespace CaseShift

variable {m : CaseShift} {s : CharSet}

/-- No range of ASCII characters meets one that begins after them. -/
theorem meeting_eq_nil {first last : Nat} (hFar : 0x80 ≤ first)
    (hAscii : ∀ r ∈ s.ranges, r.last < 0x80) :
    (s.ranges.filter fun r => r.first ≤ last && first ≤ r.last) = [] := by
  refine List.filter_eq_nil_iff.mpr fun r hr => ?_
  have := hAscii r hr
  simp only [Bool.and_eq_true, decide_eq_true_eq]
  omega

theorem image_eq_nil (hFar : 0x80 ≤ m.first) (hAscii : ∀ r ∈ s.ranges, r.last < 0x80) :
    m.image s = [] := by
  rw [image, meeting_eq_nil hFar hAscii]
  rfl

theorem sources_eq_nil (hFar : 0x80 ≤ m.target m.first) (hAscii : ∀ r ∈ s.ranges, r.last < 0x80) :
    m.sources s = [] := by
  rw [sources, meeting_eq_nil hFar hAscii]
  rfl

end CaseShift

/-- The entries of the table of cases that lead from ASCII or to it. -/
def asciiShifts : List CaseShift :=
  [⟨0x41, 0x5A, 1, 32⟩, ⟨0x17F, 0x17F, 1, -268⟩, ⟨0x212A, 0x212A, 1, -8383⟩]

theorem asciiShifts_eq :
    (foldShifts.filter fun m => m.first < 0x80 || m.target m.first < 0x80) = asciiShifts := by
  decide +kernel

/-- What entries apart from ASCII do not contribute to comes from the three others. -/
theorem flatMap_foldShifts {f : CaseShift → List Nat}
    (hFar : ∀ m, 0x80 ≤ m.first → 0x80 ≤ m.target m.first → f m = []) :
    foldShifts.flatMap f = asciiShifts.flatMap f := by
  rw [← asciiShifts_eq]
  induction foldShifts with
  | nil => rfl
  | cons m rest ih =>
      rw [List.flatMap_cons, ih, List.filter_cons]
      split
      · rfl
      · rename_i hOther
        simp only [Bool.or_eq_true, decide_eq_true_eq, not_or, Nat.not_lt] at hOther
        rw [hFar m hOther.1 hOther.2, List.nil_append]

namespace CharSet

/-- The set with all that the shifts take it to, and with all that they take to any of these. -/
def closure (shifts : List CaseShift) (s : CharSet) : CharSet :=
  let bases := s.union (ofCodes (shifts.flatMap (·.image s)))
  bases.union (ofCodes (shifts.flatMap (·.sources bases)))

/-- The code points that equal an ASCII one up to case. -/
def asciiCases (n : Nat) : List Nat :=
  let sign := if n = 0x4B ∨ n = 0x6B then [0x212A] else if n = 0x53 ∨ n = 0x73 then [0x17F] else []
  if 0x41 ≤ n ∧ n ≤ 0x5A then n :: (n + 32) :: sign
  else if 0x61 ≤ n ∧ n ≤ 0x7A then (n - 32) :: n :: sign
  else [n]

theorem anyCase_ascii : ∀ n < 0x80,
    (∀ r ∈ ((char (Char.ofNat n)).union
      (ofCodes (asciiShifts.flatMap (·.image (char (Char.ofNat n)))))).ranges, r.last < 0x80) ∧
    (closure asciiShifts (char (Char.ofNat n))).ranges =
      (asciiCases n).map fun n => ⟨n, n⟩ := by
  -- Each of the 128 sets is computed, which is feasible with three entries but not with all.
  decide +kernel

variable {c d : Char}

theorem ranges_anyCase_char (hc : c.toNat < 0x80) :
    (char c).anyCase.ranges = (asciiCases c.toNat).map fun n => ⟨n, n⟩ := by
  obtain ⟨hBases, hRanges⟩ := anyCase_ascii c.toNat hc
  rw [Char.ofNat_toNat] at hBases hRanges
  have hSelf : ∀ r ∈ (char c).ranges, r.last < 0x80 := by simpa [char] using hc
  have hImages : foldShifts.flatMap (·.image (char c)) = asciiShifts.flatMap (·.image (char c)) :=
    flatMap_foldShifts fun m hFar _ => CaseShift.image_eq_nil hFar hSelf
  have hSources := flatMap_foldShifts fun m _ hFar => CaseShift.sources_eq_nil hFar hBases
  rw [anyCase, hImages, hSources]
  exact hRanges

theorem toNat_toLower (hc : c.toNat < 0x80) :
    c.toLower.toNat = if 0x41 ≤ c.toNat ∧ c.toNat ≤ 0x5A then c.toNat + 32 else c.toNat := by
  have hAll : ∀ n < 0x80, (Char.ofNat n).toLower.toNat =
      if 0x41 ≤ n ∧ n ≤ 0x5A then n + 32 else n := by decide +kernel
  simpa only [Char.ofNat_toNat] using hAll c.toNat hc

theorem mem_asciiCases_iff (hc : c.toNat < 0x80) (hd : d.toNat < 0x80) :
    d.toNat ∈ asciiCases c.toNat ↔ c.toLower = d.toLower := by
  rw [← Char.toNat_inj, toNat_toLower hc, toNat_toLower hd, asciiCases]
  grind

/-- Two ASCII characters are equal up to case if they are the same in small letters. -/
theorem mem_anyCase_char_iff (hc : c.toNat < 0x80) (hd : d.toNat < 0x80) :
    (char c).anyCase.mem d ↔ c.toLower = d.toLower := by
  have hPoint : ∀ n, CodeRange.contains ⟨n, n⟩ d.toNat ↔ d.toNat = n := by
    intro n
    simp only [CodeRange.contains, Bool.and_eq_true, decide_eq_true_eq]
    omega
  rw [← mem_asciiCases_iff hc hd, mem, hasCode, ranges_anyCase_char hc]
  simp [hPoint]

/-- All that equals an ASCII character up to case are characters. -/
theorem isValidChar_of_mem_anyCase_char (hc : c.toNat < 0x80) :
    ∀ r ∈ (char c).anyCase.ranges, r.first.isValidChar := by
  have hSmall : ∀ n < 0x80, ∀ m ∈ asciiCases n, m < 0xD800 := by decide +kernel
  rw [ranges_anyCase_char hc]
  intro r hr
  obtain ⟨n, hn, rfl⟩ := List.mem_map.mp hr
  exact Or.inl (hSmall _ hc n hn)

end CharSet

end FlagDecision.Text
