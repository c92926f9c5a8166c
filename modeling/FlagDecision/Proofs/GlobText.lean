import FlagDecision.Pattern.Reader
import FlagDecision.Proofs.Orderings

/-! The written form of wildcards. A wildcard is cut at its stars, each part is written so
that every character stands for itself, and between the parts any characters may stand.
That is read as the pattern of the wildcard: no character of it keeps a meaning of its
own, and no star runs into the part behind it. -/
namespace FlagDecision.Pattern

open Text

/-- A character written so that it stands for itself. -/
def escaped (c : Char) : List Char := if isMeta c then ['\\', c] else [c]

/-- The written form of a wildcard, as a pattern for the whole text in any case. -/
def globText (wildcard : List Char) : String :=
  String.ofList ("(?i)^".toList ++
    ".*".toList.intercalate ((splitAll '*' wildcard).map fun part => part.flatMap escaped) ++ ['$'])

variable {g rest : List Char} {c : Char} {items : List Item} {fuel : Nat}

/-- One character of a wildcard as it is written. -/
def writtenPiece (c : Char) : List Char := if c = '*' then ".*".toList else escaped c

theorem intercalate_parts (g : List Char) :
    ".*".toList.intercalate ((splitAll '*' g).map fun part => part.flatMap escaped) =
      g.flatMap writtenPiece := by
  induction g with
  | nil => rfl
  | cons c g ih =>
      rw [List.flatMap_cons, ← ih, splitAll, writtenPiece]
      have hNonempty : splitAll '*' g ≠ [] := splitAll_ne_nil g
      by_cases hStar : c = '*'
      · rw [if_pos hStar, if_pos hStar, List.map_cons, List.flatMap_nil,
          List.intercalate_cons_of_ne_nil (by simpa using hNonempty), List.nil_append]
      · rw [if_neg hStar, if_neg hStar]
        cases hParts : splitAll '*' g with
        | nil => exact absurd hParts hNonempty
        | cons part parts =>
          cases parts with
          | nil => simp
          | cons next parts => simp [List.intercalate_cons_cons]

/-! Reading. -/

/-- The state after some items of a sequence outside groups, read in any case. -/
def inAnyCase (items : List Item) : ReadState :=
  ⟨{ anyCase := true }, ⟨{}, none, [], items⟩, [], 0, []⟩

theorem readAll?_start :
    readAll? (fuel + 2) ⟨{}, ⟨{}, none, [], []⟩, [], 0, []⟩ ("(?i)^".toList ++ rest) =
      readAll? fuel (inAnyCase [.piece ⟨anchor .textStart, 0⟩, .setFlags]) rest :=
  rfl

theorem readAll?_cons :
    readAll? (fuel + 1) (inAnyCase items) (c :: rest) =
      (step? (inAnyCase items) c rest).bind fun (st, rest) => readAll? fuel st rest :=
  rfl

theorem greed_of_head? {flags : Flags} (hRest : rest.head? ≠ some '?') :
    greed flags rest = (!flags.swapGreed, rest) := by
  rw [greed.eq_def]
  split
  · exact absurd rfl hRest
  · rfl

/-- A point and a star are a star of a wildcard, unless a question mark follows. -/
theorem readAll?_star (hRest : rest.head? ≠ some '?') :
    readAll? (fuel + 2) (inAnyCase items) (writtenPiece '*' ++ rest) =
      readAll? fuel (inAnyCase (.piece ⟨glob.piece '*', 1⟩ :: items)) rest := by
  have hPoint : readAll? (fuel + 2) (inAnyCase items) (writtenPiece '*' ++ rest) =
      readAll? (fuel + 1)
        (inAnyCase (.piece ⟨set (CharSet.char '\n').compl true, 0⟩ :: items)) ('*' :: rest) :=
    rfl
  have hAgain : ∀ p, step? (inAnyCase (.piece p :: items)) '*' rest =
      some (inAnyCase (.piece ⟨p.value.times 0 none (greed { anyCase := true } rest).1,
        p.depth + 1⟩ :: items), (greed { anyCase := true } rest).2) := fun _ => rfl
  rw [hPoint, readAll?_cons, hAgain, greed_of_head? hRest]
  rfl

/-- After a backslash, a character with a meaning stands for itself. -/
theorem escape?_of_isMeta {flags : Flags} (hMeta : isMeta c) :
    escape? flags (c :: rest) = some (.literal c false, rest) := by
  simp only [isMeta, List.contains_iff_mem, List.mem_cons, List.not_mem_nil, or_false] at hMeta
  rcases hMeta with rfl | rfl | rfl | rfl | rfl | rfl | rfl | rfl | rfl | rfl | rfl | rfl | rfl |
    rfl | rfl | rfl | rfl | rfl <;> rfl

/-- A character without a meaning is read as itself. -/
theorem step?_plain (hPlain : ¬ isMeta c) :
    step? (inAnyCase items) c rest = (literal? { anyCase := true } c false).map fun p =>
      (inAnyCase (.piece ⟨p, 0⟩ :: items), rest) := by
  rw [step?.eq_def]
  split
  case h_13 => rfl
  all_goals exact absurd rfl hPlain

/-- A character after a backslash is read as itself. -/
theorem step?_meta (hMeta : isMeta c) :
    step? (inAnyCase items) '\\' (c :: rest) = (literal? { anyCase := true } c false).map fun p =>
      (inAnyCase (.piece ⟨p, 0⟩ :: items), rest) := by
  have hElement : step? (inAnyCase items) '\\' (c :: rest) =
      (escape? { anyCase := true } (c :: rest)).bind fun found =>
        (elementPattern? { anyCase := true } found.1).bind fun p =>
          some (inAnyCase (.piece ⟨p, 0⟩ :: items), found.2) := rfl
  rw [hElement, escape?_of_isMeta hMeta, Option.map_eq_bind]
  rfl

/-- Any other character is written so that it is read as itself. -/
theorem readAll?_escaped (hStar : c ≠ '*') :
    readAll? (fuel + 1) (inAnyCase items) (writtenPiece c ++ rest) =
      readAll? fuel (inAnyCase (.piece ⟨glob.piece c, 0⟩ :: items)) rest := by
  have hPiece : literal? { anyCase := true } c false = some (glob.piece c) := by
    rw [glob.piece, if_neg hStar]
    rfl
  rw [writtenPiece, if_neg hStar, escaped]
  split
  · rename_i hMeta
    rw [List.cons_append, readAll?_cons, List.singleton_append, step?_meta hMeta, hPiece]
    rfl
  · rename_i hPlain
    rw [List.singleton_append, readAll?_cons, step?_plain hPlain, hPiece]
    rfl

/-- One character of a wildcard as it is read. -/
def readPiece (c : Char) : Nested Pattern := ⟨glob.piece c, if c = '*' then 1 else 0⟩

/-- No written form of a character is empty or begins with a question mark. -/
theorem writtenPiece_cons (c : Char) : ∃ d more, writtenPiece c = d :: more ∧ d ≠ '?' := by
  rw [writtenPiece, escaped]
  split
  · exact ⟨'.', ['*'], rfl, by decide⟩
  · split
    · exact ⟨'\\', [c], rfl, by decide⟩
    · rename_i hPlain
      exact ⟨c, [], rfl, fun hMark => hPlain (hMark ▸ rfl)⟩

theorem head?_written (g : List Char) : (g.flatMap writtenPiece ++ ['$']).head? ≠ some '?' := by
  cases g with
  | nil => decide
  | cons c g =>
      obtain ⟨d, more, hPiece, hMark⟩ := writtenPiece_cons c
      simpa [hPiece] using hMark

/-- One character of a wildcard is read in no more steps than it has characters. -/
theorem readAll?_piece (items : List Item) (hRest : rest.head? ≠ some '?')
    (hFuel : (writtenPiece c).length ≤ fuel) :
    ∃ left, fuel ≤ left + (writtenPiece c).length ∧
      readAll? fuel (inAnyCase items) (writtenPiece c ++ rest) =
        readAll? left (inAnyCase (.piece (readPiece c) :: items)) rest := by
  by_cases hStar : c = '*'
  · subst hStar
    obtain ⟨left, rfl⟩ := Nat.exists_eq_add_of_le' hFuel
    exact ⟨left, Nat.le_refl _, readAll?_star hRest⟩
  · obtain ⟨d, more, hPiece, -⟩ := writtenPiece_cons c
    have hSome : 1 ≤ (writtenPiece c).length := by simp [hPiece]
    obtain ⟨left, rfl⟩ := Nat.exists_eq_add_of_le' (hSome.trans hFuel)
    rw [readPiece, if_neg hStar]
    exact ⟨left, Nat.add_le_add_left hSome left, readAll?_escaped hStar⟩

/-- The characters of a wildcard are read one by one, and then the end. -/
theorem readAll?_pieces (hFuel : (g.flatMap writtenPiece).length + 1 < fuel) :
    readAll? fuel (inAnyCase items) (g.flatMap writtenPiece ++ ['$']) =
      some (inAnyCase
        (.piece ⟨anchor .textEnd, 0⟩ :: (g.map (.piece ∘ readPiece)).reverse ++ items)) := by
  induction g generalizing fuel items with
  | nil =>
      obtain ⟨fuel, rfl⟩ := Nat.exists_eq_add_of_le' hFuel
      rfl
  | cons c g ih =>
      rw [List.flatMap_cons, List.length_append] at hFuel
      have hRoom : (writtenPiece c).length ≤ fuel := by omega
      obtain ⟨left, hLeft, hStep⟩ := readAll?_piece items (head?_written g) hRoom
      rw [List.flatMap_cons, List.append_assoc, hStep, ih (by omega)]
      simp

/-- What a whole wildcard is read to, with the depths of nesting. -/
def readPieces (g : List Char) : List (Nested Pattern) :=
  ⟨anchor .textStart, 0⟩ :: g.map readPiece ++ [⟨anchor .textEnd, 0⟩]

theorem readAll?_globText :
    readAll? ((globText g).toList.length + 1) ⟨{}, ⟨{}, none, [], []⟩, [], 0, []⟩
      (globText g).toList =
        some (inAnyCase ((readPieces g).reverse.map .piece ++ [.setFlags])) := by
  have hText : (globText g).toList = "(?i)^".toList ++ (g.flatMap writtenPiece ++ ['$']) := by
    rw [← intercalate_parts, ← List.append_assoc]
    exact String.toList_ofList
  have hOpening : "(?i)^".toList.length = 5 := rfl
  have hLength : (globText g).toList.length + 1 = (g.flatMap writtenPiece).length + 5 + 2 := by
    simp only [hText, List.length_append, List.length_singleton, hOpening]
    omega
  rw [hLength, hText, readAll?_start, readAll?_pieces (by omega)]
  simp [readPieces]

/-- The pieces make up the pattern of the wildcard. -/
theorem whole_readPieces :
    (inAnyCase ((readPieces g).reverse.map .piece ++ [.setFlags])).group.whole =
      ⟨glob g, (readPieces g).reverse.foldl (fun d p => max d p.depth) 0 + 1⟩ := by
  have hValues : (readPieces g).map (·.value) =
      anchor .textStart :: g.map glob.piece ++ [anchor .textEnd] := by
    simp [readPieces, readPiece, Function.comp_def]
  have hSome : readPieces g ≠ [] := List.cons_ne_nil _ _
  simp only [OpenGroup.whole, OpenGroup.sequence, inAnyCase, List.filterMap_append,
    List.filterMap_map, Function.comp_def, List.filterMap_some]
  simp [hValues, hSome, glob]

theorem depth_readPieces : (readPieces g).reverse.foldl (fun d p => max d p.depth) 0 ≤ 1 := by
  have hEach : ∀ p ∈ (readPieces g).reverse, p.depth ≤ 1 := by
    intro p hp
    simp only [readPieces, List.mem_reverse, List.cons_append, List.mem_cons, List.mem_append,
      List.mem_map, List.not_mem_nil, or_false] at hp
    rcases hp with rfl | ⟨c, -, rfl⟩ | rfl
    · exact Nat.zero_le _
    · simp only [readPiece]
      split <;> omega
    · exact Nat.zero_le _
  refine List.foldlRecOn (motive := (· ≤ 1)) _ _ (Nat.zero_le _) fun d hd p hp => ?_
  exact max_le hd (hEach p hp)

/-- The written form of a wildcard is read as its pattern. -/
theorem ofString?_globText (hFits : (glob g).fits) : ofString? (globText g) = some (glob g) := by
  have hDepth : (readPieces g).reverse.foldl (fun d p => max d p.depth) 0 + 1 ≤ nestingLimit :=
    (Nat.succ_le_succ depth_readPieces).trans (by decide)
  rw [ofString?]
  simp only [readAll?_globText, Option.bind_eq_bind, Option.bind_some, whole_readPieces]
  exact if_pos ⟨rfl, hDepth, hFits⟩

end FlagDecision.Pattern
