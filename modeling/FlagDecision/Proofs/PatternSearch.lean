import FlagDecision.Pattern.Basic
import Mathlib.Logic.Relation
import Mathlib.Order.MinMax

/-! What patterns match. A pattern spans from one place of a text to another, as its parts say. The
search keeps sets of places, lets no place take part in a repetition twice, and ends a
repetition after as many rounds as the text has places. It finds exactly the places that
the pattern spans to, since a round that stays where it is can be left out or made again. -/
namespace FlagDecision.Pattern

open Relation (Comp)

/-! Steps of a relation between places. -/

variable {R S : Nat → Nat → Prop} {f g : List Nat → List Nat} {places : List Nat}
  {size m n i j : Nat}

/-- So many steps from one place to another. -/
def Steps (R : Nat → Nat → Prop) : Nat → Nat → Nat → Prop
  | 0 => (· = ·)
  | n + 1 => Comp R (Steps R n)

theorem steps_add (R : Nat → Nat → Prop) (m n : Nat) :
    Steps R (m + n) = Comp (Steps R m) (Steps R n) := by
  induction m with
  | zero => rw [Nat.zero_add, Steps, Relation.eq_comp]
  | succ m ih => rw [Nat.succ_add, Steps, ih, ← Relation.comp_assoc, Steps]

/-- The relation leads forwards, and not beyond the end of a text. -/
structure Forward (R : Nat → Nat → Prop) (size : Nat) : Prop where
  le : ∀ {i j}, R i j → i ≤ j
  inside : ∀ {i j}, R i j → j ≤ max i size

namespace Forward

theorem stay (size : Nat) : Forward (· = ·) size :=
  ⟨fun h => h.le, fun h => h.ge.trans (le_max_left _ _)⟩

theorem comp (hR : Forward R size) (hS : Forward S size) : Forward (Comp R S) size where
  le := by
    rintro i j ⟨k, hFirst, hRest⟩
    exact (hR.le hFirst).trans (hS.le hRest)
  inside := by
    rintro i j ⟨k, hFirst, hRest⟩
    have hNear := hR.inside hFirst
    have hFar := hS.inside hRest
    omega

theorem steps (h : Forward R size) (n : Nat) : Forward (Steps R n) size := by
  induction n with
  | zero => exact stay size
  | succ n ih => exact h.comp ih

/-- Among more steps than there are places between the ends, one stays where it is. -/
theorem steps_succ_iff (h : Forward R size) (hMany : j - i < n) :
    Steps R (n + 1) i j ↔ Steps R n i j := by
  -- By induction on the steps: one that stays can be left out or made twice, and after one that
  -- goes on fewer places are left.
  induction n generalizing i with
  | zero => omega
  | succ n ih =>
      constructor
      · rintro ⟨k, hFirst, hRest⟩
        rcases (h.le hFirst).eq_or_lt with rfl | hOn
        · exact hRest
        · exact ⟨k, hFirst, (ih (by have := (h.steps _).le hRest; omega)).mp hRest⟩
      · rintro ⟨k, hFirst, hRest⟩
        rcases (h.le hFirst).eq_or_lt with rfl | hOn
        · exact ⟨i, hFirst, i, hFirst, hRest⟩
        · exact ⟨k, hFirst, (ih (by have := (h.steps _).le hRest; omega)).mpr hRest⟩

/-- All numbers of steps above the size of the text lead to the same places. -/
theorem steps_of_many (h : Forward R size) (hm : size < m) (hSteps : Steps R m i j)
    (hn : size < n) : Steps R n i j := by
  have hSpan : j - i ≤ size := by
    have := (h.steps m).inside hSteps
    omega
  have hUp : ∀ extra, Steps R (size + 1 + extra) i j ↔ Steps R (size + 1) i j := by
    intro extra
    induction extra with
    | zero => rfl
    | succ extra ih => exact (h.steps_succ_iff (n := size + 1 + extra) (by omega)).trans ih
  obtain ⟨spare, rfl⟩ := Nat.exists_eq_add_of_lt hm
  obtain ⟨spare', rfl⟩ := Nat.exists_eq_add_of_lt hn
  rw [Nat.add_right_comm] at hSteps ⊢
  exact (hUp spare').mpr ((hUp spare).mp hSteps)

/-- Numbers of steps may be cut off above the size of the text, at the start and after it. -/
theorem exists_steps_iff (h : Forward R size) (extra : Nat) {least first cap rounds : Nat}
    (hRounds : size < rounds) (hCap : size < first + cap) :
    (∃ n ≤ min extra cap, Steps R (min least rounds + (first + n)) i j) ↔
      ∃ n ≤ extra, Steps R (least + (first + n)) i j := by
  constructor
  · rintro ⟨n, hn, hSteps⟩
    refine ⟨n, by omega, ?_⟩
    rcases Nat.le_total least rounds with hFew | hMany
    · rwa [Nat.min_eq_left hFew] at hSteps
    · exact h.steps_of_many (by omega) hSteps (by omega)
  · rintro ⟨n, hn, hSteps⟩
    rcases Nat.le_total least rounds with hFew | hMany
    · rw [Nat.min_eq_left hFew]
      rcases Nat.le_total n cap with hNear | hFar
      · exact ⟨n, by omega, hSteps⟩
      · exact ⟨cap, by omega, h.steps_of_many (by omega) hSteps (by omega)⟩
    · exact ⟨0, by omega, h.steps_of_many (by omega) hSteps (by omega)⟩

theorem exists_steps_unbounded_iff (h : Forward R size) {least first cap rounds : Nat}
    (hRounds : size < rounds) (hCap : size < first + cap) :
    (∃ n ≤ cap, Steps R (min least rounds + (first + n)) i j) ↔
      ∃ n, Steps R (least + (first + n)) i j := by
  constructor
  · rintro ⟨n, hn, hSteps⟩
    obtain ⟨n, -, hSteps⟩ := (h.exists_steps_iff cap hRounds hCap).mp
      ⟨n, by omega, hSteps⟩
    exact ⟨n, hSteps⟩
  · rintro ⟨n, hSteps⟩
    obtain ⟨n, hn, hSteps⟩ := (h.exists_steps_iff (max n cap) hRounds hCap).mpr
      ⟨n, by omega, hSteps⟩
    exact ⟨n, by omega, hSteps⟩

end Forward

/-! Rounds of a search. -/

/-- The search takes a set of places to all places that the relation leads to. -/
def Follows (f : List Nat → List Nat) (R : Nat → Nat → Prop) : Prop :=
  ∀ places j, j ∈ f places ↔ ∃ i ∈ places, R i j

theorem Follows.comp (hf : Follows f R) (hg : Follows g S) :
    Follows (fun places => g (f places)) (Comp R S) := by
  intro places j
  simp only [hg _ j, hf places, Comp]
  constructor
  · rintro ⟨k, ⟨i, hi, hFirst⟩, hRest⟩
    exact ⟨i, hi, k, hFirst, hRest⟩
  · rintro ⟨i, hi, k, hFirst, hRest⟩
    exact ⟨k, ⟨i, hi, hFirst⟩, hRest⟩

theorem Follows.iterate (h : Follows f R) (n : Nat) : Follows (iterate f n) (Steps R n) := by
  induction n with
  | zero => simp [Follows, Pattern.iterate, Steps]
  | succ n ih => exact h.comp ih

/-- Every step from a place that was tried is found, and goes to a place that was tried or is to be
tried next. -/
def Explored (R : Nat → Nat → Prop) (next tried found : List Nat) : Prop :=
  ∀ i ∈ tried, ∀ j, R i j → j ∈ found ∧ (j ∈ tried ∨ j ∈ next)

/-- A way from a place that was tried ends among the places found, or goes on from one that is to be
tried next. -/
theorem Explored.leaves {next tried found : List Nat} (h : Explored R next tried found)
    (hi : i ∈ tried) (hSteps : Steps R (n + 1) i j) :
    j ∈ found ∨ ∃ k ∈ next, ∃ m < n, Steps R (m + 1) k j := by
  -- The way is followed while it stays among the places that were tried.
  induction n generalizing i with
  | zero =>
      obtain ⟨k, hFirst, rfl⟩ := hSteps
      exact Or.inl (h i hi k hFirst).1
  | succ n ih =>
      obtain ⟨k, hFirst, hRest⟩ := hSteps
      rcases (h i hi k hFirst).2 with hTried | hNext
      · rcases ih hTried hRest with hFound | ⟨l, hl, m, hm, hLast⟩
        · exact Or.inl hFound
        · exact Or.inr ⟨l, hl, m, by omega, hLast⟩
      · exact Or.inr ⟨k, hNext, n, by omega, hRest⟩

theorem mem_added {new old : List Nat} :
    j ∈ (new.filter fun i => !old.contains i) ++ old ↔ j ∈ new ∨ j ∈ old := by
  by_cases hOld : j ∈ old <;> simp [hOld]

/-- One more round tries the places that were next. -/
theorem Explored.round {next tried found : List Nat} (h : Explored R next tried found)
    (hFollows : Follows f R) :
    Explored R ((f next).filter fun i => !(next ++ tried).contains i) (next ++ tried)
      (((f next).filter fun i => !found.contains i) ++ found) := by
  intro i hi j hStep
  rw [mem_added]
  rcases List.mem_append.mp hi with hNow | hBefore
  · have hNew : j ∈ f next := (hFollows next j).mpr ⟨i, hNow, hStep⟩
    refine ⟨Or.inl hNew, ?_⟩
    by_cases hOld : j ∈ next ++ tried
    · exact Or.inl hOld
    · exact Or.inr (List.mem_filter.mpr ⟨hNew, by simpa using hOld⟩)
  · obtain ⟨hFound, hPlace⟩ := h i hBefore j hStep
    exact ⟨Or.inr hFound, Or.inl (List.mem_append.mpr hPlace.symm)⟩

/-- The rounds find all that one up to so many steps lead to. -/
theorem Follows.mem_reach (h : Follows f R) {rounds : Nat} {frontier tried found : List Nat}
    (hExplored : Explored R frontier tried found) :
    j ∈ reach f rounds frontier tried found ↔
      j ∈ found ∨ ∃ i ∈ frontier, ∃ n < rounds, Steps R (n + 1) i j := by
  -- By induction on the rounds, with `Explored` kept by each of them.
  induction rounds generalizing frontier tried found with
  | zero => simp [reach]
  | succ rounds ih =>
      have hRound := hExplored.round h
      have hReach : j ∈ reach f (rounds + 1) frontier tried found ↔
          (j ∈ f frontier ∨ j ∈ found) ∨
            ∃ i ∈ (f frontier).filter (fun i => !(frontier ++ tried).contains i),
              ∃ n < rounds, Steps R (n + 1) i j := by
        rw [reach]
        split
        · rename_i hEmpty
          rw [mem_added, List.isEmpty_iff.mp hEmpty]
          simp
        · rw [ih hRound, mem_added]
      rw [hReach]
      constructor
      · rintro ((hNew | hOld) | ⟨k, hk, n, hn, hRest⟩)
        · obtain ⟨i, hi, hStep⟩ := (h frontier j).mp hNew
          exact Or.inr ⟨i, hi, 0, by omega, j, hStep, rfl⟩
        · exact Or.inl hOld
        · obtain ⟨i, hi, hStep⟩ := (h frontier k).mp (List.mem_filter.mp hk).1
          exact Or.inr ⟨i, hi, n + 1, by omega, k, hStep, hRest⟩
      · rintro (hOld | ⟨i, hi, n, hn, hSteps⟩)
        · exact Or.inl (Or.inr hOld)
        · rcases hRound.leaves (List.mem_append_left _ hi) hSteps with hHere | ⟨k, hk, m, hm, hRest⟩
          · exact Or.inl (mem_added.mp hHere)
          · exact Or.inr ⟨k, hk, m, by omega, hRest⟩

/-- Rounds that start from a set find what some steps, or none, lead to from it. -/
theorem Follows.mem_reach_self (h : Follows f R) {rounds : Nat} :
    j ∈ reach f rounds places [] places ↔ ∃ i ∈ places, ∃ n ≤ rounds, Steps R n i j := by
  rw [h.mem_reach (by simp [Explored])]
  constructor
  · rintro (hHere | ⟨i, hi, n, hn, hSteps⟩)
    · exact ⟨j, hHere, 0, Nat.zero_le _, rfl⟩
    · exact ⟨i, hi, n + 1, hn, hSteps⟩
  · rintro ⟨i, hi, n, hn, hSteps⟩
    cases n with
    | zero =>
        obtain rfl : i = j := hSteps
        exact Or.inl hi
    | succ n => exact Or.inr ⟨i, hi, n, hn, hSteps⟩

/-- Rounds that start from nothing found find what some steps lead to. -/
theorem Follows.mem_reach_nil (h : Follows f R) {rounds : Nat} :
    j ∈ reach f rounds places [] [] ↔ ∃ i ∈ places, ∃ n < rounds, Steps R (n + 1) i j := by
  rw [h.mem_reach (by simp [Explored])]
  simp

/-- Some steps, then as many as a number of rounds allows. -/
theorem Follows.mem_rounds (h : Follows f R) (places : List Nat) (first cap : Nat) :
    (∃ k ∈ Pattern.iterate f m places, ∃ n ≤ cap, Steps R (first + n) k j) ↔
      ∃ i ∈ places, ∃ n ≤ cap, Steps R (m + (first + n)) i j := by
  simp only [h.iterate m places _, steps_add R m]
  constructor
  · rintro ⟨k, ⟨i, hi, hStart⟩, n, hn, hRest⟩
    exact ⟨i, hi, n, hn, k, hStart, hRest⟩
  · rintro ⟨i, hi, n, hn, k, hStart, hRest⟩
    exact ⟨k, ⟨i, hi, hStart⟩, n, hn, hRest⟩

/-! What a pattern means. -/

/-- A pattern spans a part of the text, from one place to another: the parts of a sequence one after
the other, a repetition in its least number of copies and as many more as it allows. -/
def Spans (text : List Char) : Pattern → Nat → Nat → Prop
  | empty => (· = ·)
  | literal cs => fun i j => cs <+: text.drop i ∧ j = i + cs.length
  | set s _ => fun i j => ∃ c, text[i]? = some c ∧ s.mem c ∧ j = i + 1
  | anchor a => fun i j => a.holds (if i = 0 then none else text[i - 1]?) text[i]? ∧ i = j
  | repeated p least most _ => fun i j =>
      ∃ extra, (∀ m ∈ most, extra ≤ m - least) ∧ Steps (Spans text p) (least + extra) i j
  | capture _ p => Spans text p
  | seq p q => Comp (Spans text p) (Spans text q)
  | alt p q => fun i j => Spans text p i j ∨ Spans text q i j

theorem spans_forward (text : List Char) (p : Pattern) : Forward (Spans text p) text.length := by
  induction p with
  | empty => exact .stay _
  | literal cs =>
      refine ⟨fun ⟨_, hEnd⟩ => by omega, fun ⟨hHere, hEnd⟩ => ?_⟩
      have hLength := hHere.length_le
      rw [List.length_drop] at hLength
      omega
  | set s u =>
      refine ⟨fun ⟨_, _, _, hEnd⟩ => by omega, fun ⟨c, hHere, _, hEnd⟩ => ?_⟩
      have hInside := (List.getElem?_eq_some_iff.mp hHere).1
      omega
  | anchor a => exact ⟨fun h => h.2.le, fun h => h.2.ge.trans (le_max_left _ _)⟩
  | repeated p least most greedy ih =>
      exact ⟨fun ⟨_, _, hSteps⟩ => (ih.steps _).le hSteps,
        fun ⟨_, _, hSteps⟩ => (ih.steps _).inside hSteps⟩
  | capture number p ih => exact ih
  | seq p q ihp ihq => exact ihp.comp ihq
  | alt p q ihp ihq =>
      exact ⟨fun h => h.elim ihp.le ihq.le, fun h => h.elim ihp.inside ihq.inside⟩

theorem literalEnd?_eq_some_iff {text cs : List Char} :
    literalEnd? text.toArray cs i = some j ↔ cs <+: text.drop i ∧ j = i + cs.length := by
  induction cs generalizing i with
  | nil => simp [literalEnd?, eq_comm]
  | cons c cs ih =>
      rw [literalEnd?]
      by_cases hHere : text[i]? = some c
      · have hDrop : text.drop i = c :: text.drop (i + 1) := by
          obtain ⟨hInside, rfl⟩ := List.getElem?_eq_some_iff.mp hHere
          exact List.drop_eq_getElem_cons hInside
        simp [hHere, ih, hDrop, Nat.add_assoc, Nat.add_comm 1]
      · have hNone : ¬ c :: cs <+: text.drop i := by
          rintro ⟨rest, hRest⟩
          exact hHere (by rw [← List.head?_drop, ← hRest]; rfl)
        simp [hHere, hNone]

/-- A repetition, for a search that follows the pattern repeated. -/
theorem Follows.repeated {text : List Char} {p : Pattern}
    (h : Follows (ends text.toArray p) (Spans text p)) (least : Nat) (most : Option Nat)
    (greedy : Bool) :
    Follows (ends text.toArray (repeated p least most greedy))
      (Spans text (repeated p least most greedy)) := by
  intro places j
  have hForward := spans_forward text p
  cases most with
  | some most =>
      have hCap : ∀ i, (∃ n ≤ min (most - least) (text.length + 1),
          Steps (Spans text p) (min least (text.length + 1) + (0 + n)) i j) ↔
            ∃ n ≤ most - least, Steps (Spans text p) (least + (0 + n)) i j := fun i =>
        hForward.exists_steps_iff _ (by omega) (by omega)
      have hRounds := h.mem_rounds places 0 (min (most - least) (text.length + 1)) (j := j)
        (m := min least (text.length + 1))
      simp only [Nat.zero_add] at hCap hRounds
      simp only [ends, List.size_toArray, h.mem_reach_self, hRounds, hCap, Spans]
      simp
  | none =>
      cases least with
      | zero =>
          have hCap : ∀ i, (∃ n ≤ text.length + 1,
              Steps (Spans text p) (min 0 (text.length + 1) + (0 + n)) i j) ↔
                ∃ n, Steps (Spans text p) (0 + (0 + n)) i j := fun i =>
            hForward.exists_steps_unbounded_iff (by omega) (by omega)
          simp only [Nat.zero_min, Nat.zero_add] at hCap
          simp only [ends, List.size_toArray, if_true, h.mem_reach_self, hCap, Spans]
          simp
      | succ least =>
          have hCap : ∀ i, (∃ n ≤ text.length,
              Steps (Spans text p) (min least (text.length + 1) + (1 + n)) i j) ↔
                ∃ n, Steps (Spans text p) (least + (1 + n)) i j := fun i =>
            hForward.exists_steps_unbounded_iff (by omega) (by omega)
          have hRounds := h.mem_rounds places 1 text.length (j := j)
            (m := min least (text.length + 1))
          simp only [Nat.add_comm 1] at hCap hRounds
          simp only [ends, List.size_toArray, Nat.add_one_ne_zero, if_false, Nat.add_sub_cancel,
            h.mem_reach_nil, Nat.lt_add_one_iff, hRounds, hCap, Spans, Nat.add_assoc,
            Nat.add_comm 1]
          simp

/-- The search finds the places that the pattern spans to, and no others. -/
theorem ends_follows (text : List Char) (p : Pattern) :
    Follows (ends text.toArray p) (Spans text p) := by
  induction p with
  | empty => intro places j; simp [ends, Spans]
  | literal cs =>
      intro places j
      simp only [ends, List.mem_filterMap, literalEnd?_eq_some_iff, Spans]
  | set s u =>
      intro places j
      simp only [ends, List.mem_filterMap, Spans, List.getElem?_toArray]
      refine exists_congr fun i => and_congr_right fun _ => ?_
      cases text[i]? with
      | none => simp
      | some c => simp [eq_comm (a := j)]
  | anchor a => intro places j; simp [ends, Spans]
  | repeated p least most greedy ih => exact ih.repeated least most greedy
  | capture number p ih => exact ih
  | seq p q ihp ihq => exact ihp.comp ihq
  | alt p q ihp ihq =>
      intro places j
      have hEither : j ∈ ends text.toArray (alt p q) places ↔
          j ∈ ends text.toArray p places ∨ j ∈ ends text.toArray q places := by
        by_cases hFirst : j ∈ ends text.toArray p places <;> simp [ends, hFirst]
      rw [hEither, ihp, ihq]
      simp only [Spans, and_or_left, exists_or]

/-- A pattern is in a text if it spans some part of it. -/
theorem matchesIn_iff {p : Pattern} {s : String} :
    p.matchesIn s ↔ ∃ i ≤ s.toList.length, ∃ j, Spans s.toList p i j := by
  have hSome : p.matchesIn s ↔
      ∃ j, j ∈ ends s.toList.toArray p (List.range (s.toList.length + 1)) := by
    simp [matchesIn, List.eq_nil_iff_forall_not_mem]
  simp only [hSome, ends_follows s.toList p _ _, List.mem_range, Nat.lt_add_one_iff]
  constructor
  · rintro ⟨j, i, hi, hSpans⟩
    exact ⟨i, hi, j, hSpans⟩
  · rintro ⟨i, hi, j, hSpans⟩
    exact ⟨j, i, hi, hSpans⟩

/-! Sequences. -/

/-- Some patterns span parts of the text that follow one another. -/
def SpansAll (text : List Char) : List Pattern → Nat → Nat → Prop
  | [] => (· = ·)
  | p :: ps => Comp (Spans text p) (SpansAll text ps)

section Sequences

variable (text : List Char) (ps qs : List Pattern)

theorem spansAll_append :
    SpansAll text (ps ++ qs) = Comp (SpansAll text ps) (SpansAll text qs) := by
  induction ps with
  | nil => exact Relation.eq_comp.symm
  | cons p ps ih => rw [List.cons_append, SpansAll, ih, ← Relation.comp_assoc, SpansAll]

theorem spansAll_parts (p : Pattern) : SpansAll text p.parts = Spans text p := by
  induction p with
  | seq p q _ ihq => rw [parts, SpansAll, ihq, Spans]
  | _ => exact Relation.comp_eq

theorem spansAll_flatMap_parts : SpansAll text (ps.flatMap parts) = SpansAll text ps := by
  induction ps with
  | nil => rfl
  | cons p ps ih => rw [List.flatMap_cons, spansAll_append, spansAll_parts, ih, SpansAll]

theorem spans_chain : Spans text (chain ps) = SpansAll text ps := by
  induction ps with
  | nil => rfl
  | cons p ps ih =>
      cases ps with
      | nil => exact Relation.comp_eq.symm
      | cons q qs => exact congrArg (Comp (Spans text p)) ih

/-- Literals one after the other are one literal. -/
theorem spans_literal_append (cs ds : List Char) :
    Spans text (literal (cs ++ ds)) =
      Comp (Spans text (literal cs)) (Spans text (literal ds)) := by
  funext i j
  simp only [Spans, List.length_append, Comp]
  refine propext ⟨?_, ?_⟩
  · rintro ⟨⟨rest, hRest⟩, rfl⟩
    refine ⟨i + cs.length, ⟨⟨ds ++ rest, by rw [← List.append_assoc, hRest]⟩, rfl⟩, ⟨rest, ?_⟩,
      (Nat.add_assoc _ _ _).symm⟩
    rw [← List.drop_drop, ← hRest, List.append_assoc, List.drop_left]
  · rintro ⟨k, ⟨⟨mid, hMid⟩, rfl⟩, ⟨rest, hRest⟩, rfl⟩
    rw [← List.drop_drop, ← hMid, List.drop_left] at hRest
    exact ⟨⟨rest, by rw [← hMid, ← hRest, List.append_assoc]⟩, Nat.add_assoc _ _ _⟩

theorem spansAll_joined : SpansAll text (joined ps) = SpansAll text ps := by
  fun_induction joined ps with
  | case1 => rfl
  | case2 rest ih => rw [ih, SpansAll, Spans, Relation.eq_comp]
  | case3 cs rest ds more hJoined ih =>
      rw [hJoined] at ih
      rw [SpansAll, SpansAll, ← ih, spans_literal_append, Relation.comp_assoc, SpansAll]
  | case4 cs rest hOther ih => rw [SpansAll, SpansAll, ih]
  | case5 p rest hEmpty hLiteral ih => rw [SpansAll, SpansAll, ih]

/-- The normal form of a sequence means the sequence. -/
theorem spans_concat : Spans text (concat ps) = SpansAll text ps := by
  rw [concat, spans_chain, spansAll_joined, spansAll_flatMap_parts]

end Sequences

end FlagDecision.Pattern
