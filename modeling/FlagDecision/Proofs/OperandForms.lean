import FlagDecision.Operand
import Mathlib.Data.List.Infix
import Mathlib.Data.List.TakeWhile

/-! Operands and their written forms. A word with a parenthesis behind it opens each form,
and no opening is the beginning of another one. So a text has at most one form, in
whatever order the forms are tried, and its argument is everything up to the last
parenthesis of the line. The name of a list is read from the whole text instead. -/
namespace FlagDecision.Operand

variable {text : String} {v s : List Char}

/-- The argument of a word is everything between the parentheses, if that is one line. -/
theorem argument?_enclosed (word : String) (hLine : '\n' ∉ v) :
    argument? word (word.toList ++ '(' :: (v ++ [')'])) = some v := by
  have hPrefix : (word.toList ++ ['(']).isPrefixOf (word.toList ++ '(' :: (v ++ [')'])) := by
    rw [List.isPrefixOf_iff_prefix]
    exact ⟨v ++ [')'], by simp⟩
  have hDrop : (word.toList ++ '(' :: (v ++ [')'])).drop (word.toList ++ ['(']).length =
      v ++ [')'] := by
    simp [List.drop_append]
  have hTake : (v ++ [')']).takeWhile (· != '\n') = v ++ [')'] := by
    rw [List.takeWhile_eq_self_iff]
    intro c hc
    rw [bne_iff_ne]
    rintro rfl
    simp [hLine] at hc
  rw [argument?]
  simp only [hPrefix, hDrop, hTake, if_true]
  simp

/-- A text that begins otherwise is no argument of the word. -/
theorem argument?_eq_none {word : String} (h : ¬ word.toList ++ ['('] <+: s) :
    argument? word s = none := by
  rw [argument?, if_neg]
  rwa [List.isPrefixOf_iff_prefix]

/-- The kinds of operands that are written as a word with an argument in parentheses. -/
inductive Form where
  | lower
  | wildcard
  | regex
  | greaterThan
  | greaterOrEqual
  | lessThan
  | lessOrEqual
  deriving DecidableEq

namespace Form

def word : Form → String
  | lower => "lower"
  | wildcard => "wildcard"
  | regex => "regex"
  | greaterThan => "gt"
  | greaterOrEqual => "gte"
  | lessThan => "lt"
  | lessOrEqual => "lte"

def opening (f : Form) : List Char := f.word.toList ++ ['(']

/-- All forms, in the order in which they are tried. -/
def all : List Form :=
  [lower, wildcard, regex, greaterThan, greaterOrEqual, lessThan, lessOrEqual]

/-- What a text of the form is, by its argument. -/
def operand (text : String) (v : List Char) : Form → Operand
  | lower => .lower (String.ofList v)
  | wildcard => ofWildcard v
  | regex =>
    match Pattern.ofString? (String.ofList v) with
    | some pattern => .regex (String.ofList v) pattern
    | none => .malformed text
  | greaterThan => .greaterThan (String.ofList v)
  | greaterOrEqual => .greaterOrEqual (String.ofList v)
  | lessThan => .lessThan (String.ofList v)
  | lessOrEqual => .lessOrEqual (String.ofList v)

/-- A text by the first of some forms that it has; a text of none of them stands for itself. -/
def readFirst (text : String) : List Form → Operand
  | [] => equals text
  | f :: rest =>
    if let some v := argument? f.word text.toList then f.operand text v
    else readFirst text rest

theorem mem_all (f : Form) : f ∈ all := by
  cases f <;> decide

/-- No opening is the beginning of another one. -/
theorem eq_of_begins {f g : Form} (h : f.opening <+: g.opening) : f = g := by
  rw [← List.isPrefixOf_iff_prefix] at h
  revert h
  cases f <;> cases g <;> decide +kernel

/-- A text has one opening at most. -/
theorem eq_of_opens {f g : Form} (hf : f.opening <+: s) (hg : g.opening <+: s) : f = g := by
  rcases List.prefix_or_prefix_of_prefix hf hg with h | h
  · exact eq_of_begins h
  · exact (eq_of_begins h).symm

/-- A text with an opening names no list. -/
theorem not_list_of_opens {f : Form} (h : f.opening <+: s) : ¬ "inlist".toList <+: s := by
  intro hList
  rcases List.prefix_or_prefix_of_prefix h hList with h | h <;>
    rw [← List.isPrefixOf_iff_prefix] at h <;> revert h <;> cases f <;> decide +kernel

theorem opens_of_argument? {f : Form} (h : argument? f.word s = some v) : f.opening <+: s := by
  by_contra hOther
  rw [argument?_eq_none hOther] at h
  cases h

/-- The order in which forms are tried does not matter. -/
theorem readFirst_of_mem {f : Form} {forms : List Form} (h : f ∈ forms)
    (hRead : argument? f.word text.toList = some v) : readFirst text forms = f.operand text v := by
  induction forms with
  | nil => cases h
  | cons g rest ih =>
      rw [readFirst]
      cases hFirst : argument? g.word text.toList with
      | none =>
          refine ih (List.mem_of_ne_of_mem ?_ h)
          rintro rfl
          rw [hRead] at hFirst
          cases hFirst
      | some v' =>
          obtain rfl := eq_of_opens (opens_of_argument? hFirst) (opens_of_argument? hRead)
          obtain rfl := Option.some.inj (hFirst.symm.trans hRead)
          rfl

theorem readFirst_of_none {forms : List Form} (h : ∀ f ∈ forms, ¬ f.opening <+: text.toList) :
    readFirst text forms = equals text := by
  induction forms with
  | nil => rfl
  | cons f rest ih =>
      rw [readFirst, argument?_eq_none (h f List.mem_cons_self)]
      exact ih fun g hg => h g (List.mem_cons_of_mem _ hg)

end Form

theorem parse_eq_readFirst (h : ¬ "inlist".toList <+: text.toList) :
    parse text = Form.readFirst text Form.all := by
  have hList : "inlist".toList.isPrefixOf text.toList = false := by
    rwa [← Bool.not_eq_true, List.isPrefixOf_iff_prefix]
  simp only [parse, hList, Bool.false_eq_true, if_false, Form.all, Form.readFirst, Form.word]
  rfl

/-- A word with some text on one line in parentheses is of the form of the word. -/
theorem parse_form (f : Form) (hLine : '\n' ∉ v)
    (hText : text.toList = f.word.toList ++ '(' :: (v ++ [')'])) :
    parse text = f.operand text v := by
  have hRead : argument? f.word text.toList = some v := hText ▸ argument?_enclosed f.word hLine
  rw [parse_eq_readFirst (Form.not_list_of_opens (Form.opens_of_argument? hRead)),
    Form.readFirst_of_mem f.mem_all hRead]

/-! A value between stars is the value, if it has no stars at its own ends. -/

theorem ofWildcard_trailing (hSome : v ≠ []) (hFirst : v.head? ≠ some '*') :
    ofWildcard (v ++ ['*']) = startsWith (String.ofList v) := by
  cases v with
  | nil => contradiction
  | cons c rest =>
      have hStar : c ≠ '*' := by simpa using hFirst
      simp [ofWildcard, hStar]

theorem ofWildcard_leading (hLast : v.getLast? ≠ some '*') :
    ofWildcard ('*' :: v) = endsWith (String.ofList v) := by
  cases hReverse : v.reverse with
  | nil => simp [ofWildcard, hReverse]
  | cons c rest =>
      have hStar : c ≠ '*' := by
        rintro rfl
        rw [← List.head?_reverse, hReverse] at hLast
        exact hLast rfl
      simp [ofWildcard, hReverse, hStar]

theorem ofWildcard_around (v : List Char) :
    ofWildcard ('*' :: (v ++ ['*'])) = contains (String.ofList v) := by
  simp [ofWildcard]

theorem ofWildcard_plain (hFirst : v.head? ≠ some '*') (hLast : v.getLast? ≠ some '*') :
    ofWildcard v = equals (String.ofList v) := by
  rw [← List.head?_reverse] at hLast
  cases v with
  | nil => rfl
  | cons c rest =>
      have hStar : c ≠ '*' := by simpa using hFirst
      cases hReverse : (c :: rest).reverse with
      | nil => simp at hReverse
      | cons d before =>
          have hStar' : d ≠ '*' := by
            rintro rfl
            simp [hReverse] at hLast
          simp [ofWildcard, hStar, hReverse, hStar']

/-! Lists. -/

theorem listName?_eq_some_iff :
    listName? s = some v ↔ v ≠ [] ∧ ')' ∉ v ∧ s = "inlist(".toList ++ (v ++ [')']) := by
  rw [listName?]
  constructor
  · intro hName
    split at hName
    · rename_i hOpens
      dsimp only at hName
      split at hName
      · cases hName
      · rename_i hSome
        obtain rfl := Option.some.inj hName
        obtain ⟨hSome, hEnd⟩ := not_or.mp hSome
        rw [List.isPrefixOf_iff_prefix, List.prefix_iff_eq_append] at hOpens
        refine ⟨by simpa using hSome, fun hFree => ?_, ?_⟩
        · simpa using List.mem_takeWhile_imp hFree
        · rw [← not_not.mp hEnd, List.takeWhile_append_dropWhile]
          exact hOpens.symm
    · cases hName
  · rintro ⟨hSome, hFree, rfl⟩
    have hOpens : "inlist(".toList.isPrefixOf ("inlist(".toList ++ (v ++ [')'])) := by
      rw [List.isPrefixOf_iff_prefix]
      exact List.prefix_append _ _
    have hOther : ∀ c ∈ v, (c != ')') = true := fun c hc => by
      rw [bne_iff_ne]
      rintro rfl
      exact hFree hc
    simp only [hOpens, if_true, List.drop_left, List.takeWhile_append_of_pos hOther,
      List.dropWhile_append_of_pos hOther]
    simp [hSome]

/-- The text names a list: nothing stands behind the parenthesis that ends the name. -/
structure NamesList (text listId : String) : Prop where
  nonempty : listId ≠ ""
  closed : ')' ∉ listId.toList
  text_eq : text = "inlist(" ++ listId ++ ")"

theorem namesList_iff {listId : String} :
    NamesList text listId ↔ listName? text.toList = some listId.toList := by
  have hText : ("inlist(" ++ listId ++ ")").toList =
      "inlist(".toList ++ (listId.toList ++ [')']) := by simp
  rw [listName?_eq_some_iff, ← hText, String.toList_inj, ne_eq, String.toList_eq_nil_iff]
  exact ⟨fun h => ⟨h.nonempty, h.closed, h.text_eq⟩, fun ⟨hSome, hClosed, h⟩ => ⟨hSome, hClosed, h⟩⟩

/-- A text that begins like a list names a list or is malformed. -/
theorem parse_list (h : "inlist".toList <+: text.toList) :
    (∀ listId, parse text = inList listId ↔ NamesList text listId) ∧
      ((∀ listId, ¬ NamesList text listId) → parse text = malformed text) := by
  rw [← List.isPrefixOf_iff_prefix] at h
  cases hName : listName? text.toList with
  | none =>
      have hParse : parse text = malformed text := by simp only [parse, h, if_true, hName]
      simp [hParse, namesList_iff, hName]
  | some name =>
      have hParse : parse text = inList (String.ofList name) := by
        simp only [parse, h, if_true, hName]
      have hNames : NamesList text (String.ofList name) := by simp [namesList_iff, hName]
      refine ⟨fun listId => ?_, fun hNone => absurd hNames (hNone _)⟩
      rw [hParse, namesList_iff, hName, inList.injEq, Option.some.injEq, ← String.toList_inj,
        String.toList_ofList]

/-- What a value is in each of the forms. -/
structure WrittenWith (value : String) : Prop where
  lower : parse ("lower(" ++ value ++ ")") = .lower value
  greaterThan : parse ("gt(" ++ value ++ ")") = .greaterThan value
  greaterOrEqual : parse ("gte(" ++ value ++ ")") = .greaterOrEqual value
  lessThan : parse ("lt(" ++ value ++ ")") = .lessThan value
  lessOrEqual : parse ("lte(" ++ value ++ ")") = .lessOrEqual value
  contains : parse ("wildcard(*" ++ value ++ "*)") = .contains value
  endsWith (hLast : value.toList.getLast? ≠ some '*') :
    parse ("wildcard(*" ++ value ++ ")") = .endsWith value
  startsWith (hSome : value ≠ "") (hFirst : value.toList.head? ≠ some '*') :
    parse ("wildcard(" ++ value ++ "*)") = .startsWith value
  equals (hFirst : value.toList.head? ≠ some '*') (hLast : value.toList.getLast? ≠ some '*') :
    parse ("wildcard(" ++ value ++ ")") = .equals value
  regex (pattern : Pattern) (hPattern : Pattern.ofString? value = some pattern) :
    parse ("regex(" ++ value ++ ")") = .regex value pattern
  malformed (hPattern : Pattern.ofString? value = none) :
    parse ("regex(" ++ value ++ ")") = .malformed ("regex(" ++ value ++ ")")

theorem writtenWith {value : String} (hLine : '\n' ∉ value.toList) : WrittenWith value where
  lower := by
    rw [parse_form .lower hLine (by simp [Form.word]), Form.operand, String.ofList_toList]
  greaterThan := by
    rw [parse_form .greaterThan hLine (by simp [Form.word]), Form.operand, String.ofList_toList]
  greaterOrEqual := by
    rw [parse_form .greaterOrEqual hLine (by simp [Form.word]), Form.operand, String.ofList_toList]
  lessThan := by
    rw [parse_form .lessThan hLine (by simp [Form.word]), Form.operand, String.ofList_toList]
  lessOrEqual := by
    rw [parse_form .lessOrEqual hLine (by simp [Form.word]), Form.operand, String.ofList_toList]
  contains := by
    rw [parse_form .wildcard (v := '*' :: (value.toList ++ ['*'])) (by simp [hLine])
      (by simp [Form.word]), Form.operand, ofWildcard_around, String.ofList_toList]
  endsWith hLast := by
    rw [parse_form .wildcard (v := '*' :: value.toList) (by simp [hLine]) (by simp [Form.word]),
      Form.operand, ofWildcard_leading hLast, String.ofList_toList]
  startsWith hSome hFirst := by
    have hNil : value.toList ≠ [] := fun hNil => hSome (String.toList_eq_nil_iff.mp hNil)
    rw [parse_form .wildcard (v := value.toList ++ ['*']) (by simp [hLine]) (by simp [Form.word]),
      Form.operand, ofWildcard_trailing hNil hFirst, String.ofList_toList]
  equals hFirst hLast := by
    rw [parse_form .wildcard hLine (by simp [Form.word]), Form.operand,
      ofWildcard_plain hFirst hLast, String.ofList_toList]
  regex pattern hPattern := by
    rw [parse_form .regex hLine (by simp [Form.word]), Form.operand, String.ofList_toList]
    simp only [hPattern]
  malformed hPattern := by
    rw [parse_form .regex hLine (by simp [Form.word]), Form.operand, String.ofList_toList]
    simp only [hPattern]

/-- Reading undoes writing. A value on one line is found again in each form, whatever parentheses,
stars and words it contains. A text that begins like a list names one or is malformed, and a
text without any opening stands for itself. -/
theorem parse_undoes_writing :
    (∀ value : String, '\n' ∉ value.toList → WrittenWith value) ∧
    (∀ text : String, "inlist".toList <+: text.toList →
      (∀ listId, parse text = inList listId ↔ NamesList text listId) ∧
        ((∀ listId, ¬ NamesList text listId) → parse text = malformed text)) ∧
    ∀ text : String,
      (∀ opening ∈ ["inlist", "lower(", "wildcard(", "regex(", "gt(", "gte(", "lt(", "lte("],
        ¬ opening.toList <+: text.toList) → parse text = equals text := by
  refine ⟨fun value => writtenWith, fun text => parse_list, fun text hNone => ?_⟩
  have hOpenings : ∀ f : Form, (f.word ++ "(") ∈
      ["inlist", "lower(", "wildcard(", "regex(", "gt(", "gte(", "lt(", "lte("] := by
    intro f
    cases f <;> decide
  rw [parse_eq_readFirst (hNone "inlist" (by simp))]
  refine Form.readFirst_of_none fun f _ hOpens => hNone _ (hOpenings f) ?_
  rwa [String.toList_append]

/-- A value like a written operand, one that begins with stars, patterns of which one is not closed,
lists of which one has a name on two lines, and a text with a form that is not at its beginning. -/
theorem nested_undoes_writing :
    parse "lower(gt(5)*)" = lower "gt(5)*" ∧ parse "wildcard(gt(5)**)" = startsWith "gt(5)*" ∧
      parse "wildcard(**)()" = endsWith "*)(" ∧
      (∃ pattern, parse "regex(a+)" = regex "a+" pattern) ∧
      parse "regex((a)" = malformed "regex((a)" ∧ parse "inlist(a\nb)" = inList "a\nb" ∧
      parse "inlist(a))" = malformed "inlist(a))" ∧ parse "10 lt(5)" = equals "10 lt(5)" := by
  obtain ⟨hForms, hLists, hOther⟩ := parse_undoes_writing
  have hForm : WrittenWith "gt(5)*" := hForms _ (by decide)
  have hStar : WrittenWith "*)(" := hForms _ (by decide)
  have hPattern : (Pattern.ofString? "a+").isSome := by decide +kernel
  obtain ⟨pattern, hPattern⟩ := Option.isSome_iff_exists.mp hPattern
  have hOpen : Pattern.ofString? "(a" = none := by decide +kernel
  have hLines : NamesList "inlist(a\nb)" "a\nb" := ⟨by decide, by decide, by decide⟩
  have hNone : ∀ listId, ¬ NamesList "inlist(a))" listId := by
    intro listId hNames
    have hRead : listName? "inlist(a))".toList = none := by decide +kernel
    rw [namesList_iff, hRead] at hNames
    cases hNames
  exact ⟨hForm.lower, hForm.startsWith (by decide) (by decide), hStar.endsWith (by decide),
    ⟨pattern, (hForms "a+" (by decide)).regex pattern hPattern⟩,
    (hForms "(a" (by decide)).malformed hOpen,
    ((hLists "inlist(a\nb)" (by decide +kernel)).1 _).mpr hLines,
    (hLists "inlist(a))" (by decide +kernel)).2 hNone, hOther "10 lt(5)" (by decide +kernel)⟩

end FlagDecision.Operand
