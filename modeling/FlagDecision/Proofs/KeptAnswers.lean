import FlagDecision.ListCache
import Mathlib.Data.Finset.Card
import Mathlib.Data.List.Nodup

/-! What a cache of list answers still knows after any use. An answer that it gives is
the last one kept for the question, and is not too old. The other way round, the last
answer is there until it is too old or as many other questions as there is room for were
answered after it: only those stand behind it, and what has to go stands in front. -/
namespace FlagDecision

namespace Table

variable {κ α : Type} [DecidableEq κ] {t t' : Table κ α} {key key' : κ} {value value' : α}
  {others : Finset κ}

theorem mem_of_lookup (h : t.lookup key = some value) : (key, value) ∈ t := by
  obtain ⟨before, after, rfl, -⟩ := List.lookup_eq_some_iff.mp h
  simp

theorem ne_of_lookup_eq_none (h : t.lookup key = none) {entry : κ × α} (hEntry : entry ∈ t) :
    entry.1 ≠ key := by
  rintro rfl
  simpa using List.lookup_eq_none_iff.mp h entry hEntry

theorem without_sublist (t : Table κ α) (key : κ) : (t.without key).Sublist t :=
  List.filter_sublist

theorem ne_of_mem_without {entry : κ × α} (h : entry ∈ t.without key) : entry.1 ≠ key := by
  simpa using (List.mem_filter.mp h).2

/-- A key that is found takes at least one entry. -/
theorem length_without_lt (h : t.lookup key ≠ none) : (t.without key).length < t.length := by
  obtain ⟨value, hFound⟩ := Option.ne_none_iff_exists'.mp h
  rw [without, List.length_filter_lt_length_iff_exists]
  exact ⟨(key, value), mem_of_lookup hFound, by simp⟩

/-- The value is what the key has, and behind its entry are only entries of `others`, at most one of
each. -/
def Backed (t : Table κ α) (key : κ) (value : α) (others : Finset κ) : Prop :=
  ∃ front back, t = front ++ (key, value) :: back ∧ (∀ entry ∈ front, entry.1 ≠ key) ∧
    (∀ entry ∈ back, entry.1 ∈ others) ∧ (back.map (·.1)).Nodup

namespace Backed

theorem lookup (h : t.Backed key value others) : t.lookup key = some value := by
  obtain ⟨front, back, rfl, hFront, -, -⟩ := h
  rw [List.lookup_eq_some_iff]
  exact ⟨front, back, rfl, fun entry hEntry => by simpa using (hFront entry hEntry).symm⟩

omit [DecidableEq κ] in
theorem filter (h : t.Backed key value others) {p : κ × α → Bool} (hSelf : p (key, value)) :
    Backed (t.filter p) key value others := by
  obtain ⟨front, back, rfl, hFront, hBack, hNodup⟩ := h
  refine ⟨front.filter p, back.filter p, by simp [hSelf], ?_, ?_, ?_⟩
  · exact fun entry hEntry => hFront entry (List.mem_of_mem_filter hEntry)
  · exact fun entry hEntry => hBack entry (List.mem_of_mem_filter hEntry)
  · exact hNodup.sublist (List.filter_sublist.map _)

/-- The first of so many entries is another one. -/
theorem drop_one (h : t.Backed key value others) (hNew : ∀ entry ∈ t, entry.1 ≠ key')
    (hMany : (others ∪ {key'}).card < t.length) : Backed (t.drop 1) key value others := by
  obtain ⟨front, back, rfl, hFront, hBack, hNodup⟩ := h
  cases front with
  | nil =>
      have hKeys : (key' :: back.map (·.1)).Nodup := by
        refine List.nodup_cons.mpr ⟨fun hMem => ?_, hNodup⟩
        obtain ⟨entry, hEntry, hKey⟩ := List.mem_map.mp hMem
        exact hNew entry (by simp [hEntry]) hKey
      have hWithin : (key' :: back.map (·.1)).toFinset ⊆ others ∪ {key'} := by
        intro k hk
        rcases List.mem_cons.mp (List.mem_toFinset.mp hk) with rfl | hk
        · exact Finset.mem_union_right _ (Finset.mem_singleton_self _)
        · obtain ⟨entry, hEntry, rfl⟩ := List.mem_map.mp hk
          exact Finset.mem_union_left _ (hBack entry hEntry)
      have hFew := Finset.card_le_card hWithin
      rw [List.toFinset_card_of_nodup hKeys] at hFew
      simp only [List.length_cons, List.length_map, List.nil_append] at hFew hMany
      omega
  | cons entry front =>
      exact ⟨front, back, rfl, fun e he => hFront e (List.mem_cons_of_mem _ he), hBack, hNodup⟩

theorem append (h : t.Backed key value others) (hNew : ∀ entry ∈ t, entry.1 ≠ key') :
    Backed (t ++ [(key', value')]) key value (others ∪ {key'}) := by
  obtain ⟨front, back, rfl, hFront, hBack, hNodup⟩ := h
  refine ⟨front, back ++ [(key', value')], by simp, hFront, ?_, ?_⟩
  · intro entry hEntry
    rcases List.mem_append.mp hEntry with hOld | hAdded
    · exact Finset.mem_union_left _ (hBack entry hOld)
    · obtain rfl := List.mem_singleton.mp hAdded
      exact Finset.mem_union_right _ (Finset.mem_singleton_self _)
  · rw [List.map_append, List.map_singleton, ← List.concat_eq_append]
    refine hNodup.concat fun hMem => ?_
    obtain ⟨entry, hEntry, hKey⟩ := List.mem_map.mp hMem
    exact hNew entry (by simp [hEntry]) hKey

end Backed

end Table

namespace ListCache

open Table

/-- Something done with a cache, and when. -/
inductive Call where
  | insert (q : ListQuestion) (member : Bool) (now : Nat)
  | get (q : ListQuestion) (now : Nat)
  deriving DecidableEq, Repr

namespace Call

def time : Call → Nat
  | insert _ _ now => now
  | get _ now => now

/-- The question for which an answer is kept. -/
def kept? : Call → Option ListQuestion
  | insert q _ _ => some q
  | get _ _ => none

/-- The cache after the call. -/
def after (c : ListCache) : Call → ListCache
  | insert q member now => c.insert q member now
  | get q now => (c.get q now).2

end Call

/-- The cache after calls, the first one first. -/
def run (c : ListCache) (calls : List Call) : ListCache := calls.foldl Call.after c

/-- The questions for which answers were kept. -/
def keptIn (calls : List Call) : Finset ListQuestion := (calls.filterMap Call.kept?).toFinset

/-- The answer is the last one kept for the question, and `since` is all that was done after. -/
structure LastKept (calls : List Call) (q : ListQuestion) (a : ListAnswer)
    (since : List Call) : Prop where
  kept : ∃ before, calls = before ++ .insert q a.member a.answeredAt :: since
  last : ∀ call ∈ since, call.kept? ≠ some q

/-- The entries stand in the order in which they came. -/
def OldestFirst (c : ListCache) : Prop :=
  c.entries.Pairwise fun first second => first.2.answeredAt ≤ second.2.answeredAt

/-- No call is made before the one in front of it, and now is after all of them. -/
structure InOrder (calls : List Call) (now : Nat) : Prop where
  ordered : calls.Pairwise fun first second => first.time ≤ second.time
  past : ∀ call ∈ calls, call.time ≤ now

@[simp] theorem keptIn_get (q : ListQuestion) (now : Nat) : keptIn [.get q now] = ∅ := rfl

@[simp] theorem keptIn_insert (q : ListQuestion) (member : Bool) (now : Nat) :
    keptIn [.insert q member now] = {q} := rfl

theorem keptIn_append (calls since : List Call) :
    keptIn (calls ++ since) = keptIn calls ∪ keptIn since := by
  simp [keptIn]

variable {c : ListCache} {q q' : ListQuestion} {a : ListAnswer} {member : Bool} {now : Nat}
  {calls since : List Call} {call : Call} {others : Finset ListQuestion}

/-! What a single call does. -/

/-- The cache keeps something at all. -/
def IsOn (c : ListCache) : Prop := c.capacity ≠ 0 ∧ c.timeToLive ≠ 0

instance (c : ListCache) : Decidable c.IsOn := inferInstanceAs (Decidable (_ ∧ _))

/-- The entries that stay when an answer comes, without one for the same question. -/
def beside (c : ListCache) (q : ListQuestion) (now : Nat) : Table ListQuestion ListAnswer :=
  (if c.capacity ≤ c.entries.length ∧ c.entries.lookup q = none then c.makeRoom now
    else c).entries.without q

theorem insert_of_on (h : c.IsOn) (q : ListQuestion) (member : Bool) (now : Nat) :
    c.insert q member now = { c with entries := c.beside q now ++ [(q, ⟨member, now⟩)] } := by
  obtain ⟨hCapacity, hTime⟩ := h
  rw [insert, if_neg (by simp [hCapacity, hTime]), beside]
  by_cases hFull : c.capacity ≤ c.entries.length ∧ c.entries.lookup q = none
  · simp [hFull, erase, makeRoom]
  · have hFull' : ¬ (c.capacity ≤ c.entries.length ∧ ¬ (c.entries.lookup q).isSome) := by
      simpa using hFull
    simp only [hFull, hFull', if_false, erase]

theorem insert_of_off (h : ¬ c.IsOn) (q : ListQuestion) (member : Bool) (now : Nat) :
    c.insert q member now = c := by
  rw [insert, if_pos]
  unfold IsOn at h
  tauto

/-- Where an answer can be fresh, and room is not lacking, the cache keeps something. -/
theorem isOn_of_fresh (hRoom : c.capacity ≠ 0) (hFresh : c.isFresh now a) : c.IsOn := by
  refine ⟨hRoom, fun hTime => ?_⟩
  simp [isFresh, hTime] at hFresh

/-- A look finds what it shows, or nothing; then it may drop what it found too old. -/
theorem get_cases (c : ListCache) (q : ListQuestion) (now : Nat) :
    (c.get q now = (none, c)) ∨
    (∃ a, c.entries.lookup q = some a ∧ c.isFresh now a ∧ c.get q now = (some a.member, c)) ∨
    (∃ a, c.entries.lookup q = some a ∧ c.isFresh now a = false ∧
      c.get q now = (none, c.erase q)) := by
  rw [get]
  cases hFound : c.entries.lookup q with
  | none => exact .inl rfl
  | some a =>
      cases hFresh : c.isFresh now a with
      | true => exact .inr (.inl ⟨a, rfl, hFresh, by simp [hFresh]⟩)
      | false => exact .inr (.inr ⟨a, rfl, hFresh, by simp [hFresh]⟩)

theorem get_of_lookup (hFound : c.entries.lookup q = some a) (hFresh : c.isFresh now a) :
    (c.get q now).1 = some a.member := by
  simp [get, hFound, hFresh]

theorem makeRoom_sublist (c : ListCache) (now : Nat) :
    (c.makeRoom now).entries.Sublist c.entries := by
  rw [makeRoom]
  dsimp only
  split
  · exact List.filter_sublist
  · exact (List.drop_sublist _ _).trans List.filter_sublist

theorem beside_sublist (c : ListCache) (q : ListQuestion) (now : Nat) :
    (c.beside q now).Sublist c.entries := by
  refine (without_sublist _ _).trans ?_
  split
  · exact c.makeRoom_sublist now
  · exact List.Sublist.refl _

/-- Making room leaves a place free. -/
theorem makeRoom_length (hSome : c.capacity ≠ 0) (hFits : c.entries.length ≤ c.capacity)
    (now : Nat) :
    (c.makeRoom now).entries.length < c.capacity := by
  rw [makeRoom]
  dsimp only
  split
  · assumption
  · have hFresh := List.length_filter_le (fun e => c.isFresh now e.2) c.entries
    rw [List.length_drop]
    omega

/-- Beside a new answer there is room for it. -/
theorem beside_length (h : c.IsOn) (hFits : c.entries.length ≤ c.capacity) (q : ListQuestion)
    (now : Nat) : (c.beside q now).length < c.capacity := by
  rw [beside]
  split
  · exact (without_sublist _ _).length_le.trans_lt (makeRoom_length h.1 hFits now)
  · rename_i hRoom
    by_cases hKnown : c.entries.lookup q = none
    · have hShort : c.entries.length < c.capacity := by
        by_contra hFull
        exact hRoom ⟨Nat.le_of_not_lt hFull, hKnown⟩
      exact (without_sublist _ _).length_le.trans_lt hShort
    · exact (length_without_lt hKnown).trans_le hFits

/-- Room is made in front of a fresh answer that has few others behind it. -/
theorem makeRoom_backed (hBacked : c.entries.Backed q a others) (hFresh : c.isFresh now a)
    (hNew : c.entries.lookup q' = none) (hFew : (others ∪ {q'}).card < c.capacity) :
    (c.makeRoom now).entries.Backed q a others := by
  have hKept : Backed (c.entries.filter fun e => c.isFresh now e.2) q a others :=
    hBacked.filter hFresh
  rw [makeRoom]
  dsimp only
  split
  · exact hKept
  · rename_i hFull
    have hOther : ∀ entry ∈ c.entries.filter fun e => c.isFresh now e.2, entry.1 ≠ q' :=
      fun entry hEntry => ne_of_lookup_eq_none hNew (List.mem_of_mem_filter hEntry)
    exact hKept.drop_one hOther (by omega)

theorem beside_backed (hBacked : c.entries.Backed q a others) (hOther : q' ≠ q)
    (hFresh : c.isFresh now a) (hFew : (others ∪ {q'}).card < c.capacity) :
    (c.beside q' now).Backed q a others := by
  rw [beside]
  split
  · rename_i hFull
    exact (makeRoom_backed hBacked hFresh hFull.2 hFew).filter (by simpa using hOther.symm)
  · exact hBacked.filter (by simpa using hOther.symm)

namespace Call

/-- A call changes the entries and nothing else. -/
theorem after_eq (c : ListCache) (call : Call) :
    after c call = { c with entries := (after c call).entries } := by
  cases call with
  | insert q member now =>
      by_cases hOn : c.IsOn
      · simp only [after, insert_of_on hOn]
      · simp only [after, insert_of_off hOn]
  | get q now =>
      rcases c.get_cases q now with hGet | ⟨a, -, -, hGet⟩ | ⟨a, -, -, hGet⟩ <;>
        simp [after, hGet, erase]

@[simp] theorem after_capacity (c : ListCache) (call : Call) :
    (after c call).capacity = c.capacity := by
  rw [after_eq]

@[simp] theorem after_timeToLive (c : ListCache) (call : Call) :
    (after c call).timeToLive = c.timeToLive := by
  rw [after_eq]

/-- A look drops entries at most. -/
theorem after_get_sublist (c : ListCache) (q : ListQuestion) (now : Nat) :
    (after c (get q now)).entries.Sublist c.entries := by
  rcases c.get_cases q now with hGet | ⟨a, -, -, hGet⟩ | ⟨a, -, -, hGet⟩
  · simp [after, hGet]
  · simp [after, hGet]
  · simpa [after, hGet, erase] using without_sublist _ _

theorem after_length (hFits : c.entries.length ≤ c.capacity) (call : Call) :
    (after c call).entries.length ≤ c.capacity := by
  cases call with
  | get q now => exact (after_get_sublist c q now).length_le.trans hFits
  | insert q member now =>
      by_cases hOn : c.IsOn
      · have := beside_length hOn hFits q now
        simp only [after, insert_of_on hOn, List.length_append, List.length_singleton]
        omega
      · simpa only [after, insert_of_off hOn] using hFits

/-- After a call, the answers are those from before it to other questions than the one for which it
keeps one, and that one. -/
theorem mem_after (hOn : c.IsOn) {entry : ListQuestion × ListAnswer}
    (hEntry : entry ∈ (after c call).entries) :
    (entry ∈ c.entries ∧ call.kept? ≠ some entry.1) ∨
      call = insert entry.1 entry.2.member entry.2.answeredAt := by
  cases call with
  | get q now => exact .inl ⟨(after_get_sublist c q now).subset hEntry, by simp [kept?]⟩
  | insert q member now =>
      simp only [after, insert_of_on hOn] at hEntry
      rcases List.mem_append.mp hEntry with hOld | hNew
      · refine .inl ⟨(beside_sublist c q now).subset hOld, fun hSame => ?_⟩
        exact ne_of_mem_without hOld (Option.some.inj hSame).symm
      · obtain rfl := List.mem_singleton.mp hNew
        exact .inr rfl

/-- A call on another matter leaves a fresh answer where it is, with at most one more behind it. -/
theorem after_backed (hBacked : c.entries.Backed q a others) (hOther : call.kept? ≠ some q)
    (hFresh : c.isFresh call.time a) (hFew : (others ∪ keptIn [call]).card < c.capacity) :
    (after c call).entries.Backed q a (others ∪ keptIn [call]) := by
  cases call with
  | get q' now =>
      rw [keptIn_get, Finset.union_empty]
      rcases c.get_cases q' now with hGet | ⟨a', -, -, hGet⟩ | ⟨a', hFound, hStale, hGet⟩
      · simpa [after, hGet] using hBacked
      · simpa [after, hGet] using hBacked
      · simp only [after, hGet, erase]
        refine hBacked.filter ?_
        rw [bne_iff_ne]
        rintro rfl
        obtain rfl : a = a' := Option.some.inj (hBacked.lookup.symm.trans hFound)
        simp only [time] at hFresh
        simp [hFresh] at hStale
  | insert q' member now =>
      rw [keptIn_insert] at hFew ⊢
      have hOther : q' ≠ q := fun hSame => hOther (by simp [kept?, hSame])
      have hOn : c.IsOn := isOn_of_fresh (by omega) hFresh
      simp only [after, insert_of_on hOn]
      exact (beside_backed hBacked hOther hFresh hFew).append fun _ => ne_of_mem_without

/-- A call that is not made in the past leaves the entries in order. -/
theorem after_oldestFirst (hOrder : c.OldestFirst)
    (hPast : ∀ entry ∈ c.entries, entry.2.answeredAt ≤ call.time) :
    (after c call).OldestFirst ∧
      ∀ entry ∈ (after c call).entries, entry.2.answeredAt ≤ call.time := by
  cases call with
  | get q now =>
      have hSub := after_get_sublist c q now
      exact ⟨hOrder.sublist hSub, fun entry hEntry => hPast entry (hSub.subset hEntry)⟩
  | insert q member now =>
      by_cases hOn : c.IsOn
      · have hSub := beside_sublist c q now
        have hOld : ∀ entry ∈ c.beside q now, entry.2.answeredAt ≤ now := fun entry hEntry =>
          hPast entry (hSub.subset hEntry)
        simp only [after, insert_of_on hOn, OldestFirst]
        constructor
        · refine List.pairwise_append.mpr ⟨hOrder.sublist hSub, List.pairwise_singleton _ _, ?_⟩
          intro entry hEntry new hNew
          obtain rfl := List.mem_singleton.mp hNew
          exact hOld entry hEntry
        · intro entry hEntry
          rcases List.mem_append.mp hEntry with hEntry | hNew
          · exact hOld entry hEntry
          · obtain rfl := List.mem_singleton.mp hNew
            exact Nat.le_refl _
      · simp only [after, insert_of_off hOn]
        exact ⟨hOrder, hPast⟩

end Call

/-! What calls do, one after the other. -/

theorem run_append (c : ListCache) (calls since : List Call) :
    c.run (calls ++ since) = (c.run calls).run since := List.foldl_append

theorem run_cons (c : ListCache) (call : Call) (calls : List Call) :
    c.run (call :: calls) = (Call.after c call).run calls := rfl

/-- Calls change the entries and nothing else. -/
theorem run_eq (c : ListCache) (calls : List Call) :
    c.run calls = { c with entries := (c.run calls).entries } := by
  induction calls generalizing c with
  | nil => rfl
  | cons call rest ih =>
      rw [run_cons, ih, Call.after_eq]

@[simp] theorem run_capacity (c : ListCache) (calls : List Call) :
    (c.run calls).capacity = c.capacity := by
  rw [run_eq]

@[simp] theorem run_timeToLive (c : ListCache) (calls : List Call) :
    (c.run calls).timeToLive = c.timeToLive := by
  rw [run_eq]

theorem run_length (hFits : c.entries.length ≤ c.capacity) (calls : List Call) :
    (c.run calls).entries.length ≤ c.capacity := by
  induction calls generalizing c with
  | nil => exact hFits
  | cons call rest ih =>
      have hStep := Call.after_length hFits call
      rw [← Call.after_capacity c call] at hStep ⊢
      exact ih hStep

theorem run_off (hOff : ¬ c.IsOn) (hEmpty : c.entries = []) (calls : List Call) :
    c.run calls = c := by
  induction calls with
  | nil => rfl
  | cons call rest ih =>
      have hStep : Call.after c call = c := by
        cases call with
        | insert q member now => exact insert_of_off hOff q member now
        | get q now => simp [Call.after, get, hEmpty]
      exact (congrArg (run · rest) hStep).trans ih

theorem run_oldestFirst (hOrder : c.OldestFirst)
    (hPast : ∀ call ∈ calls, ∀ entry ∈ c.entries, entry.2.answeredAt ≤ call.time)
    (hCalls : calls.Pairwise fun first second => first.time ≤ second.time) :
    (c.run calls).OldestFirst := by
  induction calls generalizing c with
  | nil => exact hOrder
  | cons call rest ih =>
      obtain ⟨hFirst, hRest⟩ := List.pairwise_cons.mp hCalls
      obtain ⟨hStep, hStepPast⟩ := Call.after_oldestFirst hOrder (hPast call List.mem_cons_self)
      refine ih hStep (fun later hLater entry hEntry => ?_) hRest
      exact (hStepPast entry hEntry).trans (hFirst later hLater)

/-- Every entry was there from the beginning, and nothing was kept for its question, or it is the
last answer kept. -/
theorem mem_run (hOn : c.IsOn) {entry : ListQuestion × ListAnswer}
    (hEntry : entry ∈ (c.run calls).entries) :
    (entry ∈ c.entries ∧ ∀ call ∈ calls, call.kept? ≠ some entry.1) ∨
      ∃ since, LastKept calls entry.1 entry.2 since := by
  induction calls generalizing c with
  | nil => exact .inl ⟨hEntry, by simp⟩
  | cons call rest ih =>
      have hOn' : (Call.after c call).IsOn := by simpa [IsOn] using hOn
      rcases ih hOn' hEntry with ⟨hOld, hRest⟩ | ⟨since, ⟨before, hKept⟩, hLast⟩
      · rcases Call.mem_after hOn hOld with ⟨hOld, hCall⟩ | hCall
        · refine .inl ⟨hOld, fun other hOther => ?_⟩
          rcases List.mem_cons.mp hOther with rfl | hOther
          · exact hCall
          · exact hRest other hOther
        · exact .inr ⟨rest, ⟨[], by simp [hCall]⟩, hRest⟩
      · exact .inr ⟨since, ⟨call :: before, by simp [hKept]⟩, hLast⟩

/-- Calls on other matters leave an answer where it is while it stays fresh and few others come
behind it. -/
theorem run_backed (hBacked : c.entries.Backed q a others)
    (hOther : ∀ call ∈ since, call.kept? ≠ some q)
    (hFresh : ∀ call ∈ since, c.isFresh call.time a)
    (hFew : (others ∪ keptIn since).card < c.capacity) :
    (c.run since).entries.Backed q a (others ∪ keptIn since) := by
  induction since generalizing c others with
  | nil => simpa [keptIn, run] using hBacked
  | cons call rest ih =>
      have hKept : others ∪ keptIn (call :: rest) = others ∪ keptIn [call] ∪ keptIn rest := by
        rw [Finset.union_assoc, ← keptIn_append, List.singleton_append]
      rw [hKept] at hFew ⊢
      have hFirst : (others ∪ keptIn [call]).card < c.capacity :=
        (Finset.card_le_card Finset.subset_union_left).trans_lt hFew
      have hStep := Call.after_backed hBacked (hOther call List.mem_cons_self)
        (hFresh call List.mem_cons_self) hFirst
      refine ih hStep (fun later hLater => hOther later (List.mem_cons_of_mem _ hLater)) ?_ ?_
      · intro later hLater
        simpa [isFresh] using hFresh later (List.mem_cons_of_mem _ hLater)
      · rwa [Call.after_capacity]

/-- A cache after calls, as it answers now. -/
structure Remembers (c : ListCache) (calls : List Call) (now : Nat) : Prop where
  bounded : c.entries.length ≤ c.capacity
  oldestFirst : c.OldestFirst
  known : ∀ q member, (c.get q now).1 = some member →
    ∃ answeredAt since, LastKept calls q ⟨member, answeredAt⟩ since ∧
      now - answeredAt < c.timeToLive
  retained : ∀ q a since, LastKept calls q a since → now - a.answeredAt < c.timeToLive →
    (keptIn since).card < c.capacity → (c.get q now).1 = some a.member
  off : c.timeToLive = 0 ∨ c.capacity = 0 → c.entries = []

theorem known_of_run (hEmpty : c.entries = []) (hGet : ((c.run calls).get q now).1 = some member) :
    ∃ answeredAt since, LastKept calls q ⟨member, answeredAt⟩ since ∧
      now - answeredAt < c.timeToLive := by
  rcases (c.run calls).get_cases q now with hNone | ⟨a, hFound, hFresh, hSome⟩ | ⟨a, -, -, hNone⟩
  · simp [hNone] at hGet
  · obtain rfl : a.member = member := by simpa [hSome] using hGet
    have hOn : c.IsOn := by
      by_contra hOff
      rw [run_off hOff hEmpty, hEmpty] at hFound
      simp at hFound
    rcases mem_run hOn (mem_of_lookup hFound) with ⟨hOld, -⟩ | ⟨since, hLast⟩
    · simp [hEmpty] at hOld
    · exact ⟨a.answeredAt, since, hLast, by simpa [isFresh] using hFresh⟩
  · simp [hNone] at hGet

/-- The last answer stands behind all others when it comes, and little comes behind it. -/
theorem retained_by_run (hPast : ∀ call ∈ calls, call.time ≤ now) (hLast : LastKept calls q a since)
    (hFresh : now - a.answeredAt < c.timeToLive) (hFew : (keptIn since).card < c.capacity) :
    ((c.run calls).get q now).1 = some a.member := by
  obtain ⟨⟨before, rfl⟩, hOther⟩ := hLast
  have hOn : (c.run before).IsOn := by
    rw [IsOn, run_capacity, run_timeToLive]
    exact ⟨by omega, by omega⟩
  have hKept :
      (Call.after (c.run before) (.insert q a.member a.answeredAt)).entries.Backed q a ∅ := by
    rw [Call.after, insert_of_on hOn]
    exact ⟨(c.run before).beside q a.answeredAt, [], rfl, fun _ => ne_of_mem_without, by simp,
      by simp⟩
  have hSince : ∀ call ∈ since, c.isFresh call.time a := fun call hCall => by
    have hTime : call.time ≤ now := hPast call (by simp [hCall])
    rw [isFresh, decide_eq_true_eq]
    omega
  rw [run_append, run_cons]
  have hRun := run_backed hKept hOther (by simpa [isFresh] using hSince) (by simpa using hFew)
  exact get_of_lookup hRun.lookup (by simpa [isFresh] using hFresh)

/-- After any calls, an empty cache holds at most as many entries as it has room for, the oldest
first. It answers a question only with the last answer kept for it, while that is not too old, and
it does answer so if fewer other questions were answered since than there is room for. Without time
or room it holds nothing. -/
theorem run_remembers (hEmpty : c.entries = []) (hOrder : InOrder calls now) :
    (c.run calls).Remembers calls now where
  bounded := by
    rw [run_capacity]
    exact run_length (by simp [hEmpty]) calls
  oldestFirst := run_oldestFirst (by simp [OldestFirst, hEmpty]) (by simp [hEmpty]) hOrder.ordered
  known q member hGet := by
    rw [run_timeToLive]
    exact known_of_run hEmpty hGet
  retained q a since hLast hFresh hFew := by
    rw [run_timeToLive] at hFresh
    rw [run_capacity] at hFew
    exact retained_by_run hOrder.past hLast hFresh hFew
  off hNone := by
    rw [run_timeToLive, run_capacity] at hNone
    have hOff : ¬ c.IsOn := by
      unfold IsOn
      tauto
    rw [run_off hOff hEmpty, hEmpty]

/-- Room for two answers, each for ten milliseconds. -/
def pair : ListCache := { timeToLive := 10, capacity := 2 }

/-- Whether the user is on a list. -/
def onList (listId : String) : ListQuestion := ⟨"f", listId, "v", "u", true⟩

/-- The first question is answered anew, so the second one has to make room for the third. -/
def crowding : List Call := [
  .insert (onList "a") true 0, .insert (onList "b") true 3, .get (onList "a") 5,
  .insert (onList "a") false 6, .insert (onList "c") true 8]

theorem pair_remembers :
    InOrder crowding 12 ∧ (pair.run crowding).Remembers crowding 12 ∧
      ((pair.run crowding).get (onList "a") 12).1 = some false ∧
      ((pair.run crowding).get (onList "b") 12).1 = none := by
  have hOrder : InOrder crowding 12 := ⟨by decide, by decide⟩
  have hRemembers := run_remembers (c := pair) rfl hOrder
  have hLast : LastKept crowding (onList "a") ⟨false, 6⟩ [.insert (onList "c") true 8] :=
    ⟨⟨crowding.take 3, rfl⟩, by decide⟩
  refine ⟨hOrder, hRemembers, ?_, by decide⟩
  exact hRemembers.retained _ _ _ hLast (by decide) (by decide)

end ListCache

end FlagDecision
