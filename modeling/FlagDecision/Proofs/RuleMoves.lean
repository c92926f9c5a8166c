import FlagDecision.Proofs.Moves

/-! The rules make moves only, by one lemma per function of the rules. Beside the
moves each lemma says what the answer means: where it comes from, and for a campaign
of a group that the campaign stands for the winner. -/
namespace FlagDecision

theorem pickByWeight_mem {α : Type} {candidates : List (α × Binary64)} {bucket : Nat} {a : α}
    (h : pickByWeight candidates bucket = some a) : a ∈ candidates.map (·.1) := by
  obtain ⟨⟨candidate, range⟩, hFind, rfl⟩ := Option.map_eq_some_iff.mp h
  exact List.mem_map_of_mem (List.of_mem_zip (List.mem_of_find?_eq_some hFind)).1

namespace Group

variable {groupId : Nat} {candidates : List Campaign} {userId : String} {c : Campaign}

theorem prioritized?_mem {priority : List GroupMember}
    (h : prioritized? priority candidates = some c) : c ∈ candidates := by
  obtain ⟨entry, -, hFind⟩ := List.exists_of_findSome?_eq_some h
  exact List.mem_of_find?_eq_some hFind

theorem randomWinner?_mem (h : randomWinner? groupId candidates userId = some c) :
    c ∈ candidates := by
  simpa [List.map_map, Function.comp_def] using pickByWeight_mem h

theorem weightedWinner?_mem {g : Group}
    (h : g.weightedWinner? groupId candidates userId = some c) : c ∈ candidates := by
  obtain ⟨⟨d, weight⟩, hPair, rfl⟩ := List.mem_map.mp (pickByWeight_mem h)
  obtain ⟨⟨e, own⟩, hOwn, rfl⟩ := List.mem_map.mp (List.of_mem_zip hPair).1
  obtain ⟨listed, hMem, hWeight⟩ := List.mem_filterMap.mp hOwn
  obtain ⟨_, _, hSame⟩ := Option.map_eq_some_iff.mp hWeight
  obtain rfl : listed = e := congrArg Prod.fst hSame
  exact hMem

theorem winner?_mem {g : Group} (h : g.winner? groupId candidates userId = some c) :
    c ∈ candidates := by
  rw [winner?.eq_def] at h
  split at h
  · simp at h
  · simp_all
  · split at h
    · exact randomWinner?_mem h
    · cases hPriority : prioritized? g.priority candidates with
      | none => exact weightedWinner?_mem (by simpa [hPriority] using h)
      | some first =>
          obtain rfl : first = c := by simpa [hPriority] using h
          exact prioritized?_mem hPriority

end Group

namespace Campaign

variable {c : Campaign} {userId : String} {v : Variation}

theorem allot?_mem {accountId : Nat} (h : c.allot? accountId userId = some v) :
    v ∈ c.variations := by
  rw [allot?] at h
  split at h
  · simp at h
  · split at h
    · exact List.mem_of_mem_head? h
    · exact List.mem_of_find?_eq_some h

theorem whitelisted?_mem {candidates : List Variation}
    (h : c.whitelisted? candidates userId = some v) : v ∈ candidates := by
  rw [whitelisted?.eq_def] at h
  split at h
  · simp at h
  · simp_all
  · obtain ⟨⟨w, weight⟩, hPair, rfl⟩ := List.mem_map.mp (pickByWeight_mem h)
    exact (List.of_mem_zip hPair).1

end Campaign

namespace Inquiry

open Step Storage

variable {q : Inquiry} {p p' : Progress} {busy : List Nat} {guard : Guard Step}
  {f : Feature} {c : Campaign}

/-- A campaign that belongs to a group that is not being resolved is the known winner of
it. -/
def Wins (q : Inquiry) (busy : List Nat) (p : Progress) (c : Campaign) : Prop :=
  ∀ g, q.settings.groupOf? c.groupMember = some g → g ∉ busy →
    p.winners.lookup g = some (some c.groupMember)

theorem Moves.wins_kept (h : q.Moves busy p p') {outer : List Nat} (hWins : q.Wins outer p c) :
    q.Wins outer p' c := by
  intro g hGroup hOpen
  exact h.winners_kept (hWins g hGroup hOpen)

/-- What the search for the winner of a group may come to. Either nobody wins, or a candidate
wins, which is then recorded. -/
inductive Searched (q : Inquiry) (busy : List Nat) (groupId : Nat) (p : Progress) :
    Option GroupMember → Progress → Prop where
  | nobody {p' : Progress} (search : q.Moves (groupId :: busy) p p') :
      Searched q busy groupId p none p'
  | winner {p' : Progress} {c : Campaign} (search : q.Moves (groupId :: busy) p p')
      (candidate : q.Candidate groupId c) :
      Searched q busy groupId p (some c.groupMember) (recorded (q.winnerRecord groupId c) p')

/-- A guard that holds some groups and looks for the winners of others as the rules do. -/
structure Guard.Follows (guard : Guard Step) (q : Inquiry) (busy : List Nat) : Prop where
  busy_eq : guard.busy = pure busy
  searched : ∀ g p, (guard.resolve g).Ensures p (q.Searched busy g p)

/-- Checking a segment changes at most the desk. -/
theorem holds_asks (f : Feature) (attributes : Attributes) (s : Option Segment) :
    (q.holds f attributes s).Ensures p fun _ p' => ∃ desk, p' = { p with desk } :=
  ⟨_, rfl⟩

theorem preSegmentation_asks (f : Feature) (c : Campaign) :
    (q.preSegmentation f c).Ensures p fun _ p' => ∃ desk, p' = { p with desk } :=
  holds_asks f _ _

theorem preSegmentation_moves (busy : List Nat) (f : Feature) (c : Campaign) :
    (q.preSegmentation f c).Ensures p fun _ p' => q.Moves busy p p' :=
  .ask _

/-- A campaign passes for a group that is not being resolved only as its winner. -/
theorem isWinner_moves (hGuard : guard.Follows q busy) (f : Feature) (c : Campaign) (g : Nat) :
    (q.isWinner guard f c g).Ensures p fun answer p' =>
      q.Moves busy p p' ∧
        (answer = true → g ∉ busy → p'.winners.lookup g = some (some c.groupMember)) := by
  refine Ensures.get_bind ?_
  cases hKnown : p.winners.lookup g with
  | some winner =>
      refine Ensures.pure ⟨.refl, fun hAnswer _ => ?_⟩
      rw [hKnown, eq_of_beq hAnswer]
  | none =>
      rw [hGuard.busy_eq]
      refine Ensures.pure_bind ?_
      split
      · rename_i hBusy
        refine (preSegmentation_moves _ f c).imp fun _ _ hMoves => ⟨hMoves, fun _ hOpen => ?_⟩
        exact absurd (List.contains_iff_mem.mp hBusy) hOpen
      · rename_i hOpen
        replace hOpen : g ∉ busy := fun hBusy => hOpen (List.contains_iff_mem.mpr hBusy)
        split
        · rename_i winner hStored
          refine Ensures.modify_bind
            (Ensures.pure ⟨.reuse hOpen hKnown hStored, fun hAnswer _ => ?_⟩)
          simp [Progress.knowing, eq_of_beq hAnswer]
        · rename_i hStored
          refine (preSegmentation_asks f c).bind fun passed p₁ hAsked => ?_
          obtain ⟨desk, rfl⟩ := hAsked
          split
          · -- The desk says nothing about winners, so the group is unsettled after the check too.
            have hUnsettled : q.Unsettled busy { p with desk } g := ⟨hOpen, hKnown, hStored⟩
            refine (hGuard.searched g _).bind fun winner p₂ hSearched =>
              Ensures.modify_bind (Ensures.pure ?_)
            cases hSearched with
            | nobody search => exact ⟨.trans (.ask desk) (.leave hUnsettled search), by simp⟩
            | winner search candidate =>
                refine ⟨.trans (.ask desk) (.crown hUnsettled search candidate),
                  fun hAnswer _ => ?_⟩
                simpa [Progress.knowing] using hAnswer
          · exact Ensures.pure ⟨.ask desk, by simp⟩

theorem passes_moves (hGuard : guard.Follows q busy) (f : Feature) (c : Campaign) :
    (q.passes guard f c).Ensures p fun answer p' =>
      q.Moves busy p p' ∧ (answer = true → q.Wins busy p' c) := by
  rw [passes]
  split
  · rename_i g hGroup
    refine (isWinner_moves hGuard f c g).imp fun answer p' h => ⟨h.1, fun hAnswer => ?_⟩
    intro g' hGroup' hOpen
    obtain rfl : g = g' := Option.some.inj (hGroup.symm.trans hGroup')
    exact h.2 hAnswer hOpen
  · rename_i hAlone
    refine (preSegmentation_moves _ f c).imp fun _ _ hMoves => ⟨hMoves, fun _ g hGroup => ?_⟩
    simp [hAlone] at hGroup

/-- The first campaign that passes is one of those tried, and wins its group. -/
theorem firstPassing_moves (hGuard : guard.Follows q busy) (f : Feature)
    (campaigns : List Campaign) :
    (q.firstPassing guard f campaigns).Ensures p fun found p' =>
      q.Moves busy p p' ∧ ∀ c, found = some c → c ∈ campaigns ∧ q.Wins busy p' c := by
  induction campaigns generalizing p with
  | nil => exact Ensures.pure ⟨.refl, by simp⟩
  | cons c rest ih =>
      refine (passes_moves hGuard f c).bind fun answer p₁ h => ?_
      split
      · rename_i hAnswer
        refine Ensures.pure ⟨h.1, fun d hFound => ?_⟩
        obtain rfl := Option.some.inj hFound
        exact ⟨List.mem_cons_self, h.2 hAnswer⟩
      · refine ih.imp fun found p₂ h' => ⟨h.1.trans h'.1, fun d hFound => ?_⟩
        exact ⟨List.mem_cons_of_mem _ (h'.2 d hFound).1, (h'.2 d hFound).2⟩

/-- A rollout decision that is made now, not remembered, lets the user through a rollout of the
feature that wins its group. -/
theorem rolloutDecision_moves (hGuard : guard.Follows q busy) (f : Feature) :
    (q.rolloutDecision guard f).Ensures p fun choice p' =>
      q.Moves busy p p' ∧ (p.rollouts.lookup f.key = none → ∀ c v, choice = some (c, v) →
        c ∈ f.rollouts ∧ c.allot? q.settings.accountId q.user.id = some v ∧
          q.Wins busy p' c) := by
  refine Ensures.get_bind ?_
  split
  · rename_i decided hKnown
    exact Ensures.pure ⟨.refl, by simp [hKnown]⟩
  · refine (firstPassing_moves hGuard f f.rollouts).bind fun passing p₁ h =>
      Ensures.modify_bind (Ensures.pure ⟨h.1.trans (.remember _ _), fun _ c v hChoice => ?_⟩)
    obtain ⟨d, rfl, hGiven⟩ := Option.bind_eq_some_iff.mp hChoice
    obtain ⟨w, hAllot, hSame⟩ := Option.map_eq_some_iff.mp hGiven
    obtain ⟨rfl, rfl⟩ := Prod.mk.inj hSame
    exact ⟨(h.2 d rfl).1, hAllot, (h.2 d rfl).2⟩

/-- All campaigns of a contest are as demanded. -/
def Contest.All (contest : Contest) (demand : Campaign → Prop) : Prop :=
  ∀ c ∈ contest.stored ++ contest.eligible, demand c

theorem Contest.All.stored {contest : Contest} {demand : Campaign → Prop} (h : contest.All demand)
    (hc : demand c) : Contest.All { contest with stored := contest.stored ++ [c] } demand := by
  intro d hd
  simp only [List.append_assoc, List.mem_append, List.mem_singleton] at hd
  rcases hd with hd | rfl | hd
  · exact h d (List.mem_append_left _ hd)
  · exact hc
  · exact h d (List.mem_append_right _ hd)

theorem Contest.All.eligible {contest : Contest} {demand : Campaign → Prop}
    (h : contest.All demand) (hc : demand c) :
    Contest.All { contest with eligible := contest.eligible ++ [c] } demand := by
  intro d hd
  rw [← List.append_assoc, List.mem_append, List.mem_singleton] at hd
  rcases hd with hd | rfl
  · exact h d hd
  · exact hc

theorem enter_moves (busy : List Nat) (f : Feature) (stored : Option StoredDecision)
    (demand : Campaign → Prop) {campaigns : List Campaign} {done : Contest}
    (hDone : done.All demand) (hNew : ∀ c ∈ campaigns, demand c) :
    (q.enter f stored done campaigns).Ensures p fun found p' =>
      q.Moves busy p p' ∧ found.All demand := by
  induction campaigns generalizing p done with
  | nil => exact Ensures.pure ⟨.refl, hDone⟩
  | cons c rest ih =>
      have hFirst := hNew c List.mem_cons_self
      have hRest := fun d hd => hNew d (List.mem_cons_of_mem _ hd)
      rw [enter]
      split
      · exact ih (hDone.stored hFirst) hRest
      · refine (preSegmentation_moves busy f c).bind fun passed p₁ hMoves => ?_
        split
        · exact (ih (hDone.eligible hFirst) hRest).imp fun _ _ h => ⟨hMoves.trans h.1, h.2⟩
        · exact (ih hDone hRest).imp fun _ _ h => ⟨hMoves.trans h.1, h.2⟩

theorem isClosed_moves (hGuard : guard.Follows q busy) (f : Feature) :
    (q.isClosed guard f).Ensures p fun _ p' => q.Moves busy p p' := by
  rw [isClosed]
  split
  · exact (rolloutDecision_moves hGuard f).bind fun _ _ h => Ensures.pure h.1
  · exact Ensures.pure .refl

theorem competitors_moves (hGuard : guard.Follows q busy) (f : Feature) (listed : List Campaign) :
    (q.competitors guard f listed).Ensures p fun found p' =>
      q.Moves busy p p' ∧ ∀ c ∈ found, c ∈ listed := by
  rw [competitors]
  split
  · exact Ensures.pure ⟨.refl, fun _ => List.mem_of_mem_filter⟩
  · refine (isClosed_moves hGuard f).bind fun closed p' hMoves => ?_
    split
    · exact Ensures.pure ⟨hMoves, fun _ => List.mem_of_mem_filter⟩
    · refine Ensures.pure ⟨hMoves, fun c hc => ?_⟩
      exact (List.mem_append.mp hc).elim List.mem_of_mem_filter List.mem_of_mem_filter

theorem contest_moves (hGuard : guard.Follows q busy) (g : Group) (demand : Campaign → Prop)
    {features : List Feature} {done : Contest} (hDone : done.All demand)
    (hListed : ∀ f ∈ features, ∀ c ∈ f.linked, g.contains c = true → demand c) :
    (q.contest guard g done features).Ensures p fun found p' =>
      q.Moves busy p p' ∧ found.All demand := by
  induction features generalizing p done with
  | nil => exact Ensures.pure ⟨.refl, hDone⟩
  | cons f rest ih =>
      have hRest := fun e he => hListed e (List.mem_cons_of_mem _ he)
      have hFirst : ∀ c ∈ f.linked.filter g.contains, demand c := fun c hc =>
        hListed f List.mem_cons_self c (List.mem_filter.mp hc).1 (List.mem_filter.mp hc).2
      rw [contest]
      split
      · exact ih hDone hRest
      · refine (competitors_moves hGuard f _).bind fun campaigns p₁ h₁ => Ensures.get_bind ?_
        refine (enter_moves busy f _ _ hDone fun c hc => hFirst c (h₁.2 c hc)).bind
          fun _ p₂ h₂ => ?_
        exact (ih h₂.2 hRest).imp fun _ _ h => ⟨(h₁.1.trans h₂.1).trans h.1, h.2⟩

/-- A contest in which candidates of the group compete ends with one of them as the winner, or
nobody. -/
theorem elect_searched {groupId : Nat} {g : Group} {found : Contest}
    (search : q.Moves (groupId :: busy) p p') (hFound : found.All (q.Candidate groupId)) :
    (q.elect groupId g found).Ensures p' (q.Searched busy groupId p) := by
  rw [elect]
  split
  · exact Ensures.pure (.nobody search)
  · rename_i c hWinner
    refine Ensures.modify_bind (Ensures.pure (.winner search (hFound c ?_)))
    have hMem := Group.winner?_mem hWinner
    rw [Contest.candidates] at hMem
    split at hMem
    · exact List.mem_append_right _ hMem
    · exact List.mem_append_left _ hMem

theorem resolveGroup_follows (depth : Nat) (busy : List Nat) :
    Guard.Follows ⟨pure busy, q.resolveGroup depth busy⟩ q busy := by
  induction depth generalizing busy with
  | zero => exact ⟨rfl, fun g p => .nobody .refl⟩
  | succ depth ih =>
      refine ⟨rfl, fun g p => ?_⟩
      change (q.resolveGroup (depth + 1) busy g).Ensures p (q.Searched busy g p)
      rw [resolveGroup, winnerOf]
      split
      · exact Ensures.pure (.nobody .refl)
      · rename_i group hGroup
        exact (contest_moves (ih (g :: busy)) group (q.Candidate g) (by simp [Contest.All])
          fun f hFeature c hLinked hContains =>
            ⟨group, hGroup, hContains, f, hFeature, hLinked⟩).bind fun found p' h =>
              elect_searched h.1 h.2

theorem outside_follows (q : Inquiry) : q.outside.Follows q [] := resolveGroup_follows _ _

/-- Whitelisting only checks segments, and picks a variation of the campaign. -/
theorem whitelisting_moves (busy : List Nat) (f : Feature) (c : Campaign) :
    (q.whitelisting f c).Ensures p fun forced p' =>
      q.Moves busy p p' ∧ ∀ v, forced = some v → v ∈ c.variations := by
  rw [whitelisting]
  split
  · refine (Ensures.filterM (q.Moves busy p) _ (fun v p' hMoves => ?_) .refl).bind
      fun candidates p' h => Ensures.pure ⟨h.1, fun v hForced => ?_⟩
    · exact (holds_asks f _ _).imp fun _ _ ⟨desk, hDesk⟩ => hDesk ▸ hMoves.trans (.ask desk)
    · exact List.mem_of_mem_filter (h.2 v (Campaign.whitelisted?_mem hForced))
  · exact Ensures.pure ⟨.refl, by simp⟩

/-- The experiment shown is one of those tried with one of its variations. If traffic decides, the
campaign wins its group. -/
theorem experimentDecision_moves (f : Feature) (campaigns : List Campaign) :
    (q.experimentDecision f campaigns).Ensures p fun found p' =>
      q.Moves [] p p' ∧ ∀ c v path, found = some ((c, v), path) →
        c ∈ campaigns ∧ v ∈ c.variations ∧ (path = .allotted → q.Wins [] p' c) := by
  induction campaigns generalizing p with
  | nil => exact Ensures.pure ⟨.refl, by simp⟩
  | cons c rest ih =>
      rw [experimentDecision]
      refine (whitelisting_moves [] f c).bind fun forced p₁ h₁ => ?_
      split
      · rename_i v
        refine Ensures.pure ⟨h₁.1, fun d w path hFound => ?_⟩
        obtain ⟨⟨rfl, rfl⟩, rfl⟩ : (c = d ∧ v = w) ∧ Path.whitelisted = path := by
          simpa using hFound
        exact ⟨List.mem_cons_self, h₁.2 v rfl, by simp⟩
      · refine (passes_moves (outside_follows q) f c).bind fun answer p₂ h₂ => ?_
        split
        · rename_i hAnswer
          refine Ensures.pure ⟨h₁.1.trans h₂.1, fun d w path hFound => ?_⟩
          obtain ⟨v, hAllot, hSame⟩ := Option.map_eq_some_iff.mp hFound
          obtain ⟨⟨rfl, rfl⟩, -⟩ : (c = d ∧ v = w) ∧ Path.allotted = path := by
            simpa using hSame
          exact ⟨List.mem_cons_self, Campaign.allot?_mem hAllot, fun _ => h₂.2 hAnswer⟩
        · refine ih.imp fun found p₃ h₃ => ⟨(h₁.1.trans h₂.1).trans h₃.1, ?_⟩
          intro d w path hFound
          obtain ⟨hMem, hRest⟩ := h₃.2 d w path hFound
          exact ⟨List.mem_cons_of_mem _ hMem, hRest⟩

end Inquiry

end FlagDecision
