import Mathlib.Data.Finset.Card
import FlagDecision.Proofs.Linking
import FlagDecision.Proofs.Mirror

/-! How deep searches for winners are nested. A watch keeps the groups that are being
resolved: a group is put there before its contest and taken away after it. The search is
broken off where it would resolve a group that is being resolved already, and where it
is nested deeper than some number of levels. Every level but the last takes a defined
group that is not being resolved, so with one level more than there are defined groups
no search is broken off, whatever campaigns lead back to which groups. -/
namespace FlagDecision

open Step

/-- How far a search is, and the groups that are being resolved. -/
structure Watch where
  progress : Progress
  busy : List Nat

/-- A search under watch. It may be broken off. -/
abbrev Watched (α : Type) : Type := StateT Watch Option α

namespace Watched

variable {α β : Type} {x : Watched α} {y : Step α} {w : Watch}

/-- A step that does not ask which groups are being resolved. -/
def lift (x : Step α) : Watched α := fun w =>
  some ((x.run w.progress).1, { w with progress := (x.run w.progress).2 })

instance : MonadLiftT Step Watched := ⟨lift⟩

/-- A group is being resolved while something goes on, and is not afterwards. -/
def resolving (groupId : Nat) (x : Watched α) : Watched α := do
  modify fun w => { w with busy := w.busy.insert groupId }
  let a ← x
  modify fun w => { w with busy := w.busy.erase groupId }
  return a

/-- The search is not broken off. It goes as a step does, and the groups that are being resolved are
the same after it. -/
def Follows (x : Watched α) (y : Step α) (w : Watch) : Prop :=
  x.run w = some ((y.run w.progress).1, { w with progress := (y.run w.progress).2 })

namespace Follows

theorem pure {a : α} : Follows (Pure.pure a) (Pure.pure a) w := rfl

theorem lift (y : Step α) : (liftM y : Watched α).Follows y w := rfl

theorem bind {f : α → Watched β} {g : α → Step β} (hx : x.Follows y w)
    (hf : ∀ a p, (f a).Follows (g a) { w with progress := p }) :
    (x >>= f).Follows (y >>= g) w := by
  rw [Follows, StateT.run_bind, hx]
  exact hf _ _

theorem get_bind {f : Progress → Watched β} {g : Progress → Step β}
    (h : (f w.progress).Follows (g w.progress) w) :
    (liftM (get : Step Progress) >>= f).Follows (get >>= g) w := h

theorem watch_bind {f : Watch → Watched α} (h : (f w).Follows y w) :
    (get >>= f).Follows y w := h

/-- A group that is resolved around a search is not being resolved after it. -/
theorem resolving {g : Nat} (hOpen : g ∉ w.busy)
    (hx : x.Follows y { w with busy := g :: w.busy }) : (Watched.resolving g x).Follows y w := by
  have hEnter : w.busy.insert g = g :: w.busy := List.insert_of_not_mem hOpen
  have hLeave : (g :: w.busy).erase g = w.busy := List.erase_cons_head _ _
  rw [Follows, Watched.resolving, StateT.run_bind, StateT.run_modify]
  simp only [hEnter, pure_bind]
  rw [StateT.run_bind, hx]
  simp [hLeave]

end Follows

end Watched

namespace Inquiry

/-- The guard of a search under watch. What is being resolved is read from the watch whenever it is
asked for. -/
def Guard.watching (resolve : Nat → Watched (Option GroupMember)) : Guard Watched :=
  ⟨do return (← get).busy, resolve⟩

/-- What is being resolved is the same under watch and in a guard that hands it down. -/
theorem Guard.watching_busy_bind {β : Type} {f : List Nat → Watched β} {g : List Nat → Step β}
    {resolve : Nat → Watched (Option GroupMember)} {w : Watch}
    (h : (f w.busy).Follows (g w.busy) w) :
    ((Guard.watching resolve).busy >>= f).Follows (pure w.busy >>= g) w := h

/-- Look for the winner of a group, nested at most as deep as some number of levels. A group that is
being resolved already breaks the search off. -/
def watchedResolveGroup (q : Inquiry) : Nat → Nat → Watched (Option GroupMember)
  | 0, _ => failure
  | levels + 1, groupId => do
    if (← get).busy.contains groupId then failure
    else
      let guard := Guard.watching (q.watchedResolveGroup levels)
      q.winnerOf (fun g => .resolving groupId (q.contest guard g {} q.settings.features)) groupId

variable {q : Inquiry} {resolve : Nat → Watched (Option GroupMember)} {guard : Guard Step}
  {busy : List Nat}

/-- A guard holds some groups, and a search under watch finds the winners of all others. -/
structure Guard.WatchedBy (guard : Guard Step) (busy : List Nat)
    (resolve : Nat → Watched (Option GroupMember)) : Prop where
  busy_eq : guard.busy = pure busy
  follows : ∀ g, g ∉ busy → ∀ p, (resolve g).Follows (guard.resolve g) ⟨p, busy⟩

-- Each of the rules is one function, which goes under watch as it goes by steps.
section Rules

open Watched

variable (h : guard.WatchedBy busy resolve) (f : Feature) (p : Progress)

include h

theorem isWinner_watched (c : Campaign) (g : Nat) :
    (q.isWinner (.watching resolve) f c g).Follows (q.isWinner guard f c g) ⟨p, busy⟩ := by
  apply Follows.get_bind
  cases p.winners.lookup g with
  | some winner => exact Follows.pure
  | none =>
      rw [h.busy_eq]
      apply Guard.watching_busy_bind
      split
      · exact Follows.lift _
      · rename_i hBusy
        have hOpen : g ∉ busy := by simpa using hBusy
        cases q.storedWinner? p.storage g with
        | some winner => exact (Follows.lift _).bind fun _ _ => Follows.pure
        | none =>
            apply (Follows.lift _).bind
            intro passed p₁
            cases passed with
            | true =>
                apply (h.follows g hOpen p₁).bind
                intro winner p₂
                exact (Follows.lift _).bind fun _ _ => Follows.pure
            | false => exact Follows.pure

theorem passes_watched (c : Campaign) :
    (q.passes (.watching resolve) f c).Follows (q.passes guard f c) ⟨p, busy⟩ := by
  rw [passes, passes]
  cases q.settings.groupOf? c.groupMember with
  | some g => exact isWinner_watched h f p c g
  | none => exact Follows.lift _

theorem firstPassing_watched (campaigns : List Campaign) :
    (q.firstPassing (.watching resolve) f campaigns).Follows (q.firstPassing guard f campaigns)
      ⟨p, busy⟩ := by
  induction campaigns generalizing p with
  | nil => exact Follows.pure
  | cons c rest ih =>
      apply (passes_watched h f p c).bind
      intro passed p₁
      cases passed with
      | true => exact Follows.pure
      | false => exact ih p₁

theorem rolloutDecision_watched :
    (q.rolloutDecision (.watching resolve) f).Follows (q.rolloutDecision guard f) ⟨p, busy⟩ := by
  apply Follows.get_bind
  cases p.rollouts.lookup f.key with
  | some decided => exact Follows.pure
  | none =>
      apply (firstPassing_watched h f p f.rollouts).bind
      intro passing p₁
      exact (Follows.lift _).bind fun _ _ => Follows.pure

theorem isClosed_watched :
    (q.isClosed (.watching resolve) f).Follows (q.isClosed guard f) ⟨p, busy⟩ := by
  rw [isClosed, isClosed]
  cases f.hasRollout with
  | true => exact (rolloutDecision_watched h f p).bind fun _ _ => Follows.pure
  | false => exact Follows.pure

theorem competitors_watched (listed : List Campaign) :
    (q.competitors (.watching resolve) f listed).Follows (q.competitors guard f listed)
      ⟨p, busy⟩ := by
  rw [competitors, competitors]
  cases (listed.filter (·.kind != .rollout)).isEmpty with
  | true => exact Follows.pure
  | false =>
      apply (isClosed_watched h f p).bind
      intro closed p₁
      cases closed with
      | true | false => exact Follows.pure

omit f

theorem contest_watched (g : Group) (features : List Feature) (done : Contest) :
    (q.contest (.watching resolve) g done features).Follows (q.contest guard g done features)
      ⟨p, busy⟩ := by
  induction features generalizing done p with
  | nil => exact Follows.pure
  | cons f rest ih =>
      rw [contest, contest]
      cases (f.linked.filter g.contains).isEmpty with
      | true => exact ih p done
      | false =>
          apply (competitors_watched h f p _).bind
          intro candidates p₁
          apply Follows.get_bind
          apply (Follows.lift _).bind
          intro found p₂
          exact ih p₂ found

end Rules

end Inquiry

namespace Settings

/-- The groups that are defined. -/
def definedGroups (s : Settings) : Finset Nat := (s.groups.map (·.1)).toFinset

/-- The groups that are defined and not being resolved. -/
def openGroups (s : Settings) (busy : List Nat) : Finset Nat :=
  s.definedGroups.filter (· ∉ busy)

variable {s : Settings} {busy : List Nat} {g : Nat} {group : Group}

theorem mem_definedGroups (h : s.group? g = some group) : g ∈ s.definedGroups := by
  rw [definedGroups, List.mem_toFinset]
  obtain ⟨before, after, hGroups, -⟩ := List.lookup_eq_some_iff.mp h
  simp [hGroups]

/-- Resolving a defined group leaves fewer that can be resolved inside. -/
theorem card_openGroups_cons_lt (hDefined : g ∈ s.definedGroups) (hOpen : g ∉ busy) :
    (s.openGroups (g :: busy)).card < (s.openGroups busy).card := by
  have hErase : s.openGroups (g :: busy) = (s.openGroups busy).erase g := by
    ext k
    simp only [openGroups, Finset.mem_filter, Finset.mem_erase, List.mem_cons, not_or]
    tauto
  rw [hErase]
  apply Finset.card_erase_lt_of_mem
  rw [openGroups, Finset.mem_filter]
  exact ⟨hDefined, hOpen⟩

theorem card_openGroups_le (s : Settings) (busy : List Nat) :
    (s.openGroups busy).card ≤ s.definedGroups.card :=
  Finset.card_filter_le _ _

theorem card_definedGroups_le (s : Settings) : s.definedGroups.card ≤ s.groups.length := by
  have hCard := List.toFinset_card_le (s.groups.map (·.1))
  rwa [List.length_map] at hCard

end Settings

namespace Inquiry

variable {q : Inquiry}

/-- Each level takes a defined group that is not being resolved, so no search needs more levels than
there are such groups, and one more for a group that is not defined. -/
theorem resolveGroup_watched (levels depth : Nat) (busy : List Nat)
    (hLevels : (q.settings.openGroups busy).card < levels)
    (hDepth : (q.settings.openGroups busy).card < depth) :
    Guard.WatchedBy ⟨pure busy, q.resolveGroup depth busy⟩ busy (q.watchedResolveGroup levels) := by
  induction levels generalizing depth busy with
  | zero => omega
  | succ levels ih =>
      cases depth with
      | zero => omega
      | succ depth =>
          refine ⟨rfl, fun g hOpen p => ?_⟩
          have hBusy : busy.contains g = false := by simpa using hOpen
          change (q.watchedResolveGroup (levels + 1) g).Follows
            (q.resolveGroup (depth + 1) busy g) ⟨p, busy⟩
          rw [watchedResolveGroup, resolveGroup]
          apply Watched.Follows.watch_bind
          rw [hBusy, winnerOf, winnerOf]
          cases hGroup : q.settings.group? g with
          | none => exact Watched.Follows.pure
          | some group =>
              -- Both guards are one level down here, and one group fewer is open to them.
              have hFewer := Settings.card_openGroups_cons_lt
                (Settings.mem_definedGroups hGroup) hOpen
              have hInside := ih depth (g :: busy) (by omega) (by omega)
              exact (Watched.Follows.resolving hOpen
                (contest_watched hInside p group q.settings.features {})).bind
                  fun found p₁ => Watched.Follows.lift _

theorem Searched.winners_kept {busy : List Nat} {g : Nat} {p p' : Progress}
    {found : Option GroupMember} (h : q.Searched busy g p found p') {k : Nat}
    {winner : Option GroupMember} (hKnown : p.winners.lookup k = some winner) :
    p'.winners.lookup k = some winner := by
  cases h with
  | nobody search => exact search.winners_kept hKnown
  | winner search =>
      rw [recorded_winners]
      exact search.winners_kept hKnown

/-- A search under watch ends as a step does. The same groups are being resolved before and after
it, and what was known about winners still is. -/
def Ends {α : Type} (x : Watched α) (y : Step α) (w : Watch) : Prop :=
  x.Follows y w ∧ ∀ g winner, w.progress.winners.lookup g = some winner →
    (y.run w.progress).2.winners.lookup g = some winner

/-- Searches for winners end, whichever groups are being resolved and whatever is known. With one
level more than there are defined groups none is nested too deep, and no group is resolved inside
its own search. Afterwards the same groups are being resolved, and every winner that was known is
known as before. -/
theorem search_ends (q : Inquiry) (w : Watch) :
    let resolve := q.watchedResolveGroup (q.settings.definedGroups.card + 1)
    let guard : Guard Step :=
      ⟨pure w.busy, q.resolveGroup (q.settings.groups.length + 1) w.busy⟩
    (∀ f, Ends (q.rolloutDecision (.watching resolve) f) (q.rolloutDecision guard f) w) ∧
      (∀ f c g, Ends (q.isWinner (.watching resolve) f c g) (q.isWinner guard f c g) w) ∧
      ∀ g, g ∉ w.busy → Ends (resolve g) (guard.resolve g) w := by
  intro resolve guard
  have hOpen := q.settings.card_openGroups_le w.busy
  have hDefined := q.settings.card_definedGroups_le
  have hWatched : guard.WatchedBy w.busy resolve :=
    resolveGroup_watched _ _ _ (by omega) (by omega)
  have hGuard : guard.Follows q w.busy := resolveGroup_follows _ _
  refine ⟨fun f => ⟨rolloutDecision_watched hWatched f _, ?_⟩,
    fun f c g => ⟨isWinner_watched hWatched f _ c g, ?_⟩,
    fun g hOpen => ⟨hWatched.follows g hOpen _, ?_⟩⟩
  · intro k winner hKnown
    exact (rolloutDecision_moves hGuard f).1.winners_kept hKnown
  · intro k winner hKnown
    exact (isWinner_moves hGuard f c g).1.winners_kept hKnown
  · intro k winner hKnown
    exact (hGuard.searched g _).winners_kept hKnown

end Inquiry

/-- Settings in which the searches for the two defined groups lead to each other, by the rollouts of
the first two features, and one of them leads to a group that is not defined. -/
def Settings.tangled : Settings :=
  { accountId := 1
    campaigns := [.small .rollout 1, .small .ab 2, .small .rollout 3, .small .ab 4,
      .small .rollout 5, .small .ab 6]
    features := [.small 1 "first" [1, 2], .small 2 "second" [3, 4], .small 3 "third" [5, 6]]
    groups := [(7, .small [2, 3] []), (8, .small [1, 4, 6] [])]
    campaignGroups := [(⟨1, none⟩, 8), (⟨2, none⟩, 7), (⟨3, none⟩, 7), (⟨4, none⟩, 8),
      (⟨5, none⟩, 9), (⟨6, none⟩, 8)] : Settings }.link

namespace Inquiry

/-- All levels are needed: with as many as there are defined groups the search is broken off, and
with one more it ends. -/
theorem tangled_ends :
    let q := (Request.small .tangled "first").inquiry
    let w : Watch := ⟨Memory.progress ⟨some {}, ⟨0, 0, []⟩⟩, []⟩
    ((q.watchedResolveGroup q.settings.definedGroups.card 7).run w).isNone = true ∧
      7 ∉ w.busy ∧
      Ends (q.watchedResolveGroup (q.settings.definedGroups.card + 1) 7)
        (q.resolveGroup (q.settings.groups.length + 1) [] 7) w := by
  intro q w
  exact ⟨by decide +kernel, by simp [w], (search_ends q w).2.2 7 (by simp [w])⟩

end Inquiry

end FlagDecision
