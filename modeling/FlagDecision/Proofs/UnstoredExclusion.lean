import FlagDecision.Proofs.FaithfulRules

/-! Mutual exclusion without storage. What separate evaluations find out about grounded
groups follows from the settings, the user, the provider and the service alone, so
evaluations never disagree about a winner, whichever features they are about. -/
namespace FlagDecision

open Step

namespace Inquiry

variable {q : Inquiry} {p p' : Progress} {g : Nat}

theorem outlook_unstored (q : Inquiry) (p : Progress) (g : Nat) :
    (q.outlook none p).winners g = p.winners.lookup g :=
  Option.or_none

/-- Faithful evaluations without storage agree about every grounded group, whenever they are
made. -/
theorem Faithful.agrees {now : Nat} (h : q.Faithful none p)
    (h' : { q with now }.Faithful none p') (hGrounded : q.settings.Grounded g) :
    Agrees (p.winners.lookup g) (p'.winners.lookup g) := by
  induction hGrounded with
  | intro g _ ih =>
      have hSame : (q.outlook none p).Comparable ({ q with now }.outlook none p') := ⟨rfl, rfl⟩
      have hChampion : Agrees ((q.outlook none p).champion? g)
          (({ q with now }.outlook none p').champion? g) := by
        refine Outlook.champion_lifts agrees_lifts hSame (fun _ _ _ _ => rfl) (fun _ _ _ => rfl)
          fun k hAsks m => agrees_lifts.map ?_ _
        rw [outlook_unstored, outlook_unstored]
        exact ih k hAsks
      intro winner winner' hKnown hKnown'
      rw [← outlook_unstored] at hKnown hKnown'
      exact agrees_lifts.map hChampion _ winner winner' (h.follows rfl hKnown)
        (h'.follows rfl hKnown')

end Inquiry

/-- Settings with two features of one key. The rollout decision of one is taken for that of the
other. -/
def Settings.repeated : Settings :=
  { accountId := 1
    campaigns := [.small .rollout 1, .small .ab 2, .closed 3, .small .ab 4, .small .rollout 5,
      .small .ab 6, .small .ab 7]
    features := [.small 1 "twice" [1, 2], .small 2 "twice" [3, 4], .small 3 "left" [5, 6],
      .small 4 "right" [7]]
    groups := [(7, .small [4, 5] [4]), (8, .small [2, 6, 7] [6, 7])]
    campaignGroups := [(⟨4, none⟩, 7), (⟨5, none⟩, 7), (⟨2, none⟩, 8), (⟨6, none⟩, 8),
      (⟨7, none⟩, 8)] : Settings }.link

namespace Request

variable {r : Request} {m : Memory} {answer : Outcome × Memory}

/-- Nothing is stored, and what the cache holds is true. -/
structure Bare (q : Inquiry) (m : Memory) : Prop where
  unstored : m.storage = none
  truthful : m.cache.Truthful q.lists

/-- An answer without storage shows winners that a faithful evaluation found, of grounded groups. -/
theorem Answered.bare (h : r.Answered m answer) (hBare : Bare r.inquiry m)
    (hTidy : r.settings.Tidy) (hGrounded : r.Grounded) :
    Bare r.inquiry answer.2 ∧ ∃ p, r.inquiry.Faithful none p ∧ ∀ choice ∈ answer.1.fresh, ∀ g,
      r.settings.groupOf? choice.1.groupMember = some g →
        r.settings.Grounded g ∧ p.winners.lookup g = some (some choice.1.groupMember) := by
  obtain ⟨hNone, hTruthful⟩ := hBare
  have hStart : r.inquiry.Faithful none m.progress := by
    have hStart := Inquiry.faithful_progress (q := r.inquiry) hTruthful (Or.inl hNone)
      fun g winner hStored => by
        rw [hNone] at hStored
        cases hStored
    rwa [hNone] at hStart
  cases h with
  | refused | stored => exact ⟨⟨hNone, hTruthful⟩, m.progress, hStart, by simp [Outcome.fresh]⟩
  | @decided f v p' _ known _ decided =>
      have hFeature := List.mem_of_find?_eq_some known
      have hTargeted : r.inquiry.StoredTargeted none := fun _ _ _ _ hStored => by cases hStored
      have hNoDecision : (m.decision? r.featureKey r.user.id).bind
          (Evaluator.storedRollout? r.settings) = none := by
        rw [Memory.decision?, hNone]
        rfl
      obtain ⟨p₁, hMoves, hFaithful, hWins, -, rfl⟩ := decided.faithful hTidy hTargeted hStart
        hFeature (hGrounded.reachable known) rfl hNoDecision
      have hNone₁ := hMoves.unstored hNone
      refine ⟨⟨?_, ?_⟩, p₁, hFaithful, fun choice hFresh g hOf => ?_⟩
      · split
        · rw [Inquiry.recorded_of_none _ hNone₁]
          exact hNone₁
        · exact hNone₁
      · split
        · rw [Inquiry.recorded_desk]
          exact hFaithful.desk
        · exact hFaithful.desk
      · exact ⟨hGrounded f known _ (decided.fresh_linked hFresh) g hOf,
          hWins choice hFresh g hOf List.not_mem_nil⟩

/-- Without storage, a user sees at most one member of a group, in whichever order the features are
evaluated. The settings, the user and whom the evaluator asks stay the same, and the groups of the
features that are evaluated are grounded. -/
theorem run_shows_one_member_unstored {q : Inquiry} {requests : List Request}
    (hSame : ∀ r ∈ requests, ∃ now, r.inquiry = { q with now }) (hBare : Bare q m)
    (hTidy : q.settings.Tidy) (hGrounded : ∀ r ∈ requests, r.Grounded) {g : Nat}
    {turn turn' : Turn} (hTurn : turn ∈ run m requests) (hTurn' : turn' ∈ run m requests)
    {choice choice' : Choice} (hFresh : choice ∈ turn.outcome.fresh)
    (hFresh' : choice' ∈ turn'.outcome.fresh)
    (hOf : q.settings.groupOf? choice.1.groupMember = some g)
    (hOf' : q.settings.groupOf? choice'.1.groupMember = some g) :
    choice.1.groupMember = choice'.1.groupMember := by
  have hAnswer : ∀ r ∈ requests, ∀ m, Bare q m → Bare q (r.answer m).2 ∧
      ∃ now p, { q with now }.Faithful none p ∧ ∀ choice ∈ (r.answer m).1.fresh,
        q.settings.groupOf? choice.1.groupMember = some g →
          q.settings.Grounded g ∧ p.winners.lookup g = some (some choice.1.groupMember) := by
    intro r hr m hBare
    obtain ⟨now, hInquiry⟩ := hSame r hr
    have hSettings : r.settings = q.settings := by
      change r.inquiry.settings = q.settings
      rw [hInquiry]
    have hLists : r.inquiry.lists = q.lists := by rw [hInquiry]
    obtain ⟨hLeft, p, hFaithful, hShown⟩ := (r.answered m).bare ⟨hBare.1, hLists ▸ hBare.2⟩
      (hSettings ▸ hTidy) (hGrounded r hr)
    refine ⟨⟨hLeft.1, hLists ▸ hLeft.2⟩, now, p, hInquiry ▸ hFaithful, fun choice hFresh hOf => ?_⟩
    exact hSettings ▸ hShown choice hFresh g (hSettings ▸ hOf)
  have hReach : ∀ turn ∈ run m requests, ∃ now p, { q with now }.Faithful none p ∧
      ∀ choice ∈ turn.outcome.fresh, q.settings.groupOf? choice.1.groupMember = some g →
        q.settings.Grounded g ∧ p.winners.lookup g = some (some choice.1.groupMember) := by
    intro turn hTurn
    obtain ⟨before, after, hRun⟩ := List.append_of_mem hTurn
    obtain ⟨m', r, -, rfl, -, hBare', hr, -⟩ := run_reaches hRun (Bare q) hBare
      fun r hr m hBare _ => (hAnswer r hr m hBare).1
    exact (hAnswer r hr m' hBare').2
  obtain ⟨now, p, hFaithful, hShown⟩ := hReach turn hTurn
  obtain ⟨now', p', hFaithful', hShown'⟩ := hReach turn' hTurn'
  obtain ⟨hGround, hWinner⟩ := hShown choice hFresh hOf
  obtain ⟨-, hWinner'⟩ := hShown' choice' hFresh' hOf'
  exact Option.some.inj (hFaithful.agrees hFaithful' hGround _ _ hWinner hWinner')

/-- Without storage, rivals are decided alike in either order. -/
theorem rivals_show_one_member_unstored :
    (run ⟨none, ⟨0, 0, []⟩⟩ [small .rivals "right", small .rivals "left"]).map
        (·.outcome.fresh.map (·.1.groupMember)) = [[⟨3, none⟩, ⟨2, none⟩], []] ∧
      ∀ turn ∈ run ⟨none, ⟨0, 0, []⟩⟩ [small .rivals "right", small .rivals "left"],
        ∀ turn' ∈ run ⟨none, ⟨0, 0, []⟩⟩ [small .rivals "right", small .rivals "left"],
          ∀ choice ∈ turn.outcome.fresh, ∀ choice' ∈ turn'.outcome.fresh,
            Settings.rivals.groupOf? choice.1.groupMember = some 7 →
              Settings.rivals.groupOf? choice'.1.groupMember = some 7 →
                choice.1.groupMember = choice'.1.groupMember := by
  refine ⟨by decide +kernel, ?_⟩
  intro turn hTurn turn' hTurn' choice hFresh choice' hFresh' hOf hOf'
  refine run_shows_one_member_unstored (q := (small .rivals "right").inquiry) ?_
    ⟨rfl, Inquiry.empty_truthful _⟩ Settings.rivals_tidy ?_ hTurn hTurn' hFresh hFresh' hOf hOf'
  · simp [small, inquiry]
  · have hGrounded : ∀ featureKey, (small .rivals featureKey).Grounded :=
      fun _ _ _ _ _ g _ => Settings.rivals_grounded g
    simp [hGrounded]

/-- Requests one after the other, without storage, show two members of a group. -/
def ShowsTwoMembers (r r' : Request) (g : Nat) : Prop :=
  ∃ turn ∈ run ⟨none, ⟨0, 0, []⟩⟩ [r, r'], ∃ turn' ∈ run ⟨none, ⟨0, 0, []⟩⟩ [r, r'],
    ∃ choice ∈ turn.outcome.fresh, ∃ choice' ∈ turn'.outcome.fresh,
      turn.request.settings.groupOf? choice.1.groupMember = some g ∧
      turn'.request.settings.groupOf? choice'.1.groupMember = some g ∧
      choice.1.groupMember ≠ choice'.1.groupMember

instance (r r' : Request) (g : Nat) : Decidable (ShowsTwoMembers r r' g) :=
  inferInstanceAs (Decidable (∃ turn ∈ run ⟨none, ⟨0, 0, []⟩⟩ [r, r'], _))

/-- Without ground, be it between two groups or within one, with narrowed rollouts or with a
repeated key, the winner of a group depends on the feature that is evaluated. -/
theorem shows_two_members_unstored :
    ShowsTwoMembers (small .crossed "left") (small .crossed "middle") 7 ∧
      ShowsTwoMembers (small .inward "left") (small .inward "right") 13 ∧
      ShowsTwoMembers (small .narrowed "second") (small .narrowed "left") 9 ∧
      ShowsTwoMembers (small .repeated "left") (small .repeated "right") 8 := by
  decide +kernel

end Request

end FlagDecision
