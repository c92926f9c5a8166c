import FlagDecision.Proofs.Decided
import FlagDecision.Proofs.Linking

/-! What a working storage keeps. The ids of settings fit the words of a record, so the
winner of a group and the verdict on a feature are read again as they were recorded. -/
namespace FlagDecision

open Storage StoredDecision

namespace Inquiry

variable {q : Inquiry} {p p' : Progress} {busy : List Nat} {g : Nat} {c : Campaign}

theorem winnerRecord_fits (h : c.FitsWords) (q : Inquiry) (g : Nat) :
    (q.winnerRecord g c).FitsWords := by
  refine ⟨by simp [winnerRecord], by simp [winnerRecord], ?_, ?_⟩
  · rintro n ⟨⟩
    exact h.id
  · exact (Campaign.groupMember_fits h).2

@[simp] theorem winnerRecord_winner (q : Inquiry) (g : Nat) (c : Campaign) :
    (q.winnerRecord g c).winner? = some c.groupMember := by
  cases hMember : c.groupMember with
  | mk campaignId variationId =>
      have hId : c.groupMember.campaignId = c.id := c.groupMember_campaignId
      simp_all [winnerRecord, winner?]

theorem storedWinner_recorded (hWorks : Works p.storage) (hFits : c.FitsWords) :
    q.storedWinner? (recorded (q.winnerRecord g c) p).storage g = some c.groupMember := by
  have hRecord := (recorded_works (q.winnerRecord g c) hWorks).2
  rw [storedWinner?_eq]
  simp only [winnerRecord, groupKey] at hRecord ⊢
  rw [hRecord]
  exact (congrArg (Option.bind · winner?) (ofJson?_toJson (winnerRecord_fits hFits q g))).trans
    (winnerRecord_winner q g c)

/-- Every known winner is stored. -/
def WinnersStored (q : Inquiry) (p : Progress) : Prop :=
  ∀ g winner, p.winners.lookup g = some (some winner) →
    q.storedWinner? p.storage g = some winner

theorem Moves.winnersStored (h : q.Moves busy p p') (hReady : q.settings.Ready)
    (hWorks : Works p.storage) (hStored : q.WinnersStored p) : q.WinnersStored p' := by
  induction h with
  | refl | ask | remember => exact hStored
  | trans first _ ihFirst ihRest =>
      exact ihRest (first.works hWorks) (ihFirst hWorks hStored)
  | @reuse _ p g winner _ _ stored =>
      intro g' winner' hKnown
      by_cases hg : g' = g
      · subst hg
        obtain rfl : winner = winner' := by simpa using hKnown
        exact stored
      · exact hStored g' winner' ((Table.lookup_cons_of_ne _ _ hg).symm.trans hKnown)
  | @leave _ p p' g _ _ ih =>
      intro g' winner' hKnown
      by_cases hg : g' = g
      · simp [hg] at hKnown
      · exact ih hWorks hStored g' winner' ((Table.lookup_cons_of_ne _ _ hg).symm.trans hKnown)
  | @crown _ p p' g c _ search candidate ih =>
      obtain ⟨_, _, _, f, hFeature, hLinked⟩ := candidate
      intro g' winner' hKnown
      by_cases hg : g' = g
      · subst hg
        obtain rfl : c.groupMember = winner' := by simpa using hKnown
        exact storedWinner_recorded (search.works hWorks) (hReady.linked_fits hFeature hLinked)
      · rw [storedWinner_recorded_of_ne hg]
        refine ih hWorks hStored g' winner' ?_
        rwa [Table.lookup_cons_of_ne _ _ hg, recorded_winners] at hKnown

end Inquiry

namespace Evaluator.Decided

variable {q : Inquiry} {f : Feature} {stored : Option StoredDecision} {p p' : Progress}
  {v : Verdict}

/-- A choice of the rollouts is linked by the feature, or was found in the settings. -/
theorem rollout_known (h : Decided q f stored p v p') {choice : Choice}
    (hChoice : v.stage.choice? = some choice) :
    choice.1 ∈ f.linked ∧ choice.2 ∈ choice.1.variations ∨
      ∃ key id, q.settings.variationByKey? key id = some choice := by
  obtain ⟨c, w⟩ := choice
  cases hStage : v.stage with
  | none => simp [hStage, RolloutStage.choice?] at hChoice
  | closed => simp [hStage, RolloutStage.choice?] at hChoice
  | passed choice =>
      obtain rfl : choice = (c, w) := by simpa [hStage, RolloutStage.choice?] using hChoice
      obtain ⟨hRollout, hVariation⟩ := h.rollout c w hStage
      exact Or.inl ⟨List.mem_of_mem_filter hRollout, hVariation⟩
  | stored choice =>
      obtain rfl : choice = (c, w) := by simpa [hStage, RolloutStage.choice?] using hChoice
      have hStored := h.stored
      rw [hStage, RolloutStage.stored?, eq_comm] at hStored
      obtain ⟨d, -, hFound⟩ := Option.bind_eq_some_iff.mp hStored
      rw [storedRollout?, Option.ite_none_right_eq_some] at hFound
      obtain ⟨-, hFound⟩ := hFound
      obtain ⟨key, -, hFound⟩ := Option.bind_eq_some_iff.mp hFound
      obtain ⟨id, -, hFound⟩ := Option.bind_eq_some_iff.mp hFound
      exact Or.inr ⟨key, id, hFound⟩

theorem experiment_linked (h : Decided q f stored p v p') {shown : Choice × Inquiry.Path}
    (hShown : v.experiment = some shown) :
    shown.1.1 ∈ f.linked ∧ shown.1.2 ∈ shown.1.1.variations := by
  obtain ⟨⟨c, w⟩, path⟩ := shown
  obtain ⟨hExperiment, hVariation⟩ := h.experiment c w path hShown
  exact ⟨List.mem_of_mem_filter hExperiment, hVariation⟩

theorem fits (h : Decided q f stored p v p') (hReady : q.settings.Ready)
    (hFeature : f ∈ q.settings.features) (userId : String) : (v.decision f userId).FitsWords := by
  have hLinked : ∀ choice : Choice, choice.1 ∈ f.linked ∧ choice.2 ∈ choice.1.variations →
      choice.1.id < word64Limit ∧ choice.2.id < word64Limit := fun choice ⟨hLinked, hVariation⟩ =>
    have hFits := hReady.linked_fits hFeature hLinked
    ⟨hFits.id, hFits.variationIds _ hVariation⟩
  have hRollout : ∀ choice, v.stage.choice? = some choice →
      choice.1.id < word64Limit ∧ choice.2.id < word64Limit := by
    intro choice hChoice
    rcases h.rollout_known hChoice with hIn | ⟨key, id, hFound⟩
    · exact hLinked choice hIn
    · exact ⟨(hReady.knows_found hFound).campaignId, (hReady.knows_found hFound).variationId⟩
  refine ⟨?_, ?_, ?_, ?_⟩
  all_goals
    intro n hn
    obtain ⟨chosen, hChosen, rfl⟩ := Option.map_eq_some_iff.mp hn
  · exact (hRollout chosen hChosen).1
  · exact (hRollout chosen hChosen).2
  · exact (hLinked _ (h.experiment_linked hChosen)).1
  · exact (hLinked _ (h.experiment_linked hChosen)).2

theorem knows (h : Decided q f stored p v p') (hReady : q.settings.Ready)
    (hDistinct : q.settings.Distinct) (hFeature : f ∈ q.settings.features) :
    (∀ choice, v.stage.choice? = some choice → q.settings.Knows choice) ∧
      ∀ shown, v.experiment = some shown → q.settings.Knows shown.1 := by
  refine ⟨fun choice hChoice => ?_, fun shown hShown => ?_⟩
  · rcases h.rollout_known hChoice with ⟨hLinked, hVariation⟩ | ⟨key, id, hFound⟩
    · exact hReady.knows_linked hDistinct hFeature hLinked hVariation
    · exact hReady.knows_found hFound
  · obtain ⟨hLinked, hVariation⟩ := h.experiment_linked hShown
    exact hReady.knows_linked hDistinct hFeature hLinked hVariation

/-- A flag that is on leaves the record of its verdict. -/
theorem records (h : Decided q f stored p v p') (hReady : q.settings.Ready)
    (hFeature : f ∈ q.settings.features) (hWorks : Works p.storage)
    (hOn : v.detail.result.isEnabled = true) :
    (recordOf p'.storage (storageKey f.key q.user.id)).bind ofJson? =
      some (v.decision f q.user.id) := by
  obtain ⟨p₁, -, hMoves, -, rfl⟩ := h.moved
  have hRecord := (Inquiry.recorded_works (v.decision f q.user.id) (hMoves.works hWorks)).2
  rw [if_pos hOn]
  exact (congrArg (Option.bind · ofJson?) hRecord).trans
    (ofJson?_toJson (h.fits hReady hFeature q.user.id))

/-- Where nothing is stored for the feature before it is recorded, what is found is the verdict. -/
theorem decision_left (h : Decided q f stored p v p') (hReady : q.settings.Ready)
    (hFeature : f ∈ q.settings.features) (hWorks : Works p.storage) {p₁ : Progress}
    (hAfter : p' = if v.detail.result.isEnabled then Inquiry.recorded (v.decision f q.user.id) p₁
      else p₁) (hNone : q.storedDecision? p₁.storage f.key = none) {d : StoredDecision}
    (hDecision : q.storedDecision? p'.storage f.key = some d) : d = v.decision f q.user.id := by
  cases hOn : v.detail.result.isEnabled with
  | true =>
      have hRecord := h.records hReady hFeature hWorks hOn
      rw [← Storage.decision?_eq] at hRecord
      exact Option.some.inj (hDecision.symm.trans hRecord)
  | false =>
      rw [hOn] at hAfter
      obtain rfl : p' = p₁ := hAfter
      simp [hNone] at hDecision

end Evaluator.Decided

end FlagDecision
