import FlagDecision.Proofs.Records

/-! Stickiness over runs. A flag that is on is recorded by the key of its campaign and
the id of its variation, and both are found again in the settings. From then on the
record shows an experiment, which answers every later request by itself, or only a
rollout, which the rules start from until they decide an experiment. -/
namespace FlagDecision

open Storage StoredDecision Evaluator

namespace Verdict

variable {v : Verdict}

/-- The choice that the flag shows: an experiment comes before the rollouts. -/
def choice? (v : Verdict) : Option Choice := (v.experiment.map (·.1)).or v.stage.choice?

theorem result_eq {choice : Choice} (h : v.choice? = some choice) :
    v.detail.result = .ofVariation choice.2 := by
  obtain ⟨stage, _ | ⟨shown, _ | _⟩⟩ := v
  · cases stage <;> simp_all [choice?, detail, RolloutStage.choice?, RolloutStage.detail,
      storedDetail]
  all_goals
    obtain rfl : shown = choice := by simpa [choice?] using h
    simp [detail]

theorem choice?_isSome (h : v.detail.result.isEnabled = true) :
    ∃ choice, v.choice? = some choice := by
  rw [← Option.isSome_iff_exists, choice?, Option.isSome_or, Option.isSome_map, Bool.or_eq_true]
  exact (isEnabled_iff.mp h).symm

theorem storedExperiment?_decision (v : Verdict) (s : Settings) (f : Feature) (userId : String) :
    storedExperiment? s (v.decision f userId) =
      v.experiment.bind fun shown => s.variationByKey? shown.1.1.key shown.1.2.id := by
  obtain ⟨stage, _ | shown⟩ := v <;> simp [storedExperiment?, decision]

theorem storedRollout?_decision (v : Verdict) (s : Settings) (f : Feature) (userId : String) :
    storedRollout? s (v.decision f userId) =
      v.stage.choice?.bind fun choice => s.variationByKey? choice.1.key choice.2.id := by
  cases hStage : v.stage.choice? with
  | none =>
      simp only [storedRollout?, decision, hasRollout, hStage]
      rfl
  | some choice => simp [storedRollout?, decision, hasRollout, hStage]

end Verdict

namespace Outcome

/-- The flag shows an experiment, decided now or stored. Without asking the rules, only a stored
experiment gives a stored variation. -/
def showsExperiment (o : Outcome) : Bool :=
  match o.detail.reason with
  | .experiment .. | .whitelisted .. => true
  | .storedVariation .. => o.verdict.isNone
  | _ => false

theorem showsExperiment_eq {o : Outcome} (v : Verdict) (hDetail : o.detail = v.detail)
    (hVerdict : o.verdict = some v) : o.showsExperiment = v.experiment.isSome := by
  obtain ⟨stage, _ | ⟨choice, _ | _⟩⟩ := v
  · cases stage <;>
      simp [showsExperiment, hDetail, hVerdict, Verdict.detail, RolloutStage.detail, storedDetail]
  all_goals simp [showsExperiment, hDetail, Verdict.detail]

/-- What is found stored after the outcome: the variation shown, named by the key of its
campaign. -/
def kept (o : Outcome) : Detail :=
  ((o.verdict.bind (·.choice?)).map storedDetail).getD o.detail

end Outcome

/-- The record for the feature and the user of a request shows an experiment. -/
def Request.ShowsExperiment (r : Request) (m : Memory) (detail : Detail) : Prop :=
  ∃ choice, (m.decision? r.featureKey r.user.id).bind (storedExperiment? r.settings) =
    some choice ∧ storedDetail choice = detail

/-- The record for the feature and the user of a request shows a rollout only. -/
def Request.ShowsRollout (r : Request) (m : Memory) (detail : Detail) : Prop :=
  (m.decision? r.featureKey r.user.id).bind (storedExperiment? r.settings) = none ∧
    ∃ choice, (m.decision? r.featureKey r.user.id).bind (storedRollout? r.settings) =
      some choice ∧ storedDetail choice = detail

/-- Settings that find again what was recorded, and name their features plainly. -/
structure Settings.Lasting (s : Settings) : Prop where
  ready : s.Ready
  distinct : s.Distinct
  plain : ∀ f ∈ s.features, IsPlainKey f.key

theorem Settings.Knows.storedDetail_eq {s : Settings} {choice : Choice} (h : s.Knows choice) :
    ∃ found, s.variationByKey? choice.1.key choice.2.id = some found ∧
      storedDetail found = storedDetail choice := by
  obtain ⟨origin, hFound, hKey⟩ := h.found
  exact ⟨_, hFound, by rw [storedDetail, storedDetail, hKey]⟩

namespace Request

variable {r : Request} {m : Memory} {answer : Outcome × Memory}

/-- The memory shows for a request what an outcome shows: an experiment, or only a rollout. -/
def Shown (r : Request) (m : Memory) (o : Outcome) : Prop :=
  if o.showsExperiment then r.ShowsExperiment m o.kept
  else r.ShowsRollout m o.kept

/-- A flag that is on stays in the memory with the result it has. -/
theorem Answered.shown (h : r.Answered m answer) (hLasting : r.settings.Lasting)
    (hWorks : Works m.storage) (hOn : answer.1.detail.result.isEnabled = true) :
    answer.1.kept.result = answer.1.detail.result ∧ r.Shown answer.2 answer.1 := by
  cases h with
  | refused => simp [FlagResult.disabled] at hOn
  | stored _ _ found => exact ⟨rfl, _, found, rfl⟩
  | @decided f v p' _ known _ decided =>
      have hFeature := List.mem_of_find?_eq_some known
      obtain ⟨hRollout, hExperiment⟩ := decided.knows hLasting.ready hLasting.distinct hFeature
      obtain ⟨choice, hChoice⟩ := Verdict.choice?_isSome hOn
      have hRecord := decided.records hLasting.ready hFeature hWorks hOn
      have hDecision : Memory.decision? ⟨p'.storage, p'.desk.cache⟩ r.featureKey r.user.id =
          some (v.decision f r.user.id) := by
        rw [Memory.decision?_eq, ← key_eq known]
        exact hRecord
      have hKept : Outcome.kept { detail := v.detail, verdict := some v } =
          storedDetail choice := by
        simp [Outcome.kept, hChoice]
      refine ⟨(congrArg Detail.result hKept).trans (Verdict.result_eq hChoice).symm, ?_⟩
      cases hShown : v.experiment with
      | some shown =>
          obtain rfl : shown.1 = choice := by simpa [Verdict.choice?, hShown] using hChoice
          obtain ⟨found, hFound, hSame⟩ := (hExperiment shown hShown).storedDetail_eq
          rw [Shown, if_pos ((Outcome.showsExperiment_eq v rfl rfl).trans (by rw [hShown]; rfl))]
          refine ⟨found, ?_, hSame.trans hKept.symm⟩
          rw [hDecision, Option.bind_some, Verdict.storedExperiment?_decision, hShown]
          exact hFound
      | none =>
          have hStage : v.stage.choice? = some choice := by
            simpa [Verdict.choice?, hShown] using hChoice
          obtain ⟨found, hFound, hSame⟩ := (hRollout choice hStage).storedDetail_eq
          rw [Shown, if_neg (by rw [Outcome.showsExperiment_eq v rfl rfl, hShown]; simp)]
          refine ⟨?_, found, ?_, hSame.trans hKept.symm⟩
          · rw [hDecision, Option.bind_some, Verdict.storedExperiment?_decision, hShown]
            rfl
          · rw [hDecision, Option.bind_some, Verdict.storedRollout?_decision, hStage]
            exact hFound

/-- The request names a user and a feature that is there. -/
def IsPosed (r : Request) : Prop :=
  r.user.isBlank = false ∧ (r.settings.feature? r.featureKey).isSome

theorem Answered.isPosed (h : r.Answered m answer)
    (hOn : answer.1.detail.result.isEnabled = true) : r.IsPosed := by
  cases h with
  | refused => simp [FlagResult.disabled] at hOn
  | stored named known | decided named known => exact ⟨named, by simp [known]⟩

theorem Answered.not_refused (hPosed : r.IsPosed) :
    ¬(r.user.isBlank ∨ r.settings.feature? r.featureKey = none) := by
  obtain ⟨hNamed, hKnown⟩ := hPosed
  rintro (hBlank | hUnknown)
  · simp [hNamed] at hBlank
  · simp [hUnknown] at hKnown

/-- A stored experiment is the whole answer, and leaves everything as it is. -/
theorem Answered.of_experiment (h : r.Answered m answer) (hPosed : r.IsPosed) {detail : Detail}
    (hShown : r.ShowsExperiment m detail) :
    answer = ({ detail }, m) := by
  obtain ⟨choice, hChoice, rfl⟩ := hShown
  cases h with
  | refused _ reason => exact absurd reason (not_refused hPosed)
  | stored _ _ found => rw [Option.some.inj (hChoice.symm.trans found)]
  | decided _ _ fresh => simp [hChoice] at fresh

theorem Answered.of_experiment_on (h : r.Answered m answer) (hPosed : r.IsPosed) {detail : Detail}
    (hShown : r.ShowsExperiment m detail) :
    answer.1.detail.result.isEnabled = true ∧
      ∀ impression ∈ answer.1.impressions, impression.kind ≠ .rollout := by
  obtain rfl := h.of_experiment hPosed hShown
  obtain ⟨choice, -, rfl⟩ := hShown
  exact ⟨rfl, by simp⟩

/-- From a stored rollout the rules begin without trying the rollouts, and without experiment they
end with it. -/
theorem Answered.of_rollout (h : r.Answered m answer) (hPosed : r.IsPosed) {detail : Detail}
    (hShown : r.ShowsRollout m detail) :
    answer.1.detail.result.isEnabled = true ∧
      (∀ impression ∈ answer.1.impressions, impression.kind ≠ .rollout) ∧
      (answer.1.showsExperiment = false → answer.1.detail = detail ∧ answer.1.kept = detail) := by
  obtain ⟨hNone, choice, hChoice, rfl⟩ := hShown
  cases h with
  | refused _ reason => exact absurd reason (not_refused hPosed)
  | stored _ _ found => simp [hNone] at found
  | @decided f v p' _ _ _ decided =>
      have hStage : v.stage = .stored choice := by
        have hStored := decided.stored.trans hChoice
        cases hStage : v.stage <;> simp_all [RolloutStage.stored?]
      obtain ⟨stage, experiment⟩ := v
      obtain rfl : stage = .stored choice := hStage
      refine ⟨Verdict.isEnabled_iff.mpr (Or.inl rfl), fun impression hSent => ?_, fun hOnly => ?_⟩
      · replace hSent : impression ∈ r.impressions ⟨.stored choice, experiment⟩ f := hSent
        rw [impressions] at hSent
        split at hSent
        · simp only [Verdict.impressions, Verdict.rolloutImpressions, RolloutStage.passed?,
            Option.toList_none, List.map_nil, List.nil_append, List.mem_append] at hSent
          rcases hSent with hSent | hSent
          · rw [Verdict.experimentImpressions.eq_def] at hSent
            split at hSent <;> simp_all [Verdict.impression]
          · obtain ⟨campaign, -, rfl⟩ := by simpa [Verdict.impact] using hSent
            simp
        · simp at hSent
      · rw [Outcome.showsExperiment_eq ⟨.stored choice, experiment⟩ rfl rfl] at hOnly
        obtain rfl : experiment = none := by simpa using hOnly
        exact ⟨rfl, rfl⟩

/-- Requests about one feature and one user, whatever else they say. -/
def SameFlag (r r' : Request) : Prop := r.featureKey = r'.featureKey ∧ r.user.id = r'.user.id

/-- Answers about other features and users leave the record. -/
theorem Answered.decision_kept (h : r.Answered m answer) {featureKey userId : String}
    (hPlain : IsPlainKey featureKey)
    (hOther : storageKey featureKey userId ≠ storageKey r.featureKey r.user.id) :
    answer.2.decision? featureKey userId = m.decision? featureKey userId := by
  rw [Memory.decision?_eq, Memory.decision?_eq, h.recordOf_eq hOther]
  exact fun g hKey => absurd hKey.symm (groupKey_ne_storageKey hPlain g _ _)

section Run

variable {s : Settings} {first : Request}

theorem SameFlag.symm {r r' : Request} (h : SameFlag r r') : SameFlag r' r :=
  ⟨h.1.symm, h.2.symm⟩

theorem SameFlag.isPosed (h : SameFlag r first) (hSettings : r.settings = first.settings)
    (hPosed : first.IsPosed) : r.IsPosed := by
  refine ⟨?_, by rw [hSettings, h.1]; exact hPosed.2⟩
  rw [UserContext.isBlank, h.2]
  exact hPosed.1

theorem SameFlag.showsExperiment (h : SameFlag r first) (hSettings : r.settings = first.settings)
    {detail : Detail} : r.ShowsExperiment m detail ↔ first.ShowsExperiment m detail := by
  rw [ShowsExperiment, ShowsExperiment, hSettings, h.1, h.2]

theorem SameFlag.showsRollout (h : SameFlag r first) (hSettings : r.settings = first.settings)
    {detail : Detail} : r.ShowsRollout m detail ↔ first.ShowsRollout m detail := by
  rw [ShowsRollout, ShowsRollout, hSettings, h.1, h.2]

theorem IsPosed.isPlainKey (hPosed : first.IsPosed) (hLasting : first.settings.Lasting) :
    IsPlainKey first.featureKey := by
  obtain ⟨f, hKnown⟩ := Option.isSome_iff_exists.mp hPosed.2
  exact key_eq hKnown ▸ hLasting.plain f (List.mem_of_find?_eq_some hKnown)

theorem experiment_kept (hLasting : first.settings.Lasting) (hPosed : first.IsPosed)
    (hSettings : r.settings = first.settings)
    (hApart : storageKey first.featureKey first.user.id = storageKey r.featureKey r.user.id →
      SameFlag r first) {detail : Detail}
    (hShown : first.ShowsExperiment m detail) :
    first.ShowsExperiment (r.answer m).2 detail := by
  by_cases hSame : SameFlag r first
  · have hAnswer := (r.answered m).of_experiment (hSame.isPosed hSettings hPosed)
      ((hSame.showsExperiment hSettings).mpr hShown)
    rwa [hAnswer]
  · rw [ShowsExperiment, (r.answered m).decision_kept (hPosed.isPlainKey hLasting)
      (mt hApart hSame)]
    exact hShown

/-- A shown rollout is kept by every request that shows no experiment for the flag. -/
theorem rollout_kept (hLasting : first.settings.Lasting) (hPosed : first.IsPosed)
    (hSettings : r.settings = first.settings)
    (hApart : storageKey first.featureKey first.user.id = storageKey r.featureKey r.user.id →
      SameFlag r first) (hWorks : Works m.storage) {detail : Detail}
    (hShown : first.ShowsRollout m detail)
    (hOnly : SameFlag r first → (r.answer m).1.showsExperiment = false) :
    first.ShowsRollout (r.answer m).2 detail := by
  by_cases hSame : SameFlag r first
  · have hPosed' := hSame.isPosed hSettings hPosed
    obtain ⟨hOn, -, hKept⟩ := (r.answered m).of_rollout hPosed'
      ((hSame.showsRollout hSettings).mpr hShown)
    have hStays := ((r.answered m).shown (hSettings ▸ hLasting) hWorks hOn).2
    rw [Shown, if_neg (by simp [hOnly hSame]), (hKept (hOnly hSame)).2] at hStays
    exact (hSame.showsRollout hSettings).mp hStays
  · rw [ShowsRollout, (r.answered m).decision_kept (hPosed.isPlainKey hLasting)
      (mt hApart hSame)]
    exact hShown

/-- A shown choice, of an experiment or a rollout, is followed by a shown choice. -/
theorem choice_kept (hLasting : first.settings.Lasting) (hPosed : first.IsPosed)
    (hSettings : r.settings = first.settings)
    (hApart : storageKey first.featureKey first.user.id = storageKey r.featureKey r.user.id →
      SameFlag r first) (hWorks : Works m.storage)
    (hShown : (∃ d, first.ShowsExperiment m d) ∨
      ∃ d, first.ShowsRollout m d) :
    (∃ d, first.ShowsExperiment (r.answer m).2 d) ∨
      ∃ d, first.ShowsRollout (r.answer m).2 d := by
  rcases hShown with ⟨d, hShown⟩ | ⟨d, hShown⟩
  · exact Or.inl ⟨d, experiment_kept hLasting hPosed hSettings hApart hShown⟩
  · by_cases hDecided : SameFlag r first ∧ (r.answer m).1.showsExperiment = true
    · obtain ⟨hSame, hExperiment⟩ := hDecided
      obtain ⟨hOn, -, -⟩ := (r.answered m).of_rollout (hSame.isPosed hSettings hPosed)
        ((hSame.showsRollout hSettings).mpr hShown)
      have hStays := ((r.answered m).shown (hSettings ▸ hLasting) hWorks hOn).2
      rw [Shown, if_pos hExperiment] at hStays
      exact Or.inl ⟨_, (hSame.showsExperiment hSettings).mp hStays⟩
    · refine Or.inr ⟨d, rollout_kept hLasting hPosed hSettings hApart hWorks hShown fun hSame => ?_⟩
      simpa using fun hExperiment => hDecided ⟨hSame, hExperiment⟩

end Run

end Request

/-- What a turn that turned a flag on means for a later turn of the same flag, with the turns
between them. -/
structure Turn.Sticks (first : Turn) (between : List Turn) (later : Turn) : Prop where
  on : later.outcome.detail.result.isEnabled = true
  sameResult : first.outcome.kept.result = first.outcome.detail.result
  experiment : first.outcome.showsExperiment = true →
    later.outcome = { detail := first.outcome.kept }
  rolloutOnce : first.outcome.showsExperiment = false →
    ∀ impression ∈ later.outcome.impressions, impression.kind ≠ .rollout
  rollout : first.outcome.showsExperiment = false →
    (∀ turn ∈ between ++ [later], Request.SameFlag turn.request first.request →
      turn.outcome.showsExperiment = false) →
    later.outcome.detail = first.outcome.kept

namespace Request

/-- Different features or users are stored under different keys. -/
def KeysApart (requests : List Request) : Prop :=
  ∀ r ∈ requests, ∀ r' ∈ requests,
    storageKey r.featureKey r.user.id = storageKey r'.featureKey r'.user.id → SameFlag r r'

/-- What the requests after a first one leave as it is: the settings, and the record of the first
one, which only requests for the same flag touch. -/
structure Steady (first : Request) (requests : List Request) : Prop where
  lasting : first.settings.Lasting
  posed : first.IsPosed
  settings : ∀ r ∈ requests, r.settings = first.settings
  apart : ∀ r ∈ requests, storageKey first.featureKey first.user.id =
    storageKey r.featureKey r.user.id → SameFlag r first

namespace Steady

variable {m : Memory} {first : Request} {requests : List Request} {between after : List Turn}
  {later : Turn} {detail : Detail} (h : Steady first requests)
  (hRun : run m requests = between ++ later :: after) (hSame : SameFlag later.request first)

include h hRun hSame

/-- An experiment that is shown answers later requests for the flag alone. -/
theorem outcome_of_experiment (hShown : first.ShowsExperiment m detail) :
    later.outcome = { detail } := by
  obtain ⟨m', r, -, rfl, -, hStill, hLater, -⟩ := run_reaches hRun (first.ShowsExperiment · detail)
    hShown fun r hr m hStill _ =>
      experiment_kept h.lasting h.posed (h.settings r hr) (h.apart r hr) hStill
  have hPosed := hSame.isPosed (h.settings r hLater) h.posed
  have hAnswer := (r.answered m').of_experiment hPosed
    ((hSame.showsExperiment (h.settings r hLater)).mpr hStill)
  exact congrArg Prod.fst hAnswer

theorem outcome_on (hWorks : Works m.storage) (hShown : first.ShowsRollout m detail) :
    later.outcome.detail.result.isEnabled = true ∧
      ∀ impression ∈ later.outcome.impressions, impression.kind ≠ .rollout := by
  obtain ⟨m', r, -, rfl, -, ⟨-, hStill⟩, hLater, -⟩ := run_reaches hRun
    (fun m => Works m.storage ∧
      ((∃ d, first.ShowsExperiment m d) ∨ ∃ d, first.ShowsRollout m d))
    ⟨hWorks, Or.inr ⟨_, hShown⟩⟩ fun r hr m hStill _ => ⟨(r.answered m).works hStill.1,
      choice_kept h.lasting h.posed (h.settings r hr) (h.apart r hr) hStill.1 hStill.2⟩
  have hSettings := h.settings r hLater
  have hPosed := hSame.isPosed hSettings h.posed
  rcases hStill with ⟨d, hStill⟩ | ⟨d, hStill⟩
  · exact (r.answered m').of_experiment_on hPosed ((hSame.showsExperiment hSettings).mpr hStill)
  · obtain ⟨hOn, hOnce, -⟩ := (r.answered m').of_rollout hPosed
      ((hSame.showsRollout hSettings).mpr hStill)
    exact ⟨hOn, hOnce⟩

/-- As long as no experiment is shown for the flag, the rollout gives the detail. -/
theorem detail_of_rollout (hWorks : Works m.storage) (hShown : first.ShowsRollout m detail)
    (hOnly : ∀ turn ∈ between ++ [later], SameFlag turn.request first →
      turn.outcome.showsExperiment = false) :
    later.outcome.detail = detail := by
  obtain ⟨m', r, -, rfl, -, ⟨-, hStill⟩, hLater, -⟩ := run_reaches hRun
    (fun m => Works m.storage ∧ first.ShowsRollout m detail) ⟨hWorks, hShown⟩
    fun r hr m hStill hTurn => ⟨(r.answered m).works hStill.1,
      rollout_kept h.lasting h.posed (h.settings r hr) (h.apart r hr) hStill.1 hStill.2
        (hOnly _ (List.mem_append_left _ hTurn))⟩
  have hSettings := h.settings r hLater
  obtain ⟨-, -, hDetail⟩ := (r.answered m').of_rollout (hSame.isPosed hSettings h.posed)
    ((hSame.showsRollout hSettings).mpr hStill)
  exact (hDetail (hOnly _ (by simp) hSame)).1

end Steady

/-- In a run against the same settings with a working storage, a flag that was on for a user stays
on for the user. -/
theorem run_sticks {m : Memory} {s : Settings} {requests : List Request}
    {before between after : List Turn} {first later : Turn} (hWorks : Works m.storage)
    (hLasting : s.Lasting) (hSettings : ∀ r ∈ requests, r.settings = s)
    (hApart : KeysApart requests)
    (hRun : run m requests = before ++ first :: (between ++ later :: after))
    (hSame : SameFlag later.request first.request)
    (hOn : first.outcome.detail.result.isEnabled = true) : first.Sticks between later := by
  obtain ⟨m₀, r, rest, rfl, hRest, hWorks₀, hFirst, hSub⟩ := run_reaches hRun (Works ·.storage)
    hWorks fun r _ m hWorks _ => (r.answered m).works hWorks
  obtain rfl := hSettings r hFirst
  have hSteady : Steady r rest := ⟨hLasting, (r.answered m₀).isPosed hOn,
    fun r' hr' => hSettings r' (hSub r' hr'),
    fun r' hr' hKey => (hApart r hFirst r' (hSub r' hr') hKey).symm⟩
  have hWorks₁ := (r.answered m₀).works hWorks₀
  obtain ⟨hResult, hShown⟩ := (r.answered m₀).shown hLasting hWorks₀ hOn
  cases hKind : (r.answer m₀).1.showsExperiment with
  | true =>
      rw [Shown, if_pos hKind] at hShown
      have hOutcome := hSteady.outcome_of_experiment hRest.symm hSame hShown
      refine ⟨?_, hResult, fun _ => hOutcome, ?_, ?_⟩
      · rw [hOutcome]
        exact (congrArg FlagResult.isEnabled hResult).trans hOn
      · simp [hOutcome]
      · exact fun hOnly => absurd (hKind.symm.trans hOnly) (by simp)
  | false =>
      rw [Shown, if_neg (by simp [hKind])] at hShown
      obtain ⟨hStays, hOnce⟩ := hSteady.outcome_on hRest.symm hSame hWorks₁ hShown
      refine ⟨hStays, hResult, fun hExperiment => ?_, fun _ => hOnce, fun _ hOnly => ?_⟩
      · exact absurd (hKind.symm.trans hExperiment) (by simp)
      · exact hSteady.detail_of_rollout hRest.symm hSame hWorks₁ hShown hOnly

/-- The experiment that wins is shown, and stays after the other feature was evaluated. -/
theorem rival_sticks :
    ∃ first between later,
      run ⟨some {}, ⟨0, 0, []⟩⟩
        [small .rivals "right", small .rivals "left", small .rivals "right"] =
          [first, between, later] ∧
      first.outcome.detail.reason = .experiment 2 1 ∧
      later.outcome.detail.reason = .storedVariation "2" 1 ∧ first.Sticks [between] later := by
  refine ⟨_, _, _, rfl, by decide +kernel, by decide +kernel, ?_⟩
  have hRun : ∀ {m : Memory} {r r' r'' : Request}, run m [r, r', r''] =
      [] ++ r.turn m :: ([r'.turn (r.answer m).2] ++
        r''.turn (r'.answer (r.answer m).2).2 :: []) := rfl
  refine run_sticks ⟨_, rfl, rfl, rfl⟩
    ⟨Settings.rivals_ready, by decide +kernel, by decide +kernel⟩ ?_ ?_ hRun ⟨rfl, rfl⟩
    (by decide +kernel)
  · simp [small]
  · simp [KeysApart, small, storageKey, SameFlag]

end Request

end FlagDecision
