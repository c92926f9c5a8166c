import FlagDecision.Proofs.Decided

/-! What a reason vouches for. A flag that is on has the variables of one variation, and
its reason names where that variation is found: in a campaign that the feature links, or
in the settings by the keys of the decision that was stored before. A flag that is off
has no variables. -/
namespace FlagDecision

open Step StoredDecision

/-- The reasons for a flag that is off. -/
def Reason.isOff : Reason → Bool
  | .rolloutNotPassed | .noExperimentMatched | .error _ => true
  | .storedVariation .. | .whitelisted .. | .rollout .. | .experiment .. => false

/-- The decision names a campaign and a variation, as its experiment or as its rollout. -/
def StoredDecision.Names (d : StoredDecision) (campaignKey : String) (variationId : Nat) : Prop :=
  (d.experimentKey = some campaignKey ∧ d.experimentVariationId = some variationId) ∨
    (d.rolloutKey = some campaignKey ∧ d.rolloutVariationId = some variationId)

namespace Settings

variable {s : Settings} {key : String} {id : Nat} {choice : Choice}

/-- What is found by a campaign key and a variation id goes by them. -/
theorem keys_of_variationByKey? (h : s.variationByKey? key id = some choice) :
    choice.1.key = key ∧ choice.2.id = id := by
  obtain ⟨c, hCampaign, hRest⟩ := Option.bind_eq_some_iff.mp h
  obtain ⟨v, hVariation, hSame⟩ := Option.bind_eq_some_iff.mp hRest
  obtain rfl : (c, v) = choice := Option.some.inj hSame
  constructor
  · simpa using List.find?_some hCampaign
  · simpa using List.find?_some hVariation

end Settings

namespace Evaluator

variable {s : Settings} {d : StoredDecision} {choice : Choice}

theorem names_of_storedExperiment? (h : storedExperiment? s d = some choice) :
    d.Names choice.1.key choice.2.id ∧
      s.variationByKey? choice.1.key choice.2.id = some choice := by
  obtain ⟨key, hKey, hRest⟩ := Option.bind_eq_some_iff.mp h
  obtain ⟨id, hId, hFound⟩ := Option.bind_eq_some_iff.mp hRest
  obtain ⟨rfl, rfl⟩ := Settings.keys_of_variationByKey? hFound
  exact ⟨Or.inl ⟨hKey, hId⟩, hFound⟩

theorem names_of_storedRollout? (h : storedRollout? s d = some choice) :
    d.Names choice.1.key choice.2.id ∧
      s.variationByKey? choice.1.key choice.2.id = some choice := by
  obtain ⟨-, h⟩ := Option.ite_none_right_eq_some.mp h
  obtain ⟨key, hKey, hRest⟩ := Option.bind_eq_some_iff.mp h
  obtain ⟨id, hId, hFound⟩ := Option.bind_eq_some_iff.mp hRest
  obtain ⟨rfl, rfl⟩ := Settings.keys_of_variationByKey? hFound
  exact ⟨Or.inr ⟨hKey, hId⟩, hFound⟩

end Evaluator

namespace Inquiry

variable {q : Inquiry} {p : Progress}

/-- A variation is forced only by a campaign that allows it. -/
theorem whitelisting_allowed (f : Feature) (c : Campaign) :
    (q.whitelisting f c).Ensures p fun forced _ =>
      forced.isSome = true → c.isForcedVariationEnabled = true := by
  rw [whitelisting]
  split
  · rename_i hAllowed
    exact fun _ => hAllowed
  · exact Ensures.pure (by simp)

theorem experimentDecision_allowed (f : Feature) (campaigns : List Campaign) :
    (q.experimentDecision f campaigns).Ensures p fun found _ =>
      ∀ c v, found = some ((c, v), .whitelisted) → c.isForcedVariationEnabled = true := by
  induction campaigns generalizing p with
  | nil => exact Ensures.pure (by simp)
  | cons c rest ih =>
      rw [experimentDecision]
      refine (whitelisting_allowed f c).bind fun forced p₁ hForced => ?_
      cases forced with
      | some v =>
          refine Ensures.pure ?_
          intro d w hFound
          obtain ⟨rfl, -⟩ : c = d ∧ v = w := by simpa using hFound
          exact hForced rfl
      | none =>
          have hAny : (q.passes q.outside f c).Ensures p₁ fun _ _ => True := trivial
          refine hAny.bind fun passed p₂ _ => ?_
          cases passed with
          | true => exact Ensures.pure (by simp)
          | false => exact ih

end Inquiry

namespace Evaluator

variable {q : Inquiry} {p p' : Progress} {f : Feature} {stored : Option StoredDecision}
  {v : Verdict}

theorem verdict_allowed (q : Inquiry) (f : Feature) (stored : Option StoredDecision)
    (p : Progress) :
    (verdict q f stored).Ensures p fun v _ =>
      ∀ c w, v.experiment = some ((c, w), .whitelisted) → c.isForcedVariationEnabled = true := by
  have hStage : (rolloutStage q f stored).Ensures p fun _ _ => True := trivial
  refine hStage.bind fun stage p₁ _ => ?_
  split
  · exact Ensures.pure (by simp)
  · exact (Inquiry.experimentDecision_allowed f f.experiments).bind
      fun found p₂ hFound => Ensures.pure hFound

theorem Decided.allowed (h : Decided q f stored p v p') {c : Campaign} {w : Variation}
    (hForced : v.experiment = some ((c, w), .whitelisted)) :
    c.isForcedVariationEnabled = true :=
  h.of_verdict (verdict_allowed q f stored p) c w hForced

end Evaluator

namespace Request

variable {r : Request} {m : Memory}

/-- The result comes from a variation that the feature links, in a campaign as demanded. -/
def Shows (r : Request) (result : FlagResult) (demand : Campaign → Prop)
    (campaignId variationId : Nat) : Prop :=
  ∃ f c w, r.settings.feature? r.featureKey = some f ∧ c ∈ f.linked ∧ demand c ∧
    c.id = campaignId ∧ w ∈ c.variations ∧ w.id = variationId ∧ result = .ofVariation w

/-- What the reason says of the result: which campaign and variation it comes from, or that there
is none. -/
def Vouches (r : Request) (m : Memory) (result : FlagResult) : Reason → Prop
  | .rollout campaignId variationId => r.Shows result (·.kind = .rollout) campaignId variationId
  | .experiment campaignId variationId =>
    r.Shows result (·.kind.isExperiment = true) campaignId variationId
  | .whitelisted campaignId variationId =>
    r.Shows result (fun c => c.kind.isExperiment = true ∧ c.isForcedVariationEnabled = true)
      campaignId variationId
  | .storedVariation campaignKey variationId =>
    ∃ d c w, m.decision? r.featureKey r.user.id = some d ∧ d.Names campaignKey variationId ∧
      r.settings.variationByKey? campaignKey variationId = some (c, w) ∧ result = .ofVariation w
  | .rolloutNotPassed | .noExperimentMatched | .error _ => result = .disabled

/-- A reason that vouches for a result says whether the flag is on. -/
theorem Vouches.isEnabled_eq {result : FlagResult} {reason : Reason}
    (h : r.Vouches m result reason) : result.isEnabled = !reason.isOff := by
  cases reason with
  | rollout | experiment | whitelisted =>
      obtain ⟨_, _, _, -, -, -, -, -, -, rfl⟩ := h
      rfl
  | storedVariation =>
      obtain ⟨_, _, _, -, -, -, rfl⟩ := h
      rfl
  | rolloutNotPassed | noExperimentMatched | error =>
      obtain rfl := h
      rfl

theorem Vouches.of_stored {d : StoredDecision} {choice : Choice}
    (hDecision : m.decision? r.featureKey r.user.id = some d)
    (hNames : d.Names choice.1.key choice.2.id)
    (hFound : r.settings.variationByKey? choice.1.key choice.2.id = some choice) :
    r.Vouches m (storedDetail choice).result (storedDetail choice).reason :=
  ⟨d, choice.1, choice.2, hDecision, hNames, hFound, rfl⟩

theorem Vouches.of_decided {f : Feature} {v : Verdict} {p' : Progress}
    (hKnown : r.settings.feature? r.featureKey = some f)
    (h : Evaluator.Decided r.inquiry f (m.decision? r.featureKey r.user.id) m.progress v p') :
    r.Vouches m v.detail.result v.detail.reason := by
  obtain ⟨stage, experiment⟩ := v
  -- An experiment overrides whatever the rollouts gave.
  rcases experiment with _ | ⟨⟨c, w⟩, _ | _⟩
  · cases stage with
    | none | closed => rfl
    | stored choice =>
        obtain ⟨d, hDecision, hFound⟩ := Option.bind_eq_some_iff.mp h.stored.symm
        obtain ⟨hNames, hFound⟩ := Evaluator.names_of_storedRollout? hFound
        exact .of_stored hDecision hNames hFound
    | passed choice =>
        obtain ⟨hRollout, hVariation⟩ := h.rollout choice.1 choice.2 rfl
        obtain ⟨hLinked, hKind⟩ := List.mem_filter.mp hRollout
        exact ⟨f, choice.1, choice.2, hKnown, hLinked, eq_of_beq hKind, rfl, hVariation, rfl, rfl⟩
  all_goals
    obtain ⟨hExperiment, hVariation⟩ := h.experiment c w _ rfl
    obtain ⟨hLinked, hKind⟩ := List.mem_filter.mp hExperiment
  · exact ⟨f, c, w, hKnown, hLinked, ⟨hKind, h.allowed rfl⟩, rfl, hVariation, rfl, rfl⟩
  · exact ⟨f, c, w, hKnown, hLinked, hKind, rfl, hVariation, rfl, rfl⟩

theorem Answered.vouches {answer : Outcome × Memory} (h : r.Answered m answer) :
    r.Vouches m answer.1.detail.result answer.1.detail.reason := by
  cases h with
  | refused => rfl
  | stored _ _ found =>
      obtain ⟨d, hDecision, hFound⟩ := Option.bind_eq_some_iff.mp found
      obtain ⟨hNames, hFound⟩ := Evaluator.names_of_storedExperiment? hFound
      exact .of_stored hDecision hNames hFound
  | decided _ known _ decided => exact .of_decided known decided

/-- Result and reason of an answer belong together. The flag is off, without variables, exactly for
the reasons that say so. Otherwise the variables are those of the variation that the reason names:
in a campaign of the feature of the kind that the reason tells, or in the settings by the keys that
were stored before. -/
theorem answer_coherent (r : Request) (m : Memory) :
    ((r.answer m).1.detail.result.isEnabled = false ↔
        (r.answer m).1.detail.reason.isOff = true) ∧
      ((r.answer m).1.detail.result = .disabled ↔ (r.answer m).1.detail.reason.isOff = true) ∧
      r.Vouches m (r.answer m).1.detail.result (r.answer m).1.detail.reason := by
  have hVouches := (r.answered m).vouches
  have hEnabled := hVouches.isEnabled_eq
  refine ⟨by simp [hEnabled], ?_, hVouches⟩
  constructor
  · intro hOff
    rw [hOff] at hEnabled
    simpa [FlagResult.disabled] using hEnabled.symm
  · intro hOff
    cases hReason : (r.answer m).1.detail.reason <;> simp_all [Vouches, Reason.isOff]

end Request

end FlagDecision
