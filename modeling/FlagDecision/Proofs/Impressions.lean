import FlagDecision.Proofs.Writes

/-! Which impressions an answer sends. An evaluation sends on its way: a rollout as soon
as it is passed, an experiment as soon as it is chosen, and the impact at the end, or at
once where the rollouts are closed. The rules that are asked in between have nothing to
send with. All that is sent makes one list, which can be read off the outcome. -/
namespace FlagDecision

open Step StoredDecision

namespace Reason

def isError : Reason → Bool
  | .error _ => true
  | _ => false

/-- The impression that the reason calls for: its kind, the campaign and the variation. -/
def impression? : Reason → Option (ImpressionKind × Nat × Nat)
  | .experiment campaignId variationId => some (.experiment, campaignId, variationId)
  | .whitelisted campaignId variationId => some (.whitelisted, campaignId, variationId)
  | _ => none

end Reason

namespace Verdict

variable {v : Verdict}

theorem isError_reason : v.detail.reason.isError = false := by
  obtain ⟨stage, experiment⟩ := v
  rcases experiment with _ | ⟨choice, _ | _⟩
  · cases stage <;> rfl
  · rfl
  · rfl

/-- The experiment that is told about is that of the reason. -/
theorem experimentImpressions_eq (f : Feature) (userId : String) :
    v.experimentImpressions f userId =
      v.detail.reason.impression?.toList.map fun (kind, campaignId, variationId) =>
        ⟨f.key, campaignId, variationId, userId, kind⟩ := by
  obtain ⟨stage, experiment⟩ := v
  rcases experiment with _ | ⟨choice, _ | _⟩
  · cases stage <;> rfl
  · rfl
  · rfl

end Verdict

/-- An evaluation on its way, with the impressions sent so far. -/
abbrev Reporting (α : Type) : Type := StateT (List Impression) Step α

namespace Reporting

variable {α β : Type} {p : Progress} {before : List Impression}

/-- A step of the rules sends nothing. -/
instance : MonadLiftT Step Reporting := ⟨StateT.lift⟩

/-- From a progress on this answers and ends as a step of the rules does. Of the impressions, there
are some before it, and what is there after it depends on the answer. -/
def Voices (x : Reporting α) (y : Step α) (p : Progress) (before : List Impression)
    (after : α → List Impression) : Prop :=
  (x.run before).run p = (((y.run p).1, after (y.run p).1), (y.run p).2)

namespace Voices

variable {x : Reporting α} {y : Step α} {after : α → List Impression}

theorem pure {a : α} (h : after a = before) :
    Voices (Pure.pure a) (Pure.pure a) p before after := by
  rw [Voices, ← h]
  rfl

theorem bind {f : α → Reporting β} {g : α → Step β} {last : β → List Impression}
    (hx : x.Voices y p before after) (hf : ∀ a p₁, (f a).Voices (g a) p₁ (after a) last) :
    (x >>= f).Voices (y >>= g) p before last := by
  have hRun : ((x >>= f).run before).run p =
      ((f ((x.run before).run p).1.1).run ((x.run before).run p).1.2).run
        ((x.run before).run p).2 := rfl
  rw [Voices, hRun, hx]
  exact hf _ _

/-- What is asked of the rules sends nothing. -/
theorem lift_bind {z : Step α} {f : α → Reporting β} {g : α → Step β}
    {last : β → List Impression} (hf : ∀ a p₁, (f a).Voices (g a) p₁ before last) :
    (liftM z >>= f).Voices (z >>= g) p before last :=
  hf _ _

theorem map {f : α → β} (hx : x.Voices y p before after) :
    ((f <$> x).run before).run p = ((f (y.run p).1, after (y.run p).1), (y.run p).2) := by
  have hRun : ((f <$> x).run before).run p =
      ((f ((x.run before).run p).1.1, ((x.run before).run p).1.2), ((x.run before).run p).2) := rfl
  rw [hRun, hx]

end Voices

end Reporting

namespace Request

/-- Somebody takes impressions, and they are switched on. -/
def sends (r : Request) : Bool := r.evaluator.hasSink && r.evaluator.config.impressionsEnabled

/-- The impressions that arrive of those that are reported. -/
def arriving (r : Request) (reported : List Impression) : List Impression :=
  if r.sends then reported else []

/-- Impressions that come up are sent at once. -/
def send (r : Request) (reported : List Impression) : Reporting Unit :=
  modify (· ++ r.arriving reported)

/-- The evaluation of a request that sends its impressions on the way. -/
def report (r : Request) : Reporting Detail := do
  let p ← (get : Step Progress)
  match Evaluator.opening r.inquiry p.storage r.featureKey with
  | .answered detail => return detail
  | .undecided f stored => Verdict.detail <$> Evaluator.decideTelling r.send r.inquiry f stored

variable {r : Request} {m : Memory} {f : Feature} {p : Progress}
  {stored : Option StoredDecision}

@[simp] theorem arriving_nil (r : Request) : r.arriving [] = [] := by
  rw [arriving]
  split <;> rfl

theorem arriving_append (r : Request) (sent sent' : List Impression) :
    r.arriving (sent ++ sent') = r.arriving sent ++ r.arriving sent' := by
  unfold arriving
  split <;> rfl

theorem send_bind {α : Type} {x : Reporting α} {y : Step α} {reported before : List Impression}
    {after : α → List Impression} (hx : x.Voices y p (before ++ r.arriving reported) after) :
    (r.send reported >>= fun _ => x).Voices (Evaluator.silent reported >>= fun _ => y) p before
      after := hx

theorem impressions_eq (r : Request) (v : Verdict) (f : Feature) :
    r.impressions v f = r.arriving (v.impressions f r.user.id) := rfl

/-- Of a verdict, what is sent before the impact are the rollouts and the experiment. -/
theorem verdictTelling_voices (f : Feature) (stored : Option StoredDecision) (p : Progress) :
    (Evaluator.verdictTelling r.send r.inquiry f stored).Voices
      (Evaluator.verdict r.inquiry f stored) p [] fun v =>
        r.arriving (v.rolloutImpressions f r.user.id ++ v.experimentImpressions f r.user.id) := by
  rw [Evaluator.verdictTelling, Evaluator.verdict, Evaluator.verdictTelling]
  refine Reporting.Voices.lift_bind fun stage p₁ => send_bind ?_
  split
  · refine Reporting.Voices.pure ?_
    rw [Verdict.experimentImpressions, List.append_nil]
    rfl
  · refine Reporting.Voices.lift_bind fun found p₂ => send_bind (Reporting.Voices.pure ?_)
    rw [arriving_append]
    rfl

/-- Sending on the way sends what the verdict tells in the end. -/
theorem decideTelling_voices (f : Feature) (stored : Option StoredDecision) (p : Progress) :
    (Evaluator.decideTelling r.send r.inquiry f stored).Voices
      (Evaluator.decide r.inquiry f stored) p [] fun v => r.impressions v f := by
  rw [Evaluator.decideTelling, Evaluator.decide, Evaluator.decideTelling]
  refine (verdictTelling_voices f stored p).bind fun v p₁ => ?_
  have hAll : r.impressions v f =
      r.arriving (v.rolloutImpressions f r.user.id ++ v.experimentImpressions f r.user.id) ++
        r.arriving (Verdict.impact f r.user.id v.detail.result.isEnabled) := by
    rw [impressions_eq, Verdict.impressions, arriving_append]
  split
  · exact Reporting.Voices.lift_bind fun _ _ => send_bind (Reporting.Voices.pure hAll)
  · exact send_bind (Reporting.Voices.pure hAll)

/-- Sent on the way or told in the end, the impressions are the same, and so is all else. -/
theorem report_run (r : Request) (m : Memory) :
    ∃ p, (r.report.run []).run m.progress =
        (((r.answer m).1.detail, (r.answer m).1.impressions), p) ∧
      p.writes = (r.answer m).1.writes ∧ p.desk.calls = (r.answer m).1.listCalls ∧
      (r.answer m).2 = ⟨p.storage, p.desk.cache⟩ := by
  have hRun : (r.report.run []).run m.progress =
      ((match Evaluator.opening r.inquiry m.storage r.featureKey with
        | .answered detail => pure detail
        | .undecided f stored =>
          Verdict.detail <$> Evaluator.decideTelling r.send r.inquiry f stored :
          Reporting Detail).run []).run m.progress := rfl
  rw [hRun, answer_eq]
  cases Evaluator.opening r.inquiry m.storage r.featureKey with
  | answered detail => exact ⟨m.progress, rfl, rfl, rfl, rfl⟩
  | undecided f stored =>
      exact ⟨_, (decideTelling_voices f stored m.progress).map, rfl, rfl, rfl⟩

end Request

namespace Evaluator

/-- Rollouts are passed just now where none is stored and the feature has some that let the user
through. -/
theorem rolloutStage_passed (q : Inquiry) (f : Feature) (stored : Option StoredDecision)
    (p : Progress) :
    (rolloutStage q f stored).Ensures p fun stage _ =>
      stage.passed? =
        if (stored.bind (storedRollout? q.settings)).isNone && f.hasRollout then
          ((q.rolloutDecision q.outside f).run p).1
        else none := by
  rw [rolloutStage]
  cases stored.bind (storedRollout? q.settings) with
  | some choice => exact Ensures.modify_bind (Ensures.pure rfl)
  | none =>
      cases f.hasRollout with
      | false => exact Ensures.pure rfl
      | true =>
          have hRun : (q.rolloutDecision q.outside f).Ensures p fun choice _ =>
              choice = ((q.rolloutDecision q.outside f).run p).1 := rfl
          refine hRun.bind fun choice p₁ hChoice => ?_
          cases choice with
          | some choice | none => exact Ensures.pure hChoice

theorem verdict_passed (q : Inquiry) (f : Feature) (stored : Option StoredDecision)
    (p : Progress) :
    (verdict q f stored).Ensures p fun v _ =>
      v.stage.passed? =
        if (stored.bind (storedRollout? q.settings)).isNone && f.hasRollout then
          ((q.rolloutDecision q.outside f).run p).1
        else none := by
  apply (rolloutStage_passed q f stored p).bind
  intro stage p₁ hPassed
  cases stage with
  | closed | none | stored | passed => exact hPassed

end Evaluator

namespace Request

variable {r : Request} {m : Memory} {f : Feature}

/-- The rollout that is passed when a request is answered, unless a stored one counts. -/
def passedRollout? (r : Request) (m : Memory) (f : Feature) : Option Choice :=
  if (r.storedRollout? m).isNone && f.hasRollout then
    ((r.inquiry.rolloutDecision r.inquiry.outside f).run m.progress).1
  else none

/-- What a feature that the rules decide is to report, in this order: the rollout passed just now,
the experiment that the reason names, and the impact with variation 2 where the flag is on and 1
where it is off. -/
def trace (r : Request) (m : Memory) (f : Feature) (d : Detail) : List Impression :=
  let impression (kind : ImpressionKind) (campaignId variationId : Nat) : Impression :=
    ⟨f.key, campaignId, variationId, r.user.id, kind⟩
  (r.passedRollout? m f).toList.map (fun (c, v) => impression .rollout c.id v.id) ++
    d.reason.impression?.toList.map
      (fun (kind, campaignId, variationId) => impression kind campaignId variationId) ++
    f.impactCampaign.toList.map fun impact =>
      impression .impact impact.campaignId (if d.result.isEnabled then 2 else 1)

/-- The impressions that an outcome calls for. Errors and stored experiments call for none. -/
def calledFor (r : Request) (m : Memory) (d : Detail) : List Impression :=
  if d.reason.isError || (r.storedExperiment? m).isSome then []
  else (r.settings.feature? r.featureKey).elim [] fun f => r.trace m f d

/-- The request with or without somebody who takes impressions, which are switched on or off. -/
def reportedTo (r : Request) (hasSink impressionsEnabled : Bool) : Request :=
  { r with evaluator :=
    { r.evaluator with hasSink, config := { r.evaluator.config with impressionsEnabled } } }

theorem trace_eq {v : Verdict} {p' : Progress}
    (h : Evaluator.Decided r.inquiry f (m.decision? r.featureKey r.user.id) m.progress v p') :
    v.impressions f r.user.id = r.trace m f v.detail := by
  have hRollout : v.stage.passed? = r.passedRollout? m f :=
    h.of_verdict (Evaluator.verdict_passed _ _ _ _)
  have hImpact : Verdict.impact f r.user.id v.detail.result.isEnabled =
      f.impactCampaign.toList.map fun impact =>
        (⟨f.key, impact.campaignId, if v.detail.result.isEnabled then 2 else 1, r.user.id,
          .impact⟩ : Impression) := by
    rw [Verdict.impact]
    cases f.impactCampaign <;> rfl
  rw [Verdict.impressions, Verdict.rolloutImpressions, trace, hRollout,
    Verdict.experimentImpressions_eq, hImpact]
  rfl

theorem Answered.impressions_eq {answer : Outcome × Memory} (h : r.Answered m answer) :
    answer.1.impressions = r.arriving (r.calledFor m answer.1.detail) := by
  cases h with
  | refused => exact (arriving_nil r).symm
  | stored _ _ found =>
      have hFound : r.storedExperiment? m = some _ := found
      simp [calledFor, hFound]
  | @decided f v p' _ known fresh decided =>
      have hFresh : r.storedExperiment? m = none := fresh
      rw [Request.impressions_eq, trace_eq decided, calledFor, Verdict.isError_reason, hFresh,
        known]
      rfl

theorem Answered.impressions_of {answer : Outcome × Memory} (h : r.Answered m answer) :
    ∀ i ∈ answer.1.impressions, i.featureKey = r.featureKey ∧ i.userId = r.user.id := by
  intro i hMem
  rw [h.impressions_eq, arriving, calledFor] at hMem
  cases hKnown : r.settings.feature? r.featureKey with
  | none => simp [hKnown] at hMem
  | some f =>
      have hTrace : i ∈ r.trace m f answer.1.detail := by
        rw [hKnown] at hMem
        split at hMem
        · split at hMem
          · simp at hMem
          · exact hMem
        · simp at hMem
      rw [← key_eq hKnown]
      simp only [trace, List.mem_append, List.mem_map] at hTrace
      rcases hTrace with (⟨_, -, rfl⟩ | ⟨_, -, rfl⟩) | ⟨_, -, rfl⟩
      · exact ⟨rfl, rfl⟩
      · exact ⟨rfl, rfl⟩
      · exact ⟨rfl, rfl⟩

/-- Who takes impressions has no part in the rest of an answer. -/
theorem answer_reportedTo (r : Request) (m : Memory) (hasSink impressionsEnabled : Bool) :
    (r.reportedTo hasSink impressionsEnabled).answer m =
      ({ (r.answer m).1 with
          impressions := ((r.reportedTo hasSink impressionsEnabled).answer m).1.impressions },
        (r.answer m).2) := by
  have hSame : (r.reportedTo hasSink impressionsEnabled).inquiry = r.inquiry := rfl
  have hKey : (r.reportedTo hasSink impressionsEnabled).featureKey = r.featureKey := rfl
  rw [answer_eq, answer_eq, hSame, hKey]
  cases Evaluator.opening r.inquiry m.storage r.featureKey with
  | answered | undecided => rfl

/-- The impressions of an answer are determined by its outcome: none for an error and for a stored
experiment, and otherwise one for a rollout passed just now, one for the experiment of the reason,
and one for the impact, in this order. They are about the feature and the user of the request. They
are what is sent on the way, where the rules have nothing to send with; and whether anybody takes
them makes no difference to the rest of the answer. -/
theorem answer_impressions (r : Request) (m : Memory) :
    (r.answer m).1.impressions =
        (if r.sends then r.calledFor m (r.answer m).1.detail else []) ∧
      (∀ i ∈ (r.answer m).1.impressions, i.featureKey = r.featureKey ∧ i.userId = r.user.id) ∧
      (∃ p, (r.report.run []).run m.progress =
          (((r.answer m).1.detail, (r.answer m).1.impressions), p) ∧
        p.writes = (r.answer m).1.writes ∧ p.desk.calls = (r.answer m).1.listCalls ∧
        (r.answer m).2 = ⟨p.storage, p.desk.cache⟩) ∧
      ∀ hasSink impressionsEnabled,
        (r.reportedTo hasSink impressionsEnabled).answer m =
          ({ (r.answer m).1 with
              impressions :=
                if hasSink && impressionsEnabled then r.calledFor m (r.answer m).1.detail else [] },
            (r.answer m).2) := by
  have hAnswered := r.answered m
  refine ⟨hAnswered.impressions_eq, hAnswered.impressions_of, report_run r m, ?_⟩
  intro hasSink impressionsEnabled
  have hSame := answer_reportedTo r m hasSink impressionsEnabled
  have hSent := ((r.reportedTo hasSink impressionsEnabled).answered m).impressions_eq
  rw [hSame] at hSent
  rw [hSame, hSent]
  rfl

/-- A rival passes its rollout and then wins its group. -/
example :
    let r := (small .rivals "right").reportedTo true true
    (r.answer ⟨some {}, ⟨0, 0, []⟩⟩).1.impressions =
      [⟨"right", 3, 1, "u", .rollout⟩, ⟨"right", 2, 1, "u", .experiment⟩] := by
  decide +kernel

end Request

end FlagDecision
