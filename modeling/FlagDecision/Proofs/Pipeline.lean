import FlagDecision.Proofs.Decided
import FlagDecision.Proofs.Linking
import FlagDecision.Proofs.Targeting

/-! The rules of a feature without groups. Where nothing is stored, a user gets the first
rollout that targets the user and then the first experiment that is forced or targets
the user, if the traffic of each lets the user in. Campaigns after those are not tried:
the decision is made, down to the calls of list services, as if they were not linked. -/
namespace FlagDecision

open Step

namespace Inquiry

variable {q : Inquiry} {p : Progress} {f : Feature} {c : Campaign} {guard : Guard Step}

/-- The variation that a campaign forces on the user, by what the segments of its variations
mean. -/
def forced? (q : Inquiry) (f : Feature) (c : Campaign) : Option Variation :=
  if c.isForcedVariationEnabled then
    let attributes := q.withUserId c q.user.targeting
    let candidates := c.variations.filter fun v =>
      v.segments.any (Segment.meaning (q.setting none f) attributes)
    c.whitelisted? candidates q.user.id
  else none

/-- The rollout of the user: the first one that targets the user, if its traffic lets the user
in. -/
def selected? (q : Inquiry) (f : Feature) : Option Choice :=
  (f.rollouts.find? (q.targets none f)).bind fun c =>
    (c.allot? q.settings.accountId q.user.id).map (c, ·)

/-- There are rollouts, and none for the user. -/
def isKeptOut (q : Inquiry) (f : Feature) : Bool := f.hasRollout && (q.selected? f).isNone

/-- An experiment ends the search: it forces a variation on the user, or targets the user. -/
def stopsAt (q : Inquiry) (f : Feature) (c : Campaign) : Bool :=
  (q.forced? f c).isSome || q.targets none f c

/-- What the experiment that ends the search gives. Traffic does not bear on a forced variation. -/
def shownBy? (q : Inquiry) (f : Feature) (c : Campaign) : Option (Choice × Path) :=
  match q.forced? f c with
  | some v => some ((c, v), .whitelisted)
  | none => (c.allot? q.settings.accountId q.user.id).map fun v => ((c, v), .allotted)

/-- The experiment of the user. -/
def shown? (q : Inquiry) (f : Feature) : Option (Choice × Path) :=
  (f.experiments.find? (q.stopsAt f)).bind (q.shownBy? f)

/-- What the flag is for the user. -/
def expected (q : Inquiry) (f : Feature) : Detail :=
  if q.isKeptOut f then ⟨.disabled, .rolloutNotPassed⟩
  else
    match q.shown? f, q.selected? f with
    | some ((c, v), .whitelisted), _ => ⟨.ofVariation v, .whitelisted c.id v.id⟩
    | some ((c, v), .allotted), _ => ⟨.ofVariation v, .experiment c.id v.id⟩
    | none, some (c, v) => ⟨.ofVariation v, .rollout c.id v.id⟩
    | none, none => ⟨.disabled, .noExperimentMatched⟩

/-- The campaigns that are tried: rollouts up to the first one that targets the user, and where it
lets the user through, experiments up to the one that ends the search. -/
def tried (q : Inquiry) (f : Feature) : List Campaign :=
  upTo (q.targets none f) f.rollouts ++
    if q.isKeptOut f then [] else upTo (q.stopsAt f) f.experiments

/-- Nothing is stored, and what the desk remembers is true. -/
structure Plain (q : Inquiry) (p : Progress) : Prop where
  unstored : p.storage = none
  truthful : p.desk.cache.Truthful q.lists

/-- None of some campaigns belongs to a group. -/
def Ungrouped (q : Inquiry) (campaigns : List Campaign) : Prop :=
  ∀ c ∈ campaigns, q.settings.groupOf? c.groupMember = none

theorem holds_plain (h : q.Plain p) (f : Feature) (attributes : Attributes) (s : Option Segment) :
    (q.holds f attributes s).Ensures p fun answer p' =>
      answer = s.all (Segment.meaning (q.setting none f) attributes) ∧ q.Plain p' := by
  refine (holds_means f attributes s h.truthful).imp fun answer p' hMeans => ?_
  obtain ⟨hAnswer, desk, hDesk, rfl⟩ := hMeans
  rw [h.unstored] at hAnswer
  exact ⟨hAnswer, h.unstored, hDesk⟩

/-- A campaign without group passes if it targets the user, whatever else the feature links. -/
theorem passes_plain (h : q.Plain p) (guard : Guard Step) (f : Feature) (linked : List Campaign)
    (hAlone : q.settings.groupOf? c.groupMember = none) :
    (q.passes guard f c).Ensures p fun answer p' => answer = q.targets none f c ∧ q.Plain p' ∧
      (q.passes guard { f with linked } c).run p = (answer, p') := by
  simp only [passes, hAlone]
  have hRun : (q.preSegmentation f c).Ensures p fun answer p' =>
      (q.preSegmentation { f with linked } c).run p = (answer, p') := rfl
  refine ((holds_plain h f _ _).and hRun).imp fun answer p' hMeans => ?_
  exact ⟨hMeans.1.1.trans (targets_eq q none f c).symm, hMeans.1.2, hMeans.2⟩

theorem firstPassing_plain (h : q.Plain p) (guard : Guard Step) (f : Feature)
    (linked : List Campaign) {campaigns : List Campaign} (hAlone : q.Ungrouped campaigns) :
    (q.firstPassing guard f campaigns).Ensures p fun found p' =>
      found = campaigns.find? (q.targets none f) ∧ q.Plain p' ∧
      (q.firstPassing guard { f with linked } (upTo (q.targets none f) campaigns)).run p =
        (found, p') := by
  induction campaigns generalizing p with
  | nil => exact Ensures.pure ⟨rfl, h, rfl⟩
  | cons c rest ih =>
      have hRest : q.Ungrouped rest := fun d hd => hAlone d (List.mem_cons_of_mem _ hd)
      rw [firstPassing, upTo]
      refine (passes_plain h guard f linked (hAlone c List.mem_cons_self)).bind
        fun answer p₁ hPassed => ?_
      obtain ⟨rfl, h₁, hRun⟩ := hPassed
      rw [firstPassing, Step.run_bind_of hRun]
      cases hTargets : q.targets none f c with
      | true => exact Ensures.pure ⟨by rw [List.find?_cons_of_pos hTargets], h₁, rfl⟩
      | false =>
          rw [List.find?_cons_of_neg (by simp [hTargets])]
          exact ih h₁ hRest

theorem whitelisting_plain (h : q.Plain p) (f : Feature) (c : Campaign) :
    (q.whitelisting f c).Ensures p fun forced p' => forced = q.forced? f c ∧ q.Plain p' := by
  rw [whitelisting, forced?]
  split
  · refine (Ensures.filterM_filter q.Plain _ (fun v p' h' => holds_plain h' f _ v.segments) h).bind
      fun candidates p' hCandidates => Ensures.pure ⟨?_, hCandidates.2⟩
    have hSame : ∀ s : Option Segment, ∀ meaning : Segment → Bool,
        (s.all meaning && s.isSome) = s.any meaning := by
      intro s meaning
      cases s <;> simp
    simp only [hCandidates.1, List.filter_filter, hSame]
  · exact Ensures.pure ⟨rfl, h⟩

theorem experimentDecision_plain (h : q.Plain p) (f : Feature) (linked : List Campaign)
    {campaigns : List Campaign} (hAlone : q.Ungrouped campaigns) :
    (q.experimentDecision f campaigns).Ensures p fun found p' =>
      found = (campaigns.find? (q.stopsAt f)).bind (q.shownBy? f) ∧
      (q.experimentDecision { f with linked } (upTo (q.stopsAt f) campaigns)).run p =
        (found, p') := by
  induction campaigns generalizing p with
  | nil => exact Ensures.pure ⟨rfl, rfl⟩
  | cons c rest ih =>
      have hRest : q.Ungrouped rest := fun d hd => hAlone d (List.mem_cons_of_mem _ hd)
      have hSame : (q.whitelisting f c).Ensures p fun forced p' =>
          (q.whitelisting { f with linked } c).run p = (forced, p') := rfl
      rw [experimentDecision, upTo]
      refine ((whitelisting_plain h f c).and hSame).bind fun forced p₁ hForced => ?_
      obtain ⟨⟨rfl, h₁⟩, hRun₁⟩ := hForced
      rw [experimentDecision, Step.run_bind_of hRun₁]
      cases hForced : q.forced? f c with
      | some v =>
          have hStops : q.stopsAt f c = true := by simp [stopsAt, hForced]
          rw [List.find?_cons_of_pos hStops]
          exact Ensures.pure ⟨by simp [shownBy?, hForced], rfl⟩
      | none =>
          refine (passes_plain h₁ q.outside f linked (hAlone c List.mem_cons_self)).bind
            fun answer p₂ hPassed => ?_
          obtain ⟨rfl, h₂, hRun₂⟩ := hPassed
          dsimp only
          rw [Step.run_bind_of hRun₂]
          cases hTargets : q.targets none f c with
          | true =>
              have hStops : q.stopsAt f c = true := by simp [stopsAt, hTargets]
              rw [List.find?_cons_of_pos hStops]
              exact Ensures.pure ⟨by simp [shownBy?, hForced], rfl⟩
          | false =>
              have hStops : q.stopsAt f c = false := by simp [stopsAt, hForced, hTargets]
              rw [List.find?_cons_of_neg (by simp [hStops]), hStops]
              exact ih h₂ hRest

/-- The feature with no other campaigns than those tried. -/
def trimmed (q : Inquiry) (f : Feature) : Feature := { f with linked := q.tried f }

theorem trimmed_rollouts (q : Inquiry) (f : Feature) :
    (q.trimmed f).rollouts = upTo (q.targets none f) f.rollouts := by
  have hRollouts : (upTo (q.targets none f) f.rollouts).filter (·.kind == .rollout) =
      upTo (q.targets none f) f.rollouts :=
    List.filter_eq_self.mpr fun c hc => (List.mem_filter.mp (mem_of_mem_upTo hc)).2
  have hExperiments : (upTo (q.stopsAt f) f.experiments).filter (·.kind == .rollout) = [] := by
    refine List.filter_eq_nil_iff.mpr fun c hc hKind => ?_
    have hExperiment := (List.mem_filter.mp (mem_of_mem_upTo hc)).2
    simp [eq_of_beq hKind, CampaignKind.isExperiment] at hExperiment
  show (q.tried f).filter _ = _
  rw [tried, List.filter_append, hRollouts]
  split <;> simp [hExperiments]

theorem trimmed_experiments (q : Inquiry) (f : Feature) :
    (q.trimmed f).experiments =
      if q.isKeptOut f then [] else upTo (q.stopsAt f) f.experiments := by
  have hRollouts : (upTo (q.targets none f) f.rollouts).filter (·.kind.isExperiment) = [] := by
    refine List.filter_eq_nil_iff.mpr fun c hc hExperiment => ?_
    have hKind := (List.mem_filter.mp (mem_of_mem_upTo hc)).2
    simp [eq_of_beq hKind, CampaignKind.isExperiment] at hExperiment
  have hExperiments : (upTo (q.stopsAt f) f.experiments).filter (·.kind.isExperiment) =
      upTo (q.stopsAt f) f.experiments :=
    List.filter_eq_self.mpr fun c hc => (List.mem_filter.mp (mem_of_mem_upTo hc)).2
  show (q.tried f).filter _ = _
  rw [tried, List.filter_append, hRollouts, List.nil_append]
  split <;> simp [hExperiments]

theorem trimmed_hasRollout (q : Inquiry) (f : Feature) :
    (q.trimmed f).hasRollout = f.hasRollout := by
  rw [Feature.hasRollout, Feature.hasRollout, trimmed_rollouts]
  cases f.rollouts <;> rfl

theorem rolloutDecision_plain (h : q.Plain p) (hNew : p.rollouts.lookup f.key = none)
    (guard : Guard Step) (hAlone : q.Ungrouped f.rollouts) :
    (q.rolloutDecision guard f).Ensures p fun choice p' => choice = q.selected? f ∧ q.Plain p' ∧
      (q.rolloutDecision guard (q.trimmed f)).run p = (choice, p') := by
  have hKnows : (get : Step Progress).run p = (p, p) := rfl
  have hNew' : p.rollouts.lookup (q.trimmed f).key = none := hNew
  rw [rolloutDecision, rolloutDecision]
  refine Ensures.get_bind ?_
  rw [Step.liftM_eq, Step.run_bind_of hKnows]
  simp only [hNew, hNew', trimmed_rollouts]
  refine (firstPassing_plain h guard f (q.tried f) hAlone).bind fun found p₁ hFound =>
    Ensures.modify_bind ?_
  obtain ⟨rfl, h₁, hRun⟩ := hFound
  exact Ensures.pure ⟨rfl, ⟨h₁.unstored, h₁.truthful⟩, Step.run_bind_of hRun⟩

end Inquiry

namespace Evaluator

variable {q : Inquiry} {p : Progress} {f : Feature}

/-- How far the rollouts bring the user, where nothing is stored. -/
def expectedStage (q : Inquiry) (f : Feature) : RolloutStage :=
  if q.isKeptOut f then .closed
  else
    match q.selected? f with
    | some choice => .passed choice
    | none => .none

theorem rolloutStage_plain (h : q.Plain p) (hNew : p.rollouts.lookup f.key = none)
    (hAlone : q.Ungrouped f.rollouts) :
    (rolloutStage q f none).Ensures p fun stage p' => stage = expectedStage q f ∧ q.Plain p' ∧
      (rolloutStage q (q.trimmed f) none).run p = (stage, p') := by
  simp only [rolloutStage, Option.bind_none, Inquiry.trimmed_hasRollout]
  cases hRollout : f.hasRollout with
  | false =>
      have hNone : f.rollouts = [] := by simpa [Feature.hasRollout] using hRollout
      refine Ensures.pure ⟨?_, h, rfl⟩
      simp [expectedStage, Inquiry.isKeptOut, Inquiry.selected?, hRollout, hNone]
  | true =>
      refine (Inquiry.rolloutDecision_plain h hNew q.outside hAlone).bind
        fun choice p₁ hChoice => ?_
      obtain ⟨hSelected, h₁, hRun⟩ := hChoice
      simp only [if_true]
      rw [Step.run_bind_of hRun, expectedStage, Inquiry.isKeptOut, hRollout, ← hSelected]
      cases choice with
      | none => exact Ensures.pure ⟨rfl, h₁, rfl⟩
      | some choice => exact Ensures.pure ⟨rfl, h₁, rfl⟩

/-- Without storage and groups, the rules come to what is expected, and the campaigns that are not
tried do not bear on it. -/
theorem verdict_plain (h : q.Plain p) (hNew : p.rollouts.lookup f.key = none)
    (hAlone : q.Ungrouped f.linked) :
    (verdict q f none).Ensures p fun v p' => v.detail = q.expected f ∧
      (verdict q (q.trimmed f) none).run p = (v, p') := by
  have hRollouts : q.Ungrouped f.rollouts := fun c hc => hAlone c (List.mem_of_mem_filter hc)
  have hExperiments : q.Ungrouped f.experiments := fun c hc => hAlone c (List.mem_of_mem_filter hc)
  rw [verdict_eq, verdict_eq]
  refine (rolloutStage_plain h hNew hRollouts).bind fun stage p₁ hStage => ?_
  obtain ⟨rfl, h₁, hRun⟩ := hStage
  rw [Step.run_bind_of hRun, expectedStage, Inquiry.expected, Inquiry.trimmed_experiments]
  cases hClosed : q.isKeptOut f with
  | true => exact Ensures.pure ⟨rfl, rfl⟩
  | false =>
      -- With or without a rollout, the experiments are searched alike.
      have hShown := Inquiry.experimentDecision_plain h₁ f (q.tried f) hExperiments
      simp only [Bool.false_eq_true, if_false]
      cases hSelected : q.selected? f with
      | none | some =>
          refine hShown.bind fun found p₂ hFound => ?_
          obtain ⟨hFound, hRun₂⟩ := hFound
          refine Ensures.pure ⟨?_, Step.run_bind_of hRun₂⟩
          rw [Inquiry.shown?, ← hFound]
          rcases found with _ | ⟨⟨c, v⟩, _ | _⟩ <;> rfl

theorem decide_trimmed (h : q.Plain p) (hNew : p.rollouts.lookup f.key = none)
    (hAlone : q.Ungrouped f.linked) :
    (decide q (q.trimmed f) none).run p = (decide q f none).run p := by
  have hRun : (verdict q (q.trimmed f) none).run p = (verdict q f none).run p :=
    (verdict_plain h hNew hAlone).2
  rw [decide_eq, decide_eq, StateT.run_bind, hRun, StateT.run_bind]
  rfl

end Evaluator

namespace Inquiry

variable {q : Inquiry} {f : Feature}

/-- The rollouts keep a user out if none targets the user, or if the first one that does has no
variation for the user. -/
theorem isKeptOut_iff : q.isKeptOut f = true ↔ f.rollouts ≠ [] ∧
    ∀ c, f.rollouts.find? (q.targets none f) = some c →
      c.allot? q.settings.accountId q.user.id = none := by
  cases hFirst : f.rollouts.find? (q.targets none f) <;>
    simp [isKeptOut, selected?, Feature.hasRollout, hFirst]

/-- Being kept out is the only way to get the reason of closed rollouts. -/
theorem expected_closed_iff :
    (q.expected f).reason = .rolloutNotPassed ↔ q.isKeptOut f = true := by
  rw [expected]
  cases q.isKeptOut f with
  | true => simp
  | false =>
      rcases q.shown? f with _ | ⟨⟨c, v⟩, _ | _⟩ <;>
        rcases q.selected? f with _ | ⟨d, w⟩ <;> simp

/-- A rollout shows its first variation. -/
theorem head_of_selected {c : Campaign} {v : Variation} (h : q.selected? f = some (c, v)) :
    c.variations.head? = some v := by
  obtain ⟨d, hFirst, hGiven⟩ := Option.bind_eq_some_iff.mp h
  obtain ⟨w, hAllot, hSame⟩ := Option.map_eq_some_iff.mp hGiven
  obtain ⟨rfl, rfl⟩ := Prod.mk.inj hSame
  have hKind : d.kind = .rollout :=
    eq_of_beq (List.mem_filter.mp (List.mem_of_find?_eq_some hFirst)).2
  rw [Campaign.allot?, hKind] at hAllot
  split at hAllot
  · simp at hAllot
  · exact hAllot

end Inquiry

namespace Request

variable {r : Request} {m : Memory} {f : Feature}

theorem Answered.expected {answer : Outcome × Memory} (h : r.Answered m answer)
    (hNamed : r.user.isBlank = false) (hKnown : r.settings.feature? r.featureKey = some f)
    (hPlain : r.inquiry.Plain m.progress) (hAlone : r.inquiry.Ungrouped f.linked) :
    answer.1.detail = r.inquiry.expected f := by
  have hNone : m.decision? r.featureKey r.user.id = none := by
    rw [Memory.decision?, show m.storage = none from hPlain.unstored, Option.bind_none]
  cases h with
  | refused _ reason => simp [hNamed, hKnown] at reason
  | stored _ _ found => simp [hNone] at found
  | @decided f' v p' _ known _ decided =>
      obtain rfl : f' = f := Option.some.inj (known.symm.trans hKnown)
      obtain ⟨p₁, hRun, -⟩ := decided.moved
      rw [hNone] at hRun
      have hDetail := (Evaluator.verdict_plain hPlain rfl hAlone).1
      rwa [hRun] at hDetail

/-- Without storage and groups, an answer is that of the first rollout that targets the user and
then of the first experiment that is forced or targets the user. It is the reason of closed rollouts
exactly if there are rollouts of which none, or none by its traffic, lets the user in; a rollout
shows its first variation. Campaigns after those are not tried. -/
theorem answer_follows_rules (hNamed : r.user.isBlank = false)
    (hKnown : r.settings.feature? r.featureKey = some f) (hUnstored : m.storage = none)
    (hTruthful : m.cache.Truthful r.evaluator.lists) (hAlone : r.inquiry.Ungrouped f.linked) :
    (r.answer m).1.detail = r.inquiry.expected f ∧
      ((r.answer m).1.detail.reason = .rolloutNotPassed ↔ f.rollouts ≠ [] ∧
        ∀ c, f.rollouts.find? (r.inquiry.targets none f) = some c →
          c.allot? r.settings.accountId r.user.id = none) ∧
      (∀ c v, r.inquiry.selected? f = some (c, v) → c.variations.head? = some v) ∧
      (Evaluator.decide r.inquiry (r.inquiry.trimmed f) none).run m.progress =
        (Evaluator.decide r.inquiry f none).run m.progress := by
  have hPlain : r.inquiry.Plain m.progress := ⟨hUnstored, hTruthful⟩
  have hDetail := (r.answered m).expected hNamed hKnown hPlain hAlone
  refine ⟨hDetail, ?_, fun _ _ => Inquiry.head_of_selected,
    Evaluator.decide_trimmed hPlain rfl hAlone⟩
  rw [hDetail, Inquiry.expected_closed_iff]
  exact Inquiry.isKeptOut_iff

end Request

/-- Settings with one feature: a rollout that targets nobody before two that target everybody, and
an experiment that targets nobody before one without traffic that forces a variation on a user, and
one that targets everybody. -/
def Settings.staged : Settings :=
  { accountId := 1
    campaigns := [.closed 1, .small .rollout 2, .small .rollout 3,
      { Campaign.small .ab 4 with segments := some (.disj []) },
      { Campaign.small .ab 5 with
        segments := some (.disj [])
        percentTraffic := 0
        isForcedVariationEnabled := true
        variations := [{ id := 1, weight := 100 },
          { id := 2, segments := some (.user (.equals "u, w")) }] },
      .small .ab 6]
    features := [.small 1 "f" [1, 2, 3, 4, 5, 6]] : Settings }.link

namespace Request

/-- The second rollout and the second experiment decide, and the last of each is not tried. -/
theorem staged_follows_rules :
    ∃ f, Settings.staged.feature? "f" = some f ∧ (small .staged "f").inquiry.Ungrouped f.linked ∧
      ((small .staged "f").answer ⟨none, ⟨0, 0, []⟩⟩).1.detail.reason = .whitelisted 5 2 ∧
      ((small .staged "f").inquiry.tried f).map (·.id) = [1, 2, 4, 5] := by
  obtain ⟨f, hKnown, hReason, hTried⟩ : ∃ f, Settings.staged.feature? "f" = some f ∧
      ((small .staged "f").inquiry.expected f).reason = .whitelisted 5 2 ∧
      ((small .staged "f").inquiry.tried f).map (·.id) = [1, 2, 4, 5] :=
    ⟨_, rfl, by decide +kernel, by decide +kernel⟩
  have hAlone : (small .staged "f").inquiry.Ungrouped f.linked := fun _ _ => rfl
  have hDetail := (answer_follows_rules (r := small .staged "f") (m := ⟨none, ⟨0, 0, []⟩⟩) rfl
    hKnown rfl (Inquiry.empty_truthful _) hAlone).1
  exact ⟨f, hKnown, hAlone, hDetail ▸ hReason, hTried⟩

end Request

end FlagDecision
