import FlagDecision.Evaluation.Flag
import FlagDecision.Proofs.RuleMoves

/-! What an evaluation comes to. It stops before the rules and touches nothing, or it
makes moves of the rules and at last records a flag that is on. Everything about runs
of evaluations is derived from these two cases. -/
namespace FlagDecision

open Step Storage StoredDecision

/-- The progress in which the rules begin. -/
def Memory.progress (m : Memory) : Progress := { desk := ⟨m.cache, []⟩, storage := m.storage }

/-- The decision that is stored for a feature and a user. -/
def Memory.decision? (m : Memory) (featureKey userId : String) : Option StoredDecision :=
  m.storage.bind (·.decision? featureKey userId)

/-- The winner of a group that is stored for a user. -/
def Memory.groupWinner? (m : Memory) (groupId : Nat) (userId : String) : Option GroupMember :=
  (m.decision? (groupFeatureKey groupId) userId).bind (·.winner?)

theorem Memory.decision?_eq (m : Memory) (featureKey userId : String) :
    m.decision? featureKey userId =
      (recordOf m.storage (storageKey featureKey userId)).bind ofJson? :=
  Storage.decision?_eq m.storage featureKey userId

theorem Memory.groupWinner?_eq (m : Memory) (g : Nat) (userId : String) :
    m.groupWinner? g userId =
      ((recordOf m.storage (groupKey g userId)).bind ofJson?).bind winner? := by
  rw [groupWinner?, decision?_eq, groupKey]

/-- The stored rollout that a feature starts from, if the stage is one. -/
def RolloutStage.stored? : RolloutStage → Option Choice
  | stored choice => some choice
  | _ => .none

namespace Verdict

variable {v : Verdict}

/-- A flag is on exactly if the rollouts or an experiment chose a variation. -/
theorem isEnabled_iff :
    v.detail.result.isEnabled = true ↔ v.stage.choice?.isSome ∨ v.experiment.isSome := by
  obtain ⟨stage, experiment⟩ := v
  rcases experiment with _ | ⟨choice, path⟩
  · cases stage <;> simp [detail, RolloutStage.detail, RolloutStage.choice?, storedDetail,
      FlagResult.ofVariation, FlagResult.disabled]
  · cases path <;> simp [detail, FlagResult.ofVariation]

theorem mem_fresh {choice : Choice} (h : choice ∈ v.fresh) :
    v.stage = .passed choice ∨ v.experiment = some (choice, .allotted) := by
  obtain ⟨stage, experiment⟩ := v
  rcases List.mem_append.mp h with h | h
  · cases stage <;> simp_all [RolloutStage.passed?]
  · rcases experiment with _ | ⟨other, path⟩
    · simp [allotted?] at h
    · cases path <;> simp_all [allotted?]

end Verdict

namespace Evaluator

/-- What the rules come to by steps alone. -/
theorem verdict_eq (q : Inquiry) (f : Feature) (stored : Option StoredDecision) :
    verdict q f stored = do
      let stage ← rolloutStage q f stored
      match stage with
      | .closed => return { stage }
      | stage => return { stage, experiment := ← q.experimentDecision f f.experiments } :=
  rfl

theorem decide_eq (q : Inquiry) (f : Feature) (stored : Option StoredDecision) :
    decide q f stored = do
      let v ← verdict q f stored
      if v.detail.result.isEnabled then Inquiry.record (v.decision f q.user.id)
      return v :=
  rfl

/-- What deciding a feature comes to. The rules make moves, and a flag that is on is recorded
after them. -/
structure Decided (q : Inquiry) (f : Feature) (stored : Option StoredDecision) (p : Progress)
    (v : Verdict) (p' : Progress) : Prop where
  moved : ∃ p₁, (verdict q f stored).run p = (v, p₁) ∧ q.Moves [] p p₁ ∧
    (∀ choice ∈ v.fresh, q.Wins [] p₁ choice.1) ∧
    p' = if v.detail.result.isEnabled then Inquiry.recorded (v.decision f q.user.id) p₁ else p₁
  stored : v.stage.stored? = stored.bind (storedRollout? q.settings)
  rollout : ∀ c w, v.stage = .passed (c, w) → c ∈ f.rollouts ∧ w ∈ c.variations
  experiment : ∀ c w path, v.experiment = some ((c, w), path) → c ∈ f.experiments ∧ w ∈ c.variations

variable {q : Inquiry} {f : Feature} {stored : Option StoredDecision} {p : Progress}

/-- What the rules ensure of their verdict holds of the one that was decided. -/
theorem Decided.of_verdict {v : Verdict} {p' : Progress} (h : Decided q f stored p v p')
    {post : Verdict → Prop} (hPost : (verdict q f stored).Ensures p fun v _ => post v) :
    post v := by
  obtain ⟨p₁, hRun, -⟩ := h.moved
  rwa [Ensures, hRun] at hPost

theorem Decided.fresh_linked {v : Verdict} {p' : Progress} (h : Decided q f stored p v p')
    {choice : Choice} (hFresh : choice ∈ v.fresh) : choice.1 ∈ f.linked := by
  obtain ⟨c, w⟩ := choice
  rcases Verdict.mem_fresh hFresh with hPassed | hAllotted
  · exact List.mem_of_mem_filter (h.rollout c w hPassed).1
  · exact List.mem_of_mem_filter (h.experiment c w _ hAllotted).1

theorem rolloutStage_moves (hNew : p.rollouts.lookup f.key = none) :
    (rolloutStage q f stored).Ensures p fun stage p' =>
      q.Moves [] p p' ∧ stage.stored? = stored.bind (storedRollout? q.settings) ∧
        ∀ c w, stage = .passed (c, w) →
          c ∈ f.rollouts ∧ w ∈ c.variations ∧ q.Wins [] p' c := by
  rw [rolloutStage]
  split
  · rename_i choice hStored
    refine Ensures.modify_bind (Ensures.pure ⟨.remember _ _, ?_, by simp⟩)
    rw [hStored]
    rfl
  · rename_i hStored
    split
    · refine (Inquiry.rolloutDecision_moves (Inquiry.outside_follows q) f).bind
        fun choice p' h => ?_
      rcases choice with _ | ⟨c, w⟩
      · exact Ensures.pure ⟨h.1, hStored.symm, by simp⟩
      · refine Ensures.pure ⟨h.1, hStored.symm, fun d x hPassed => ?_⟩
        obtain ⟨rfl, rfl⟩ : c = d ∧ w = x := by simpa using hPassed
        obtain ⟨hMem, hAllot, hWins⟩ := h.2 hNew c w rfl
        exact ⟨hMem, Campaign.allot?_mem hAllot, hWins⟩
    · exact Ensures.pure ⟨.refl, hStored.symm, by simp⟩

/-- The rules of a feature make moves. Each fresh choice wins its group, and all choices are
campaigns of the feature. -/
theorem verdict_moves (q : Inquiry) (stored : Option StoredDecision)
    (hNew : p.rollouts.lookup f.key = none) :
    (verdict q f stored).Ensures p fun v p' =>
      q.Moves [] p p' ∧ (∀ choice ∈ v.fresh, q.Wins [] p' choice.1) ∧
        v.stage.stored? = stored.bind (storedRollout? q.settings) ∧
        (∀ c w, v.stage = .passed (c, w) → c ∈ f.rollouts ∧ w ∈ c.variations) ∧
        ∀ c w path, v.experiment = some ((c, w), path) → c ∈ f.experiments ∧ w ∈ c.variations := by
  rw [verdict_eq]
  refine (rolloutStage_moves hNew).bind fun stage p₁ hStage => ?_
  split
  · refine Ensures.pure ⟨hStage.1, ?_, hStage.2.1, by simp, by simp⟩
    simp [Verdict.fresh, Verdict.allotted?, RolloutStage.passed?]
  · refine (Inquiry.experimentDecision_moves f f.experiments).bind fun found p₂ hFound => ?_
    refine Ensures.pure ⟨hStage.1.trans hFound.1, fun choice hFresh => ?_, hStage.2.1, ?_, ?_⟩
    · rcases Verdict.mem_fresh hFresh with hPassed | hAllotted
      · exact hFound.1.wins_kept (hStage.2.2 _ _ hPassed).2.2
      · exact (hFound.2 _ _ _ hAllotted).2.2 rfl
    · exact fun c w hPassed => ⟨(hStage.2.2 c w hPassed).1, (hStage.2.2 c w hPassed).2.1⟩
    · exact fun c w path h => ⟨(hFound.2 c w path h).1, (hFound.2 c w path h).2.1⟩

theorem decide_decided (hNew : p.rollouts.lookup f.key = none) :
    (decide q f stored).Ensures p (Decided q f stored p) := by
  have hRun : (verdict q f stored).Ensures p fun v p₁ =>
      (verdict q f stored).run p = (v, p₁) := rfl
  refine hRun.bind fun v p₁ hRun => ?_
  have hMoved := verdict_moves q stored hNew
  rw [Ensures, hRun] at hMoved
  obtain ⟨hMoves, hWins, hStored, hRollout, hExperiment⟩ := hMoved
  have hDecided : Decided q f stored p v
      (if v.detail.result.isEnabled then Inquiry.recorded (v.decision f q.user.id) p₁ else p₁) :=
    ⟨⟨p₁, hRun, hMoves, hWins, rfl⟩, hStored, hRollout, hExperiment⟩
  dsimp only
  split
  · rename_i hOn
    exact Ensures.modify_bind (Ensures.pure (by simpa [hOn] using hDecided))
  · rename_i hOff
    exact Ensures.pure (by simpa [hOff] using hDecided)

end Evaluator

/-- A call for a flag: who is asked when, with which settings, for which feature and user. -/
structure Request where
  evaluator : Evaluator
  settings : Settings
  now : Nat
  featureKey : String
  user : UserContext

namespace Request

/-- A request of a user about whom nothing else is known. -/
def small (settings : Settings) (featureKey : String) : Request :=
  ⟨{}, settings, 0, featureKey, { id := "u" }⟩

/-- What the request is about. -/
def inquiry (r : Request) : Inquiry :=
  ⟨r.settings, r.user, r.evaluator.provider, r.evaluator.lists, r.now⟩

/-- What the request gives, and the memory after it. -/
def answer (r : Request) (m : Memory) : Outcome × Memory :=
  r.evaluator.evaluate r.settings r.now r.featureKey r.user m

/-- The impressions that are sent. -/
def impressions (r : Request) (v : Verdict) (f : Feature) : List Impression :=
  if r.evaluator.hasSink && r.evaluator.config.impressionsEnabled then v.impressions f r.user.id
  else []

/-- A request is refused, answered by a stored experiment, or decided by the rules. -/
inductive Answered (r : Request) (m : Memory) : Outcome × Memory → Prop where
  | refused (cause : FlagError)
      (reason : r.user.isBlank ∨ r.settings.feature? r.featureKey = none) :
      Answered r m ({ detail := ⟨.disabled, .error cause⟩ }, m)
  | stored {f : Feature} {choice : Choice} (named : r.user.isBlank = false)
      (known : r.settings.feature? r.featureKey = some f)
      (found : (m.decision? r.featureKey r.user.id).bind
        (Evaluator.storedExperiment? r.settings) = some choice) :
      Answered r m ({ detail := storedDetail choice }, m)
  | decided {f : Feature} {v : Verdict} {p' : Progress} (named : r.user.isBlank = false)
      (known : r.settings.feature? r.featureKey = some f)
      (fresh : (m.decision? r.featureKey r.user.id).bind
        (Evaluator.storedExperiment? r.settings) = none)
      (decided : Evaluator.Decided r.inquiry f (m.decision? r.featureKey r.user.id) m.progress v
        p') :
      Answered r m
        ({ detail := v.detail, verdict := some v, writes := p'.writes,
           impressions := r.impressions v f, listCalls := p'.desk.calls },
          ⟨p'.storage, p'.desk.cache⟩)

theorem key_eq {r : Request} {f : Feature} (h : r.settings.feature? r.featureKey = some f) :
    f.key = r.featureKey := by
  simpa using List.find?_some h

section Cases

variable {r : Request} {m : Memory} {f : Feature}

theorem storedDecision_eq (m : Memory) (hKnown : r.settings.feature? r.featureKey = some f) :
    r.inquiry.storedDecision? m.storage f.key = m.decision? r.featureKey r.user.id :=
  congrArg (m.decision? · r.user.id) (key_eq hKnown)

/-- A request is answered at once, or by what its feature is decided to be. -/
theorem answer_eq (r : Request) (m : Memory) :
    r.answer m =
      match Evaluator.opening r.inquiry m.storage r.featureKey with
      | .answered detail => ({ detail }, m)
      | .undecided f stored =>
        let (v, p) := (Evaluator.decide r.inquiry f stored).run m.progress
        ({ detail := v.detail, verdict := some v, writes := p.writes,
           impressions := r.impressions v f, listCalls := p.desk.calls },
          ⟨p.storage, p.desk.cache⟩) :=
  rfl

/-- A feature that the settings do not have is refused, whatever is remembered. -/
theorem answer_unknown (m : Memory) (hUnknown : r.settings.feature? r.featureKey = none) :
    r.answer m = ({ detail := ⟨.disabled,
      .error (if r.user.isBlank then .invalidContext else .featureNotFound)⟩ }, m) := by
  cases hBlank : r.user.isBlank with
  | true | false => simp [answer, Evaluator.evaluate, Evaluator.opening, hBlank, hUnknown]

theorem answer_stored {choice : Choice} (hNamed : r.user.isBlank = false)
    (hKnown : r.settings.feature? r.featureKey = some f)
    (hFound : (m.decision? r.featureKey r.user.id).bind
      (Evaluator.storedExperiment? r.settings) = some choice) :
    r.answer m = ({ detail := storedDetail choice }, m) := by
  have hStored := storedDecision_eq m hKnown
  rw [inquiry] at hStored
  simp [answer, Evaluator.evaluate, Evaluator.opening, hNamed, hKnown, hStored, hFound]

theorem answer_decided (hNamed : r.user.isBlank = false)
    (hKnown : r.settings.feature? r.featureKey = some f)
    (hFresh : (m.decision? r.featureKey r.user.id).bind
      (Evaluator.storedExperiment? r.settings) = none) :
    r.answer m =
      let (v, p) := (Evaluator.decide r.inquiry f (m.decision? r.featureKey r.user.id)).run
        m.progress
      ({ detail := v.detail, verdict := some v, writes := p.writes,
         impressions := r.impressions v f, listCalls := p.desk.calls },
        ⟨p.storage, p.desk.cache⟩) := by
  have hStored := storedDecision_eq m hKnown
  rw [inquiry] at hStored
  simp only [answer, Evaluator.evaluate, Evaluator.opening, hNamed, hKnown, hStored, hFresh]
  rfl

theorem answered (r : Request) (m : Memory) : r.Answered m (r.answer m) := by
  cases hNamed : r.user.isBlank with
  | true =>
      simp only [answer, Evaluator.evaluate, Evaluator.opening, hNamed]
      exact .refused _ (Or.inl hNamed)
  | false =>
      cases hKnown : r.settings.feature? r.featureKey with
      | none =>
          simp only [answer, Evaluator.evaluate, Evaluator.opening, hNamed, hKnown]
          exact .refused _ (Or.inr hKnown)
      | some f =>
          cases hFound : (m.decision? r.featureKey r.user.id).bind
              (Evaluator.storedExperiment? r.settings) with
          | some choice =>
              rw [answer_stored hNamed hKnown hFound]
              exact .stored hNamed hKnown hFound
          | none =>
              rw [answer_decided hNamed hKnown hFound]
              exact .decided hNamed hKnown hFound (Evaluator.decide_decided rfl)

end Cases

section Storage

variable {r : Request} {m : Memory} {answer : Outcome × Memory}

theorem Answered.works (h : r.Answered m answer) (hWorks : Works m.storage) :
    Works answer.2.storage := by
  cases h with
  | refused | stored => exact hWorks
  | decided _ _ _ decided =>
      obtain ⟨p₁, -, hMoves, -, rfl⟩ := decided.moved
      have hMoved : Works p₁.storage := hMoves.works hWorks
      dsimp only
      split
      · exact (Inquiry.recorded_works _ hMoved).1
      · exact hMoved

/-- Only the record of the feature and those of groups without stored winner change. -/
theorem Answered.recordOf_eq (h : r.Answered m answer) {key : String}
    (hOwn : key ≠ storageKey r.featureKey r.user.id)
    (hGroups : ∀ g, key = groupKey g r.user.id → m.groupWinner? g r.user.id ≠ none) :
    recordOf answer.2.storage key = recordOf m.storage key := by
  cases h with
  | refused | stored => rfl
  | decided _ known _ decided =>
      obtain ⟨p₁, -, hMoves, -, rfl⟩ := decided.moved
      have hMoved : recordOf p₁.storage key = recordOf m.storage key :=
        hMoves.recordOf_eq fun g hg => Or.inr (hGroups g hg)
      dsimp only
      split
      · rw [Inquiry.recordOf_recorded_of_ne _ _ (by simpa [Verdict.decision, key_eq known]), hMoved]
      · exact hMoved

end Storage

end Request

/-- A request with what came out and the memory that is left. -/
structure Turn where
  request : Request
  outcome : Outcome
  memory : Memory

namespace Request

/-- The turn of a request. -/
def turn (r : Request) (m : Memory) : Turn := ⟨r, (r.answer m).1, (r.answer m).2⟩

/-- The turns of requests one after the other. -/
def run : Memory → List Request → List Turn
  | _, [] => []
  | m, r :: rest => r.turn m :: run (r.answer m).2 rest

/-- A turn of a run begins with what the turns before it keep, and the rest is a run from the
memory that it leaves. -/
theorem run_reaches {m : Memory} {requests : List Request} {before after : List Turn} {turn : Turn}
    (hRun : run m requests = before ++ turn :: after) (inv : Memory → Prop) (hStart : inv m)
    (hKeep : ∀ r ∈ requests, ∀ m, inv m → r.turn m ∈ before → inv (r.answer m).2) :
    ∃ m' r rest, turn = r.turn m' ∧ after = run (r.answer m').2 rest ∧ inv m' ∧
      r ∈ requests ∧ ∀ r' ∈ rest, r' ∈ requests := by
  induction before generalizing m requests with
  | nil =>
      cases requests with
      | nil => simp [run] at hRun
      | cons r rest =>
          obtain ⟨rfl, rfl⟩ := List.cons.inj hRun
          exact ⟨m, r, rest, rfl, rfl, hStart, List.mem_cons_self,
            fun _ hr => List.mem_cons_of_mem _ hr⟩
  | cons earlier before ih =>
      cases requests with
      | nil => simp [run] at hRun
      | cons r requests =>
          obtain ⟨rfl, hRest⟩ := List.cons.inj hRun
          have hFirst := hKeep r List.mem_cons_self m hStart List.mem_cons_self
          obtain ⟨m', r', rest, hTurn, hAfter, hInv, hMem, hSub⟩ :=
            ih hRest hFirst fun r' hr' m' hInv hTurn =>
              hKeep r' (List.mem_cons_of_mem _ hr') m' hInv (List.mem_cons_of_mem _ hTurn)
          exact ⟨m', r', rest, hTurn, hAfter, hInv, List.mem_cons_of_mem _ hMem,
            fun r'' hr'' => List.mem_cons_of_mem _ (hSub r'' hr'')⟩

end Request

end FlagDecision
