import FlagDecision.Config
import FlagDecision.Evaluation.Rules

/-!
Evaluating a flag: what is stored comes first, then the rollouts, then the experiments; the decision
is recorded and impressions are sent. Main definition: `Evaluator.evaluate`.

What a feature is decided by is written for any monad that takes steps of an evaluation and does
something with impressions as they come up. The evaluator goes by steps alone and lists at the end
what its verdict tells.
-/

namespace FlagDecision

/-- What a flag turned out to be. -/
structure FlagResult where
  isEnabled : Bool := false
  variableList : List Variable := []

namespace FlagResult

/-- Switched off, without variables. -/
def disabled : FlagResult := {}

/-- Switched on with the variables of a variation. -/
def ofVariation (v : Variation) : FlagResult := ⟨true, v.variableList⟩

/-- The value of the variable of a key. -/
def valueOf? (r : FlagResult) (key : String) : Option Json :=
  (r.variableList.find? (·.key == key)).map (·.value)

end FlagResult

/-- Why a flag could not be evaluated. -/
inductive FlagError where
  | featureNotFound
  | invalidContext
  deriving DecidableEq, Repr

/-- Why a flag turned out as it did. -/
inductive Reason where
  | storedVariation (campaignKey : String) (variationId : Nat)
  | whitelisted (campaignId variationId : Nat)
  | rollout (campaignId variationId : Nat)
  | experiment (campaignId variationId : Nat)
  | rolloutNotPassed
  | noExperimentMatched
  | error (cause : FlagError)
  deriving DecidableEq, Repr

/-- A result with its reason. -/
structure Detail where
  result : FlagResult
  reason : Reason

/-- What an impression tells about. -/
inductive ImpressionKind where
  | rollout
  | experiment
  | whitelisted
  | impact
  deriving DecidableEq, Repr

/-- A decision as the host reports it. -/
structure Impression where
  featureKey : String
  campaignId : Nat
  variationId : Nat
  userId : String
  kind : ImpressionKind
  deriving DecidableEq, Repr

/-- An evaluator: whom it asks, whether somebody takes impressions, and how it is tuned. -/
structure Evaluator where
  provider : AttributeProvider := .ofUser
  lists : Option ListService := none
  hasSink : Bool := false
  config : Config := {}

/-- What stays between evaluations: the storage, if there is one, and the cache of list answers. -/
structure Memory where
  storage : Option Storage
  cache : ListCache

/-- How far the rollouts bring a user. -/
inductive RolloutStage where
  | none
  | stored (choice : Choice)
  | passed (choice : Choice)
  | closed

/-- What the rules of a feature came to: how far the rollouts brought the user, and the experiment
shown after them. -/
structure Verdict where
  stage : RolloutStage
  experiment : Option (Choice × Inquiry.Path) := none

/-- What a stored variation gives. -/
def storedDetail (choice : Choice) : Detail :=
  ⟨.ofVariation choice.2, .storedVariation choice.1.key choice.2.id⟩

namespace RolloutStage

/-- The choice of the rollouts, if there is one. -/
def choice? : RolloutStage → Option Choice
  | stored choice | passed choice => some choice
  | none | closed => .none

/-- The choice of rollouts that were passed just now. -/
def passed? : RolloutStage → Option Choice
  | passed choice => some choice
  | _ => .none

/-- What the rollouts alone give. -/
def detail : RolloutStage → Detail
  | stored choice => storedDetail choice
  | passed (c, v) => ⟨.ofVariation v, .rollout c.id v.id⟩
  | none => ⟨.disabled, .noExperimentMatched⟩
  | closed => ⟨.disabled, .rolloutNotPassed⟩

end RolloutStage

namespace Verdict

/-- What the flag turned out to be: an experiment comes before the rollouts. -/
def detail (v : Verdict) : Detail :=
  match v.experiment with
  | some ((c, w), .whitelisted) => ⟨.ofVariation w, .whitelisted c.id w.id⟩
  | some ((c, w), .allotted) => ⟨.ofVariation w, .experiment c.id w.id⟩
  | none => v.stage.detail

/-- The experiment, if its traffic let the user in. -/
def allotted? (v : Verdict) : Option Choice :=
  match v.experiment with
  | some (choice, .allotted) => some choice
  | _ => none

/-- What was decided by targeting and traffic just now; stored rollouts and whitelisting are not. -/
def fresh (v : Verdict) : List Choice := v.stage.passed?.toList ++ v.allotted?.toList

/-- The decision to store: the rollout and the experiment of the user. -/
def decision (v : Verdict) (f : Feature) (userId : String) : StoredDecision where
  featureKey := f.key
  userId
  rolloutId := v.stage.choice?.map (·.1.id)
  rolloutKey := v.stage.choice?.map (·.1.key)
  rolloutVariationId := v.stage.choice?.map (·.2.id)
  experimentId := v.experiment.map (·.1.1.id)
  experimentKey := v.experiment.map (·.1.1.key)
  experimentVariationId := v.experiment.map (·.1.2.id)

def impression (f : Feature) (userId : String) (kind : ImpressionKind) (choice : Choice) :
    Impression :=
  ⟨f.key, choice.1.id, choice.2.id, userId, kind⟩

def rolloutImpressions (v : Verdict) (f : Feature) (userId : String) : List Impression :=
  v.stage.passed?.toList.map (impression f userId .rollout)

def experimentImpressions (v : Verdict) (f : Feature) (userId : String) : List Impression :=
  match v.experiment with
  | some (choice, .whitelisted) => [impression f userId .whitelisted choice]
  | some (choice, .allotted) => [impression f userId .experiment choice]
  | none => []

/-- The impression of the impact campaign, if the feature has one: variation 2 where the flag is on,
1 where it is off. -/
def impact (f : Feature) (userId : String) (isEnabled : Bool) : List Impression :=
  (f.impactCampaign.map fun campaign =>
    ⟨f.key, campaign.campaignId, if isEnabled then 2 else 1, userId, .impact⟩).toList

/-- What is reported: rollouts passed just now, the experiment, and the impact. -/
def impressions (v : Verdict) (f : Feature) (userId : String) : List Impression :=
  v.rolloutImpressions f userId ++ v.experimentImpressions f userId ++
    impact f userId v.detail.result.isEnabled

end Verdict

/-- All that an evaluation does and says, with what the rules came to where they were asked. -/
structure Outcome where
  detail : Detail
  verdict : Option Verdict := none
  writes : List (String × Json) := []
  impressions : List Impression := []
  listCalls : List ListCall := []

/-- What an evaluation decided by targeting and traffic. -/
def Outcome.fresh (o : Outcome) : List Choice := o.verdict.elim [] Verdict.fresh

namespace Evaluator

/-- The memory of a new evaluator. -/
def freshMemory (e : Evaluator) (storage : Option Storage) : Memory :=
  ⟨storage, ⟨e.config.listCacheSeconds * 1000, e.config.listCacheCapacity, []⟩⟩

/-- The stored experiment of a decision, as long as the settings still have it. -/
def storedExperiment? (s : Settings) (d : StoredDecision) : Option Choice := do
  let key ← d.experimentKey
  let variationId ← d.experimentVariationId
  s.variationByKey? key variationId

/-- The stored rollout of a decision, as long as the settings still have it. -/
def storedRollout? (s : Settings) (d : StoredDecision) : Option Choice :=
  if d.hasRollout then do
    let key ← d.rolloutKey
    let variationId ← d.rolloutVariationId
    s.variationByKey? key variationId
  else none

/-- The rollouts of a feature: a stored one counts as decided, otherwise they are tried. -/
def rolloutStage (q : Inquiry) (f : Feature) (stored : Option StoredDecision) :
    Step RolloutStage :=
  match stored.bind (storedRollout? q.settings) with
  | some choice => do
    Inquiry.remember f.key (some choice)
    return .stored choice
  | none =>
    if f.hasRollout then do
      match ← q.rolloutDecision q.outside f with
      | some choice => return .passed choice
      | none => return .closed
    else return .none

section Telling

variable {m : Type → Type} [Monad m] [MonadLiftT Step m] (tell : List Impression → m Unit)

/-- What the rules of a feature come to. Closed rollouts end it. -/
def verdictTelling (q : Inquiry) (f : Feature) (stored : Option StoredDecision) : m Verdict := do
  let stage ← rolloutStage q f stored
  let begun : Verdict := { stage }
  tell (begun.rolloutImpressions f q.user.id)
  match stage with
  | .closed => return begun
  | stage =>
    let v : Verdict := { stage, experiment := ← q.experimentDecision f f.experiments }
    tell (v.experimentImpressions f q.user.id)
    return v

/-- Decide a feature without stored experiment. A flag that is on is recorded. -/
def decideTelling (q : Inquiry) (f : Feature) (stored : Option StoredDecision) : m Verdict := do
  let v ← verdictTelling tell q f stored
  if v.detail.result.isEnabled then Inquiry.record (v.decision f q.user.id)
  tell (Verdict.impact f q.user.id v.detail.result.isEnabled)
  return v

end Telling

/-- Nothing is done with impressions as they come up. -/
def silent (_ : List Impression) : Step Unit := return

def verdict (q : Inquiry) (f : Feature) (stored : Option StoredDecision) : Step Verdict :=
  verdictTelling silent q f stored

def decide (q : Inquiry) (f : Feature) (stored : Option StoredDecision) : Step Verdict :=
  decideTelling silent q f stored

/-- How an evaluation begins: it is answered at once, or a feature is to be decided. -/
inductive Opening where
  | answered (detail : Detail)
  | undecided (f : Feature) (stored : Option StoredDecision)

/-- What is known before the rules are asked. A stored experiment answers at once. -/
def opening (q : Inquiry) (storage : Option Storage) (featureKey : String) : Opening :=
  if q.user.isBlank then .answered ⟨.disabled, .error .invalidContext⟩
  else
    match q.settings.feature? featureKey with
    | none => .answered ⟨.disabled, .error .featureNotFound⟩
    | some f =>
      let stored := q.storedDecision? storage f.key
      match stored.bind (storedExperiment? q.settings) with
      | some choice => .answered (storedDetail choice)
      | none => .undecided f stored

/-- Evaluate a flag for a user at the instant `now`, which only the cache of list answers sees. -/
def evaluate (e : Evaluator) (settings : Settings) (now : Nat) (featureKey : String)
    (user : UserContext) (m : Memory) : Outcome × Memory :=
  let q : Inquiry := ⟨settings, user, e.provider, e.lists, now⟩
  match opening q m.storage featureKey with
  | .answered detail => ({ detail }, m)
  | .undecided f stored =>
    let (verdict, p) := (decide q f stored).run { desk := ⟨m.cache, []⟩, storage := m.storage }
    ({ detail := verdict.detail
       verdict := some verdict
       writes := p.writes
       impressions :=
         if e.hasSink && e.config.impressionsEnabled then verdict.impressions f user.id else []
       listCalls := p.desk.calls },
      ⟨p.storage, p.desk.cache⟩)

end Evaluator

end FlagDecision
