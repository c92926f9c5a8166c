import FlagDecision.Allotment
import FlagDecision.GroupWinner
import FlagDecision.Hash.NameId
import FlagDecision.Segment.Evaluation
import FlagDecision.Store.Storage

/-!
The rules of a feature for one user: rollouts, experiments with whitelisting, and mutually exclusive
groups. The winner of a group is looked for among the campaigns of all features, whose own rollouts
may belong to further groups; a group that is already being resolved counts as no group there, so
the search ends.

A whole evaluation is taken at one instant. All that the instant can decide is whether an answer of
a list service is still kept or the service is called again, and as a service answers the same
question alike at any time, so does the cache that keeps its answers.

The rules that ask for winners of groups are written for any monad that takes steps of an
evaluation. It keeps in its own way which groups are being resolved; an evaluation goes by steps
alone and hands them down.
-/

namespace FlagDecision

/-- What an evaluation is about and whom it asks. -/
structure Inquiry where
  settings : Settings
  user : UserContext
  provider : AttributeProvider
  lists : Option ListService
  now : Nat

/-- What changes while a flag is evaluated: the cache and calls of list services, the storage and
what was written to it, the rollout decisions made and the winners of groups found. -/
structure Progress where
  desk : ListDesk
  storage : Option Storage
  writes : List (String × Json) := []
  rollouts : Table String (Option (Nat × Nat)) := []
  winners : Table Nat (Option GroupMember) := []

/-- The winner of a group, or that there is none, is known. -/
def Progress.knowing (p : Progress) (groupId : Nat) (winner : Option GroupMember) : Progress :=
  { p with winners := (groupId, winner) :: p.winners }

/-- A step of an evaluation. -/
abbrev Step (α : Type) : Type := StateM Progress α

/-- A campaign and one of its variations. -/
abbrev Choice : Type := Campaign × Variation

/-- The id under which a user is in user lists: a name in the namespace of the account, written as
32 hexadecimal digits. Otherwise it is the id itself. -/
def bucketingUserId (accountId : Nat) (userId : String) (isUserListEnabled : Bool) : String :=
  if isUserListEnabled then
    let root := NameId.ofName NameId.webAddresses "https://vwo.com"
    NameId.hexText (NameId.ofName (NameId.ofName root (toString accountId)) userId)
  else userId

namespace Inquiry

/-- The decision stored for the user and a feature, or whatever stands in its place. -/
def storedDecision? (q : Inquiry) (storage : Option Storage) (featureKey : String) :
    Option StoredDecision :=
  storage.bind (·.decision? featureKey q.user.id)

/-- The winner of a group stored for the user, if there is one. -/
def storedWinner? (q : Inquiry) (storage : Option Storage) (groupId : Nat) : Option GroupMember :=
  (q.storedDecision? storage (StoredDecision.groupFeatureKey groupId)).bind (·.winner?)

/-- The progress with a decision of the user recorded; a storage that refuses is left as it is. -/
def recorded (d : StoredDecision) (p : Progress) : Progress :=
  let key := StoredDecision.storageKey d.featureKey d.userId
  match p.storage.bind (·.set? key d.toJson) with
  | some storage => { p with storage := some storage, writes := p.writes ++ [(key, d.toJson)] }
  | none => p

/-- Record a decision of the user. -/
def record (d : StoredDecision) : Step Unit := modify (recorded d)

/-- What the segments of a feature are checked against. -/
def setting (q : Inquiry) (storage : Option Storage) (f : Feature) : Segment.Setting where
  featureKey := f.key
  user := q.user
  provider := q.provider
  lists := q.lists
  isStuck? id := (q.settings.featureById? id).map fun other =>
    (q.storedDecision? storage other.key).isSome
  now := q.now

/-- The attributes with the id under which the user is in the lists of a campaign. -/
def withUserId (q : Inquiry) (c : Campaign) (attributes : Attributes) : Attributes :=
  attributes.put userIdAttribute
    (.string (bucketingUserId q.settings.accountId q.user.id c.isUserListEnabled))

/-- A segment of a feature holds, for some attributes. -/
def holds (q : Inquiry) (f : Feature) (attributes : Attributes) (s : Option Segment) : Step Bool :=
  fun p =>
    let (answer, desk) := (Segment.holdsOrAbsent (q.setting p.storage f) attributes s).run p.desk
    (answer, { p with desk })

/-- The own segment of a campaign holds. -/
def preSegmentation (q : Inquiry) (f : Feature) (c : Campaign) : Step Bool :=
  q.holds f (q.withUserId c q.user.custom) c.preSegmentation

/-- The winner of a group is known from here on. -/
def know (groupId : Nat) (winner : Option GroupMember) : Step Unit :=
  modify (·.knowing groupId winner)

/-- The groups whose winners are being looked for, and how to look for the winner of another. -/
structure Guard (m : Type → Type) where
  busy : m (List Nat)
  resolve : Nat → m (Option GroupMember)

section Search

variable {m : Type → Type} [Monad m] [MonadLiftT Step m]

/-- A campaign of a group may be shown: it is the winner of the group. The winner is known in this
evaluation, stored, or looked for if the own segment of the campaign holds. While the group is being
resolved, only the own segment counts. -/
def isWinner (q : Inquiry) (guard : Guard m) (f : Feature) (c : Campaign) (groupId : Nat) :
    m Bool := do
  let member := c.groupMember
  let p ← (get : Step Progress)
  match p.winners.lookup groupId with
  | some winner => return winner == some member
  | none =>
    if (← guard.busy).contains groupId then q.preSegmentation f c
    else
      match q.storedWinner? p.storage groupId with
      | some winner =>
        know groupId (some winner)
        return winner == member
      | none =>
        if ← q.preSegmentation f c then
          let winner ← guard.resolve groupId
          know groupId winner
          return winner == some member
        else return false

/-- A campaign passes what comes before its traffic: its group, or else its own segment. -/
def passes (q : Inquiry) (guard : Guard m) (f : Feature) (c : Campaign) : m Bool :=
  match q.settings.groupOf? c.groupMember with
  | some groupId => q.isWinner guard f c groupId
  | none => q.preSegmentation f c

/-- The first of some campaigns that passes. -/
def firstPassing (q : Inquiry) (guard : Guard m) (f : Feature) :
    List Campaign → m (Option Campaign)
  | [] => return none
  | c :: rest => do
    if ← q.passes guard f c then return some c
    else q.firstPassing guard f rest

end Search

/-- A rollout decision found again by its ids: among the rollouts of the feature, or else in the
settings. -/
def remembered? (q : Inquiry) (f : Feature) (campaignId variationId : Nat) : Option Choice :=
  let of (c : Option Campaign) : Option Choice := do
    let c ← c
    let v ← c.variation? variationId
    return (c, v)
  of (f.rollouts.find? (·.id == campaignId)) <|> of (q.settings.campaign? campaignId)

def remember (featureKey : String) (choice : Option Choice) : Step Unit := modify fun p =>
  { p with rollouts := (featureKey, choice.map fun (c, v) => (c.id, v.id)) :: p.rollouts }

section Search

variable {m : Type → Type} [Monad m] [MonadLiftT Step m]

/-- The rollout that lets the user through. Only the first rollout that passes is considered, and
the user has to be in its traffic. One evaluation decides once. -/
def rolloutDecision (q : Inquiry) (guard : Guard m) (f : Feature) : m (Option Choice) := do
  let p ← (get : Step Progress)
  match p.rollouts.lookup f.key with
  | some decided =>
    return decided.bind fun (campaignId, variationId) => q.remembered? f campaignId variationId
  | none =>
    let passing ← q.firstPassing guard f f.rollouts
    let choice := passing.bind fun c =>
      (c.allot? q.settings.accountId q.user.id).map (c, ·)
    remember f.key choice
    return choice

/-- The rollouts of a feature keep the user out. A feature without rollouts keeps nobody out. -/
def isClosed (q : Inquiry) (guard : Guard m) (f : Feature) : m Bool :=
  if f.hasRollout then do return (← q.rolloutDecision guard f).isNone
  else return false

/-- Those listed campaigns of a feature that compete: rollouts always, experiments only where the
rollouts of the feature let the user through. -/
def competitors (q : Inquiry) (guard : Guard m) (f : Feature) (listed : List Campaign) :
    m (List Campaign) :=
  let rollouts := listed.filter (·.kind == .rollout)
  let experiments := listed.filter (·.kind != .rollout)
  if experiments.isEmpty then return rollouts
  else do
    if ← q.isClosed guard f then return rollouts
    else return rollouts ++ experiments

end Search

/-- The stored decision of a feature names the campaign and one of its variations, in the part for
its kind. -/
def isStoredFor (d : StoredDecision) (c : Campaign) : Bool :=
  let (key, variationId) :=
    if c.kind == .rollout then (d.rolloutKey, d.rolloutVariationId)
    else (d.experimentKey, d.experimentVariationId)
  key == some c.key && variationId.any fun id => (c.variation? id).isSome

/-- The campaigns that compete for a group: those stored for the user, and those whose own segment
and traffic let the user in. -/
structure Contest where
  stored : List Campaign := []
  eligible : List Campaign := []

/-- Those among whom the winner is picked: who is stored for the user comes before all others. -/
def Contest.candidates (contest : Contest) : List Campaign :=
  if contest.stored.isEmpty then contest.eligible else contest.stored

/-- Some campaigns of a feature enter the contest. -/
def enter (q : Inquiry) (f : Feature) (stored : Option StoredDecision) :
    Contest → List Campaign → Step Contest
  | contest, [] => return contest
  | contest, c :: rest => do
    if stored.any (isStoredFor · c) then
      q.enter f stored { contest with stored := contest.stored ++ [c] } rest
    else if (← q.preSegmentation f c) && c.isMember q.user.id then
      q.enter f stored { contest with eligible := contest.eligible ++ [c] } rest
    else q.enter f stored contest rest

/-- The contest for a group over some features. -/
def contest {m : Type → Type} [Monad m] [MonadLiftT Step m] (q : Inquiry) (guard : Guard m)
    (g : Group) : Contest → List Feature → m Contest
  | done, [] => return done
  | done, f :: rest => do
    let listed := f.linked.filter g.contains
    if listed.isEmpty then q.contest guard g done rest
    else
      let candidates ← q.competitors guard f listed
      let p ← (get : Step Progress)
      let done ← q.enter f (q.storedDecision? p.storage f.key) done candidates
      q.contest guard g done rest

/-- The record that names the winner of a group. -/
def winnerRecord (q : Inquiry) (groupId : Nat) (c : Campaign) : StoredDecision where
  featureKey := StoredDecision.groupFeatureKey groupId
  userId := q.user.id
  experimentId := some c.id
  experimentKey := some c.key
  experimentVariationId := c.groupMember.variationId

/-- Pick the winner of a group among those who competed for it, and record it. -/
def elect (q : Inquiry) (groupId : Nat) (g : Group) (found : Contest) :
    Step (Option GroupMember) :=
  match g.winner? groupId found.candidates q.user.id with
  | none => return none
  | some c => do
    record (q.winnerRecord groupId c)
    return some c.groupMember

/-- The winner of a group after its contest. A group that is not defined has none. -/
def winnerOf {m : Type → Type} [Monad m] [MonadLiftT Step m] (q : Inquiry)
    (compete : Group → m Contest) (groupId : Nat) : m (Option GroupMember) :=
  match q.settings.group? groupId with
  | none => return none
  | some g => do
    let found ← compete g
    q.elect groupId g found

/-- Look for the winner of a group and record it. The groups in `busy` are being resolved around
this one; each further level takes one more defined group, so `depth` levels suffice where it
exceeds the number of defined groups that are not busy. -/
def resolveGroup (q : Inquiry) : Nat → List Nat → Nat → Step (Option GroupMember)
  | 0, _, _ => return none
  | depth + 1, busy, groupId =>
    let guard : Guard Step := ⟨pure (groupId :: busy), q.resolveGroup depth (groupId :: busy)⟩
    q.winnerOf (fun g => q.contest guard g {} q.settings.features) groupId

/-- The guard outside all groups. -/
def outside (q : Inquiry) : Guard Step :=
  ⟨pure [], q.resolveGroup (q.settings.groups.length + 1) []⟩

/-- The variation for which the user is whitelisted, where the campaign allows it: by the
variations' own segments, for the targeting attributes. -/
def whitelisting (q : Inquiry) (f : Feature) (c : Campaign) : Step (Option Variation) :=
  if c.isForcedVariationEnabled then do
    let attributes := q.withUserId c q.user.targeting
    let candidates ← (c.variations.filter (·.segments.isSome)).filterM fun v =>
      q.holds f attributes v.segments
    return c.whitelisted? candidates q.user.id
  else return none

/-- How an experiment was decided. -/
inductive Path where
  | whitelisted
  | allotted
  deriving DecidableEq, Repr

/-- The experiment that the user sees. Campaigns are taken in the order of the rules; whitelisting
decides at once, and the first campaign that passes is the only one whose traffic is tried. -/
def experimentDecision (q : Inquiry) (f : Feature) : List Campaign → Step (Option (Choice × Path))
  | [] => return none
  | c :: rest => do
    match ← q.whitelisting f c with
    | some v => return some ((c, v), .whitelisted)
    | none =>
      if ← q.passes q.outside f c then
        return (c.allot? q.settings.accountId q.user.id).map fun v => ((c, v), .allotted)
      else q.experimentDecision f rest

end Inquiry

end FlagDecision
