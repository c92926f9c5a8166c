import FlagDecision.Proofs.Meaning
import FlagDecision.Proofs.RuleMoves

/-! Targeting does not depend on what is remembered. What a segment means is settled by
the user, the provider, the service and the features that have a stored decision,
whenever and for whichever feature it is asked. -/
namespace FlagDecision

namespace Segment

mutual

/-- The features that a tree asks about. -/
def featureIds : Segment → List Nat
  | conj children => allFeatureIds children
  | disj children => allFeatureIds children
  | neg child => child.featureIds
  | feature id _ => [id]
  | _ => []

/-- The features that some trees ask about. -/
def allFeatureIds : List Segment → List Nat
  | [] => []
  | s :: rest => s.featureIds ++ allFeatureIds rest

end

/-- Two settings of the check agree on the user, on what is answered about the user, and on whether
the features of some ids have a stored decision. The time and the feature that is checked may
differ. -/
structure Setting.Agrees (env env' : Setting) (ids : List Nat) : Prop where
  user : env.user = env'.user
  provider : env.provider = env'.provider
  listed : ∀ listId value, listed env listId value = listed env' listId value
  isStuck : ∀ id ∈ ids, env.isStuck? id = env'.isStuck? id

variable {env env' : Setting} {ids : List Nat} {attributes : Attributes}

namespace Setting.Agrees

theorem of_subset {ids' : List Nat} (h : env.Agrees env' ids) (hSub : ∀ id ∈ ids', id ∈ ids) :
    env.Agrees env' ids' :=
  ⟨h.user, h.provider, h.listed, fun id hId => h.isStuck id (hSub id hId)⟩

theorem customMeans_eq (h : env.Agrees env' ids) (name : String) (operand : Operand) :
    customMeans env attributes name operand = customMeans env' attributes name operand := by
  simp only [customMeans, h.listed]

theorem userMeans_eq (h : env.Agrees env' ids) (operand : Operand) :
    userMeans env attributes operand = userMeans env' attributes operand := by
  simp only [userMeans, h.listed, h.user]

theorem locationMatches_eq (h : env.Agrees env' ids) (query : List (LocationField × String)) :
    locationMatches env query = locationMatches env' query := by
  rw [locationMatches, locationMatches, h.provider, h.user]

theorem agentMatches_eq (h : env.Agrees env' ids) (query : List (AgentField × String)) :
    agentMatches env query = agentMatches env' query := by
  rw [agentMatches, agentMatches, h.provider, h.user]

end Setting.Agrees

mutual

/-- A segment means the same for settings of the check that agree on what the segment asks. -/
theorem meaning_congr (s : Segment) (h : env.Agrees env' s.featureIds) :
    meaning env attributes s = meaning env' attributes s := by
  match s with
  | conj children => exact allMean_congr children h
  | disj children => exact someMeans_congr children h
  | neg child => rw [meaning, meaning, meaning_congr child h]
  | customVariable name operand => exact h.customMeans_eq name operand
  | user operand => exact h.userMeans_eq operand
  | userAgent operand => rw [meaning, meaning, h.provider, h.user]
  | location field value => exact h.locationMatches_eq _
  | agent field value => exact h.agentMatches_eq _
  | device property operand => rw [meaning, meaning, h.provider, h.user]
  | feature id enabled => rw [meaning, meaning, h.isStuck id List.mem_cons_self]
  | invalid _ => rfl

theorem allMean_congr (children : List Segment) (h : env.Agrees env' (allFeatureIds children)) :
    allMean env attributes children = allMean env' attributes children := by
  match children with
  | [] => rfl
  | s :: rest =>
      rw [allMean, allMean,
        meaning_congr s (h.of_subset fun _ => List.mem_append_left _),
        allMean_congr rest (h.of_subset fun _ => List.mem_append_right _)]

theorem someMeans_congr (children : List Segment) (h : env.Agrees env' (allFeatureIds children)) :
    someMeans env attributes children = someMeans env' attributes children := by
  match children with
  | [] => rfl
  | s :: rest =>
      rw [someMeans, someMeans,
        meaning_congr s (h.of_subset fun _ => List.mem_append_left _),
        someMeans_congr rest (h.of_subset fun _ => List.mem_append_right _)]

end

section Exact

variable (env) {isStuck? : Nat → Option Bool}

mutual

/-- A tree is checked alike, list calls and all, where the features that it asks about have a
decision alike. -/
theorem holds_congr (s : Segment) (h : ∀ id ∈ s.featureIds, isStuck? id = env.isStuck? id) :
    holds { env with isStuck? } attributes s = holds env attributes s := by
  match s with
  | conj children =>
      rw [holds, holds]
      exact allHold_congr [] children h
  | disj children =>
      rw [holds, holds]
      split
      · rfl
      · exact anyHolds_congr children h
  | neg child => rw [holds, holds, holds_congr child h]
  | feature id enabled => simp only [holds, h id List.mem_cons_self]
  | customVariable .. | user .. | location .. | agent .. =>
      rw [holds, holds]
      rfl
  | userAgent .. | device .. | invalid .. => rw [holds, holds]

theorem allHold_congr (query : List (LocationField × String)) (children : List Segment)
    (h : ∀ id ∈ allFeatureIds children, isStuck? id = env.isStuck? id) :
    allHold { env with isStuck? } attributes query children =
      allHold env attributes query children := by
  match children with
  | [] =>
      rw [allHold, allHold]
      rfl
  | s :: rest =>
      have hRest := fun query => allHold_congr query rest fun id hId =>
        h id (List.mem_append_right _ hId)
      by_cases hPlace : ∃ field value, s = location field value
      · obtain ⟨field, value, rfl⟩ := hPlace
        rw [allHold, allHold, hRest]
      · rw [allHold_cons query rest hPlace, allHold_cons query rest hPlace, hRest,
          holds_congr s fun id hId => h id (List.mem_append_left _ hId)]

theorem anyHolds_congr (children : List Segment)
    (h : ∀ id ∈ allFeatureIds children, isStuck? id = env.isStuck? id) :
    anyHolds { env with isStuck? } attributes children = anyHolds env attributes children := by
  match children with
  | [] => rw [anyHolds, anyHolds]
  | s :: rest =>
      have hFirst := fun id hId => h id (List.mem_append_left _ hId)
      cases hFeature : s.asksFeature with
      | true =>
          cases s with
          | feature id enabled => simp only [anyHolds, hFirst id List.mem_cons_self]
          | _ => simp [asksFeature] at hFeature
      | false =>
          rw [anyHolds_cons rest hFeature, anyHolds_cons rest hFeature, holds_congr s hFirst,
            anyHolds_congr rest fun id hId => h id (List.mem_append_right _ hId)]

end

end Exact

end Segment

/-- The features that the own segment of a campaign asks about. -/
def Campaign.featureIds (c : Campaign) : List Nat :=
  c.preSegmentation.elim [] Segment.featureIds

namespace Inquiry

open Step

variable {q : Inquiry} {p : Progress} {storage storage' : Option Storage} {f f' : Feature}
  {c c' : Campaign}

/-- Whether a feature has a stored decision is the same in two storages, for the features of some
ids. -/
def StuckAlike (q : Inquiry) (storage storage' : Option Storage) (ids : List Nat) : Prop :=
  ∀ id ∈ ids, ∀ f, q.settings.featureById? id = some f →
    (q.storedDecision? storage f.key).isSome = (q.storedDecision? storage' f.key).isSome

/-- The own segment of a campaign holds, asked with an empty cache at the beginning of time. -/
def targets (q : Inquiry) (storage : Option Storage) (f : Feature) (c : Campaign) : Bool :=
  ((Segment.holdsOrAbsent { q.setting storage f with now := 0 } (q.withUserId c q.user.custom)
    c.preSegmentation).run ⟨⟨0, 0, []⟩, []⟩).1

theorem setting_agrees {now now' : Nat} {ids : List Nat} (h : q.StuckAlike storage storage' ids) :
    Segment.Setting.Agrees { q.setting storage f with now }
      { q.setting storage' f' with now := now' } ids := by
  refine ⟨rfl, rfl, fun _ _ => rfl, fun id hId => ?_⟩
  simp only [setting]
  cases hFeature : q.settings.featureById? id with
  | none => rfl
  | some other => simp [h id hId other hFeature]

theorem empty_truthful (lists : Option ListService) :
    ListCache.Truthful ⟨0, 0, []⟩ lists := by
  simp [ListCache.Truthful]

/-- What a segment means depends on the storage only by the features that it asks about. -/
theorem meaning_same {now now' : Nat} {attributes : Attributes} {s : Option Segment}
    (h : q.StuckAlike storage storage' (s.elim [] Segment.featureIds)) :
    s.all (Segment.meaning { q.setting storage f with now } attributes) =
      s.all (Segment.meaning { q.setting storage' f' with now := now' } attributes) := by
  cases s with
  | none => rfl
  | some s => exact Segment.meaning_congr s (setting_agrees h)

/-- Targeting is what the own segment means. -/
theorem targets_eq (q : Inquiry) (storage : Option Storage) (f : Feature) (c : Campaign) :
    q.targets storage f c = c.preSegmentation.all
      (Segment.meaning (q.setting storage f) (q.withUserId c q.user.custom)) :=
  (Segment.holdsOrAbsent_answers _ _ _ (empty_truthful _)).1.trans
    (meaning_same fun _ _ _ _ => rfl)

/-- Targeting is a matter of the own segment, and of whether user lists are enabled. -/
theorem targets_same (hSegment : c.preSegmentation = c'.preSegmentation)
    (hLists : c.isUserListEnabled = c'.isUserListEnabled)
    (h : q.StuckAlike storage storage' c.featureIds) :
    q.targets storage f c = q.targets storage' f' c' := by
  rw [targets_eq, targets_eq, withUserId, withUserId, ← hSegment, hLists]
  exact meaning_same h

/-- From a truthful desk, a segment is answered by what it means. -/
theorem holds_means (f : Feature) (attributes : Attributes) (s : Option Segment)
    (hDesk : p.desk.cache.Truthful q.lists) :
    (q.holds f attributes s).Ensures p fun answer p' =>
      answer = s.all (Segment.meaning (q.setting p.storage f) attributes) ∧
        ∃ desk : ListDesk, desk.cache.Truthful q.lists ∧ p' = { p with desk } :=
  have hAnswers := Segment.holdsOrAbsent_answers attributes s p.desk hDesk
  ⟨hAnswers.1, _, hAnswers.2, rfl⟩

theorem holds_truthful (f : Feature) (attributes : Attributes) (s : Option Segment)
    (hDesk : p.desk.cache.Truthful q.lists) :
    (q.holds f attributes s).Ensures p fun _ p' =>
      ∃ desk : ListDesk, desk.cache.Truthful q.lists ∧ p' = { p with desk } :=
  (holds_means f attributes s hDesk).imp fun _ _ h => h.2

/-- From a truthful desk, whitelisting leaves another truthful desk and all else as it is. -/
theorem whitelisting_truthful (f : Feature) (c : Campaign)
    (hDesk : p.desk.cache.Truthful q.lists) :
    (q.whitelisting f c).Ensures p fun _ p' =>
      ∃ desk : ListDesk, desk.cache.Truthful q.lists ∧ p' = { p with desk } := by
  rw [whitelisting]
  split
  · refine (Ensures.filterM
      (fun p' => ∃ desk : ListDesk, desk.cache.Truthful q.lists ∧ p' = { p with desk }) _
      (fun v p' h => ?_) ⟨p.desk, hDesk, rfl⟩).bind fun candidates p' h => Ensures.pure h.1
    obtain ⟨desk, hDesk, rfl⟩ := h
    exact holds_truthful f _ _ hDesk
  · exact Ensures.pure ⟨p.desk, hDesk, rfl⟩

/-- From a truthful desk, the check of the own segment answers as targeting does. -/
theorem preSegmentation_targets (f : Feature) (c : Campaign)
    (hDesk : p.desk.cache.Truthful q.lists)
    (h : q.StuckAlike p.storage storage c.featureIds) :
    (q.preSegmentation f c).Ensures p fun answer p' => answer = q.targets storage f c ∧
      ∃ desk : ListDesk, desk.cache.Truthful q.lists ∧ p' = { p with desk } := by
  refine (holds_means f _ _ hDesk).imp fun answer p' hMeans => ⟨?_, hMeans.2⟩
  rw [hMeans.1, targets_eq]
  exact meaning_same h

end Inquiry

end FlagDecision
