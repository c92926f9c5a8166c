import FlagDecision.Segment.Evaluation
import Mathlib.Data.List.Basic

/-! The plain meaning of segments. A cache that holds only answers of the list service
gives what the service would give, so every list is as good as asked anew. Conditions
that are asked together, or not asked at all because the answer is known, are then
answered as if each of them was asked on its own. -/
namespace FlagDecision

/-- The elements before the first one that is hit, and that one. -/
def upTo {α : Type} (hit : α → Bool) : List α → List α
  | [] => []
  | a :: rest => a :: if hit a then [] else upTo hit rest

theorem mem_of_mem_upTo {α : Type} {hit : α → Bool} {as : List α} {a : α} (h : a ∈ upTo hit as) :
    a ∈ as := by
  induction as with
  | nil => exact h
  | cons b rest ih =>
      rw [upTo] at h
      rcases List.mem_cons.mp h with rfl | hRest
      · exact List.mem_cons_self
      · split at hRest
        · simp at hRest
        · exact List.mem_cons_of_mem _ (ih hRest)

namespace ListCache

/-- Every answer kept is the answer of the service. -/
def Truthful (c : ListCache) (lists : Option ListService) : Prop :=
  ∀ question answer, (question, answer) ∈ c.entries → ∃ service, lists = some service ∧
    service question.listId question.value question.userId = .ok answer.member

variable {c : ListCache} {lists : Option ListService}

theorem Truthful.of_subset {c' : ListCache} (h : c.Truthful lists)
    (hSub : ∀ entry ∈ c'.entries, entry ∈ c.entries) : c'.Truthful lists :=
  fun question answer hEntry => h question answer (hSub _ hEntry)

theorem Truthful.erase (h : c.Truthful lists) (question : ListQuestion) :
    (c.erase question).Truthful lists :=
  h.of_subset fun _ => List.mem_of_mem_filter

theorem Truthful.get (h : c.Truthful lists) (question : ListQuestion) (now : Nat) :
    (c.get question now).2.Truthful lists ∧ ∀ member, (c.get question now).1 = some member →
      ∃ service, lists = some service ∧
        service question.listId question.value question.userId = .ok member := by
  rw [ListCache.get]
  split
  · rename_i answer hFound
    split
    · refine ⟨h, fun member hMember => ?_⟩
      obtain rfl := Option.some.inj hMember
      obtain ⟨before, after, hEntries, -⟩ := List.lookup_eq_some_iff.mp hFound
      exact h question answer (by simp [hEntries])
    · exact ⟨h.erase question, by simp⟩
  · exact ⟨h, by simp⟩

theorem Truthful.insert (h : c.Truthful lists) (question : ListQuestion) (now : Nat)
    {service : ListService} {member : Bool}
    (hLists : lists = some service)
    (hAnswer : service question.listId question.value question.userId = .ok member) :
    (c.insert question member now).Truthful lists := by
  have hRoom : (c.makeRoom now).Truthful lists := by
    refine h.of_subset fun entry hEntry => ?_
    rw [makeRoom] at hEntry
    dsimp only at hEntry
    split at hEntry
    · exact List.mem_of_mem_filter hEntry
    · exact List.mem_of_mem_filter (List.mem_of_mem_drop hEntry)
  have hAdd : ∀ c' : ListCache, c'.Truthful lists →
      Truthful { c' with entries := c'.entries ++ [(question, ⟨member, now⟩)] } lists := by
    intro c' h' question' answer' hEntry
    rcases List.mem_append.mp hEntry with hOld | hNew
    · exact h' question' answer' hOld
    · obtain ⟨rfl, rfl⟩ : question' = question ∧ answer' = ⟨member, now⟩ := by simpa using hNew
      exact ⟨service, hLists, hAnswer⟩
  rw [ListCache.insert]
  split
  · exact h
  · refine hAdd _ (Truthful.erase ?_ question)
    split
    · exact hRoom
    · exact h

end ListCache

/-- A question has an answer: every truthful desk gives it, and stays truthful. -/
def Answers (lists : Option ListService) (x : StateM ListDesk Bool) (answer : Bool) : Prop :=
  ∀ desk : ListDesk, desk.cache.Truthful lists →
    (x.run desk).1 = answer ∧ (x.run desk).2.cache.Truthful lists

namespace Answers

variable {lists : Option ListService} {x : StateM ListDesk Bool} {answer : Bool}

theorem pure (answer : Bool) : Answers lists (Pure.pure answer) answer :=
  fun _ hDesk => ⟨rfl, hDesk⟩

theorem bind {f : Bool → StateM ListDesk Bool} {answer' : Bool} (hx : Answers lists x answer)
    (hf : Answers lists (f answer) answer') : Answers lists (x >>= f) answer' := by
  intro desk hDesk
  obtain ⟨hAnswer, hLeft⟩ := hx desk hDesk
  have hRun : (x >>= f).run desk = (f answer).run (x.run desk).2 := by
    rw [← hAnswer]
    rfl
  rw [hRun]
  exact hf _ hLeft

/-- One question after another, where the second is asked only if the first leaves it open. -/
theorem and_then {y : StateM ListDesk Bool} {answer' : Bool} (hx : Answers lists x answer)
    (hy : Answers lists y answer') :
    Answers lists (do if ← x then y else return false) (answer && answer') := by
  refine hx.bind ?_
  cases answer with
  | true => exact hy
  | false => exact .pure false

theorem or_else {y : StateM ListDesk Bool} {answer' : Bool} (hx : Answers lists x answer)
    (hy : Answers lists y answer') :
    Answers lists (do if ← x then return true else y) (answer || answer') := by
  refine hx.bind ?_
  cases answer with
  | true => exact .pure true
  | false => exact hy

end Answers

namespace Segment

/-- The service says that a value is in a list. A service that fails or is not there does not. -/
def listed (env : Setting) (listId value : String) : Bool :=
  (env.lists.bind fun service => (service listId value env.user.id).toOption).getD false

/-- The condition on a custom variable, with its list asked anew. -/
def customMeans (env : Setting) (attributes : Attributes) (name : String) (operand : Operand) :
    Bool :=
  (attributes.lookup name).any fun value =>
    match operand with
    | .inList listId => listed env listId value.operandText
    | operand => operand.matchesText value.operandText

/-- The condition on the id of the user, with its list asked anew. -/
def userMeans (env : Setting) (attributes : Attributes) (operand : Operand) : Bool :=
  let id := ((attributes.lookup userIdAttribute).bind Attribute.asText?).getD env.user.id
  match operand with
  | .inList listId => listed env listId id
  | .equals ids => (Text.splitAll ',' ids.toList).any fun piece => Text.trim piece == id.toList
  | _ => false

/-- A condition on another feature. -/
def asksFeature : Segment → Bool
  | feature .. => true
  | _ => false

mutual

/-- What a tree means, when every condition is asked on its own. -/
def meaning (env : Setting) (attributes : Attributes) : Segment → Bool
  | conj children => allMean env attributes children
  | disj children => someMeans env attributes children
  | neg child => !meaning env attributes child
  | customVariable name operand => customMeans env attributes name operand
  | user operand => userMeans env attributes operand
  | userAgent operand => (env.provider.userAgent env.user).any operand.matchesText
  | location field value => locationMatches env [(field, value)]
  | agent field value => agentMatches env [(field, value)]
  | device property operand => (env.provider.device env.user property).any operand.matchesText
  | feature id enabled => (env.isStuck? id).any (· == enabled)
  | invalid _ => false

/-- All of some trees. -/
def allMean (env : Setting) (attributes : Attributes) : List Segment → Bool
  | [] => true
  | s :: rest => meaning env attributes s && allMean env attributes rest

/-- Some of some trees, of which those after a condition on another feature do not count. -/
def someMeans (env : Setting) (attributes : Attributes) : List Segment → Bool
  | [] => false
  | s :: rest => meaning env attributes s || (!s.asksFeature && someMeans env attributes rest)

end

variable {env : Setting} {attributes : Attributes}

theorem allMean_eq_all (children : List Segment) :
    allMean env attributes children = children.all (meaning env attributes) := by
  induction children with
  | nil => rfl
  | cons s rest ih => rw [allMean, ih, List.all_cons]

theorem someMeans_eq_any (children : List Segment) :
    someMeans env attributes children =
      (upTo asksFeature children).any (meaning env attributes) := by
  induction children with
  | nil => rfl
  | cons s rest ih =>
      rw [someMeans, upTo, List.any_cons, ih]
      cases s.asksFeature <;> simp

/-- An invalid tree decides nothing for those beside it. -/
theorem someMeans_invalid (before : List Segment) (text : String) (after : List Segment) :
    someMeans env attributes (before ++ invalid text :: after) =
      someMeans env attributes (before ++ after) := by
  induction before with
  | nil => simp [someMeans, meaning, asksFeature]
  | cons s rest ih => rw [List.cons_append, List.cons_append, someMeans, someMeans, ih]

/-- Parts of a location are asked together as they are asked apart. -/
theorem locationMatches_snoc (query : List (LocationField × String))
    (part : LocationField × String) :
    locationMatches env (query ++ [part]) =
      (locationMatches env [part] && (query.isEmpty || locationMatches env query)) := by
  cases hPlace : env.provider.location env.user with
  | none => simp [locationMatches, hPlace]
  | some place =>
      cases query with
      | nil => simp
      | cons first rest =>
          simp only [locationMatches, hPlace, List.all_append, List.isEmpty_cons, Bool.false_or]
          exact Bool.and_comm _ _

theorem agentMatches_cons (part : AgentField × String) (query : List (AgentField × String)) :
    agentMatches env (part :: query) = (agentMatches env [part] || agentMatches env query) := by
  cases hInfo : env.provider.agentInfo env.user <;> simp [agentMatches, hInfo]

/-- Parts of the user agent are asked together as they are asked apart. -/
theorem agentMatches_of_query {children : List Segment} {query : List (AgentField × String)}
    (h : agentQuery? children = some query) :
    agentMatches env query = someMeans env attributes children := by
  induction children generalizing query with
  | nil =>
      obtain rfl : [] = query := Option.some.inj h
      cases hInfo : env.provider.agentInfo env.user <;> simp [agentMatches, someMeans, hInfo]
  | cons s rest ih =>
      cases s with
      | agent field value =>
          obtain ⟨query, hRest, rfl⟩ := Option.map_eq_some_iff.mp h
          rw [agentMatches_cons, ih hRest, someMeans, meaning]
          simp [asksFeature]
      | _ => simp [agentQuery?] at h

theorem allHold_cons (query : List (LocationField × String)) {s : Segment} (rest : List Segment)
    (hs : ¬∃ field value, s = location field value) :
    allHold env attributes query (s :: rest) = holds env attributes s >>= fun answer =>
      if answer then allHold env attributes query rest else pure false := by
  cases s <;> simp_all [allHold]

theorem anyHolds_cons {s : Segment} (rest : List Segment) (hs : s.asksFeature = false) :
    anyHolds env attributes (s :: rest) = holds env attributes s >>= fun answer =>
      if answer then pure true else anyHolds env attributes rest := by
  cases s <;> simp_all [anyHolds, asksFeature]

theorem inList_answers (listId value : String) (isCustom : Bool) :
    Answers env.lists (inList env listId value isCustom) (listed env listId value) := by
  intro desk hDesk
  obtain ⟨hCache, hKnown⟩ :=
    hDesk.get ⟨env.featureKey, listId, value, env.user.id, isCustom⟩ env.now
  rcases hGet : desk.cache.get ⟨env.featureKey, listId, value, env.user.id, isCustom⟩ env.now
    with ⟨known, cache⟩
  rw [hGet] at hCache hKnown
  cases known with
  | some member =>
      obtain ⟨service, hService, hAnswer⟩ := hKnown member rfl
      rw [hService] at hCache ⊢
      simp only [inList, listed, StateT.run_bind, StateT.run_get, pure_bind, hGet, hService,
        Option.bind_some, hAnswer]
      exact ⟨rfl, hCache⟩
  | none =>
      cases hService : env.lists with
      | none =>
          rw [hService] at hCache
          simp only [inList, listed, StateT.run_bind, StateT.run_get, pure_bind, hGet, hService]
          exact ⟨rfl, hCache⟩
      | some service =>
          cases hAnswer : service listId value env.user.id with
          | error =>
              rw [hService] at hCache
              simp only [inList, listed, StateT.run_bind, StateT.run_get, pure_bind, hGet,
                hService, hAnswer, Option.bind_some]
              exact ⟨rfl, hCache⟩
          | ok member =>
              have hInsert := hCache.insert ⟨env.featureKey, listId, value, env.user.id, isCustom⟩
                env.now hService hAnswer
              rw [hService] at hInsert
              simp only [inList, listed, StateT.run_bind, StateT.run_get, pure_bind, hGet,
                hService, hAnswer, Option.bind_some]
              exact ⟨rfl, hInsert⟩

theorem customMatches_answers (name : String) (operand : Operand) :
    Answers env.lists (customMatches env attributes name operand)
      (customMeans env attributes name operand) := by
  rw [customMatches.eq_def, customMeans]
  cases hValue : attributes.lookup name with
  | none => exact .pure false
  | some value =>
      rw [Option.any_some]
      cases operand with
      | inList listId => exact inList_answers _ _ _
      | _ => exact .pure _

theorem userMatches_answers (operand : Operand) :
    Answers env.lists (userMatches env attributes operand) (userMeans env attributes operand) := by
  cases operand with
  | inList listId =>
      simp only [userMatches, userMeans]
      exact inList_answers _ _ _
  | _ =>
      simp only [userMatches, userMeans]
      exact .pure _

mutual

/-- The answer to a tree is what it means. -/
theorem holds_answers (s : Segment) :
    Answers env.lists (holds env attributes s) (meaning env attributes s) := by
  match s with
  | conj children =>
      rw [holds, meaning]
      simpa using allHold_answers [] children
  | disj children =>
      rw [holds, meaning]
      split
      · rename_i hQuery
        rw [agentMatches_of_query hQuery]
        exact .pure _
      · exact anyHolds_answers children
  | neg child =>
      rw [holds, meaning]
      exact (holds_answers child).bind (.pure _)
  | customVariable name operand =>
      rw [holds, meaning]
      exact customMatches_answers name operand
  | user operand =>
      rw [holds, meaning]
      exact userMatches_answers operand
  | userAgent _ | location _ _ | agent _ _ | device _ _ | feature _ _ | invalid _ =>
      rw [holds, meaning]
      exact .pure _

/-- What was gathered is asked in the end, if anything was. -/
theorem allHold_answers (query : List (LocationField × String)) (children : List Segment) :
    Answers env.lists (allHold env attributes query children)
      (allMean env attributes children && (query.isEmpty || locationMatches env query)) := by
  match children with
  | [] =>
      rw [allHold, allMean]
      exact .pure _
  | s :: rest =>
      by_cases hPlace : ∃ field value, s = location field value
      · obtain ⟨field, value, rfl⟩ := hPlace
        -- The part is asked with the query in the end, so it moves past the rest of the trees.
        have hRest := allHold_answers (query ++ [(field, value)]) rest
        have hSome : (query ++ [(field, value)]).isEmpty = false := by simp
        rw [hSome, Bool.false_or, locationMatches_snoc, Bool.and_left_comm] at hRest
        rw [allHold, allMean, meaning, Bool.and_assoc]
        exact hRest
      · rw [allHold_cons query rest hPlace, allMean, Bool.and_assoc]
        exact (holds_answers s).and_then (allHold_answers query rest)

theorem anyHolds_answers (children : List Segment) :
    Answers env.lists (anyHolds env attributes children) (someMeans env attributes children) := by
  match children with
  | [] =>
      rw [anyHolds, someMeans]
      exact .pure _
  | s :: rest =>
      cases hFeature : s.asksFeature with
      | true =>
          cases s with
          | feature id enabled =>
              rw [anyHolds, someMeans, meaning, hFeature]
              simpa using Answers.pure _
          | _ => simp [asksFeature] at hFeature
      | false =>
          rw [anyHolds_cons rest hFeature, someMeans, hFeature]
          simpa using (holds_answers s).or_else (anyHolds_answers rest)

end

theorem holdsOrAbsent_answers (attributes : Attributes) (s : Option Segment) :
    Answers env.lists (holdsOrAbsent env attributes s) (s.all (meaning env attributes)) := by
  cases s with
  | none => exact .pure true
  | some s => exact holds_answers s

/-- From a truthful desk, a tree is answered by what it means, and the desk stays truthful. All
children of a conjunction count, and those of a disjunction up to the first condition on another
feature; invalid ones do not bear on the others. -/
theorem holds_eq_meaning (env : Setting) (attributes : Attributes) (s : Segment) {desk : ListDesk}
    (hDesk : desk.cache.Truthful env.lists) :
    ((holds env attributes s).run desk).1 = meaning env attributes s ∧
      ((holds env attributes s).run desk).2.cache.Truthful env.lists ∧
      (∀ children, meaning env attributes (conj children) =
        children.all (meaning env attributes)) ∧
      (∀ children, meaning env attributes (disj children) =
        (upTo asksFeature children).any (meaning env attributes)) ∧
      ∀ before text after, meaning env attributes (disj (before ++ invalid text :: after)) =
        meaning env attributes (disj (before ++ after)) := by
  obtain ⟨hAnswer, hLeft⟩ := holds_answers s desk hDesk
  exact ⟨hAnswer, hLeft, allMean_eq_all, someMeans_eq_any, someMeans_invalid⟩

/-- A visitor in Oslo with a browser that is known, a list service that answers for one list only,
and a stored decision for one feature. -/
def Setting.visitor : Setting where
  featureKey := "f"
  user :=
    { id := "u"
      location := some { country := some "NO", city := some "Oslo" }
      agentInfo := some { browser := some "Firefox" } }
  provider := .ofUser
  lists := some fun listId _ _ => if listId = "vip" then .ok true else .error (.timeout 3)
  isStuck? id := if id = 7 then some true else none
  now := 5

/-- A desk that remembers the answer for the list. -/
def Setting.visitorDesk : ListDesk where
  cache := ⟨1000, 2, [(⟨"f", "vip", "gold", "u", true⟩, ⟨true, 0⟩)]⟩

/-- Parts of the location apart from each other, a list known and a list unknown, the user agent
beside an invalid tree, and a condition on another feature before one that would hold. -/
def mixed : Segment :=
  conj [location .country "NO", customVariable "plan" (.inList "vip"),
    disj [agent .os "linux", invalid "?", agent .browser "firefox"],
    location .city "\"Oslo\"",
    neg (disj [user (.inList "beta"), feature 7 false, location .country "NO"])]

theorem mixed_holds :
    Setting.visitorDesk.cache.Truthful Setting.visitor.lists ∧
      meaning Setting.visitor [("plan", .string "gold")] mixed = true ∧
      ((holds Setting.visitor [("plan", .string "gold")] mixed).run Setting.visitorDesk).1 =
        true := by
  have hDesk : Setting.visitorDesk.cache.Truthful Setting.visitor.lists := by
    intro question answer hEntry
    obtain ⟨rfl, rfl⟩ : question = ⟨"f", "vip", "gold", "u", true⟩ ∧ answer = ⟨true, 0⟩ := by
      simpa [Setting.visitorDesk] using hEntry
    exact ⟨_, rfl, rfl⟩
  have hMeaning : meaning Setting.visitor [("plan", .string "gold")] mixed = true := by
    decide +kernel
  exact ⟨hDesk, hMeaning, (holds_eq_meaning _ _ _ hDesk).1.trans hMeaning⟩

end Segment

end FlagDecision
