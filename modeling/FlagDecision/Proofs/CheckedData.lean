import FlagDecision.Proofs.Meaning

/-! What a segment is checked on. Attributes are looked up by name, of the user the id is
read, and only some conditions read what a gateway supplies. A tree without such
conditions is checked alike, list calls and all, wherever the user may be and whatever
user agent the user may have. -/
namespace FlagDecision

namespace Segment

/-- Two checks find the same, apart from what a gateway supplies. -/
structure Setting.FindsAlike (env env' : Setting) (attributes attributes' : Attributes) : Prop where
  featureKey : env'.featureKey = env.featureKey
  userId : env'.user.id = env.user.id
  lists : env'.lists = env.lists
  isStuck : env'.isStuck? = env.isStuck?
  now : env'.now = env.now
  device : env'.provider.device env'.user = env.provider.device env.user
  attributes : ∀ name, attributes'.lookup name = attributes.lookup name

/-- The gateway supplies the same for two checks: where the user is, and the user agent with its
parts. -/
structure Setting.SuppliedAlike (env env' : Setting) : Prop where
  location : env'.provider.location env'.user = env.provider.location env.user
  userAgent : env'.provider.userAgent env'.user = env.provider.userAgent env.user
  agentInfo : env'.provider.agentInfo env'.user = env.provider.agentInfo env.user

variable {env env' : Setting} {attributes attributes' : Attributes}

namespace Setting.SuppliedAlike

variable (h : env.SuppliedAlike env')

include h

theorem locationMatches_eq (query : List (LocationField × String)) :
    locationMatches env' query = locationMatches env query := by
  rw [locationMatches, locationMatches, h.location]

theorem agentMatches_eq (query : List (AgentField × String)) :
    agentMatches env' query = agentMatches env query := by
  rw [agentMatches, agentMatches, h.agentInfo]

end Setting.SuppliedAlike

/-- Conditions on parts of the user agent need the gateway. -/
theorem someRequiresGateway_of_query {children : List Segment} {part : AgentField × String}
    {query : List (AgentField × String)} (h : agentQuery? children = some (part :: query)) :
    someRequiresGateway children = true := by
  match children with
  | [] => simp [agentQuery?] at h
  | s :: rest =>
      cases s with
      | agent field value => rfl
      | _ => simp [agentQuery?] at h

/-- What the need of some trees for the gateway gives is given by the need of the first one, and by
that of the others. -/
theorem forall_of_someRequiresGateway {s : Segment} {rest : List Segment} {P : Prop}
    (h : someRequiresGateway (s :: rest) = true → P) :
    (s.requiresGateway = true → P) ∧ (someRequiresGateway rest = true → P) := by
  rw [someRequiresGateway, Bool.or_eq_true] at h
  exact ⟨fun hFirst => h (Or.inl hFirst), fun hRest => h (Or.inr hRest)⟩

namespace Setting.FindsAlike

variable (h : env.FindsAlike env' attributes attributes')

include h

theorem inList_eq (listId value : String) (isCustom : Bool) :
    inList env' listId value isCustom = inList env listId value isCustom := by
  simp only [inList, h.featureKey, h.userId, h.lists, h.now]

theorem customMatches_eq (name : String) (operand : Operand) :
    customMatches env' attributes' name operand = customMatches env attributes name operand := by
  rw [customMatches.eq_def, customMatches.eq_def, h.attributes]
  simp only [h.inList_eq]

theorem userMatches_eq (operand : Operand) :
    userMatches env' attributes' operand = userMatches env attributes operand := by
  cases operand <;> simp only [userMatches, h.attributes, h.userId, h.inList_eq]

end Setting.FindsAlike

mutual

/-- Checks that find the same go alike, if the gateway supplies the same where the tree needs it. -/
theorem holds_alike (h : env.FindsAlike env' attributes attributes') (s : Segment)
    (hGateway : s.requiresGateway = true → env.SuppliedAlike env') :
    holds env' attributes' s = holds env attributes s := by
  match s with
  | conj children =>
      rw [holds, holds]
      exact allHold_alike h [] children (fun hSome => absurd rfl hSome) hGateway
  | disj children =>
      rw [holds, holds]
      split
      · rename_i hQuery
        simp only [(hGateway (someRequiresGateway_of_query hQuery)).agentMatches_eq]
      · exact anyHolds_alike h children hGateway
  | neg child => rw [holds, holds, holds_alike h child hGateway]
  | customVariable name operand =>
      rw [holds, holds]
      exact h.customMatches_eq name operand
  | user operand =>
      rw [holds, holds]
      exact h.userMatches_eq operand
  | userAgent operand => rw [holds, holds, (hGateway rfl).userAgent]
  | location field value => rw [holds, holds, (hGateway rfl).locationMatches_eq]
  | agent field value => rw [holds, holds, (hGateway rfl).agentMatches_eq]
  | device property operand => rw [holds, holds, h.device]
  | feature id enabled => rw [holds, holds, h.isStuck]
  | invalid _ => rw [holds, holds]

/-- What was gathered is asked in the end, so the gateway is needed where anything was. -/
theorem allHold_alike (h : env.FindsAlike env' attributes attributes')
    (query : List (LocationField × String)) (children : List Segment)
    (hQuery : query ≠ [] → env.SuppliedAlike env')
    (hGateway : someRequiresGateway children = true → env.SuppliedAlike env') :
    allHold env' attributes' query children = allHold env attributes query children := by
  match children with
  | [] =>
      rw [allHold, allHold]
      by_cases hNone : query = []
      · rw [hNone]
        rfl
      · rw [(hQuery hNone).locationMatches_eq]
  | s :: rest =>
      obtain ⟨hFirst, hRest⟩ := forall_of_someRequiresGateway hGateway
      by_cases hPlace : ∃ field value, s = location field value
      · obtain ⟨field, value, rfl⟩ := hPlace
        rw [allHold, allHold]
        exact allHold_alike h _ rest (fun _ => hFirst rfl) hRest
      · rw [allHold_cons query rest hPlace, allHold_cons query rest hPlace, holds_alike h s hFirst,
          allHold_alike h query rest hQuery hRest]

theorem anyHolds_alike (h : env.FindsAlike env' attributes attributes') (children : List Segment)
    (hGateway : someRequiresGateway children = true → env.SuppliedAlike env') :
    anyHolds env' attributes' children = anyHolds env attributes children := by
  match children with
  | [] => rw [anyHolds, anyHolds]
  | s :: rest =>
      obtain ⟨hFirst, hRest⟩ := forall_of_someRequiresGateway hGateway
      cases hFeature : s.asksFeature with
      | true =>
          cases s with
          | feature id enabled => rw [anyHolds, anyHolds, h.isStuck]
          | _ => simp [asksFeature] at hFeature
      | false =>
          rw [anyHolds_cons rest hFeature, anyHolds_cons rest hFeature, holds_alike h s hFirst,
            anyHolds_alike h rest hRest]

end

/-- A segment that may be missing is checked alike. -/
theorem holdsOrAbsent_alike (h : env.FindsAlike env' attributes attributes') (s : Option Segment)
    (hGateway : s.any requiresGateway = true → env.SuppliedAlike env') :
    holdsOrAbsent env' attributes' s = holdsOrAbsent env attributes s := by
  cases s with
  | none => rfl
  | some s => exact holds_alike h s hGateway

/-- What is checked alike means the same. -/
theorem meaning_alike (h : env.FindsAlike env' attributes attributes') (s : Segment)
    (hGateway : s.requiresGateway = true → env.SuppliedAlike env') :
    meaning env' attributes' s = meaning env attributes s := by
  -- An empty desk is truthful, and from it the check gives what the segment means.
  have hDesk : ListCache.Truthful ⟨0, 0, []⟩ env.lists := by simp [ListCache.Truthful]
  have hAnswers : Answers env.lists (holds env attributes s) (meaning env attributes s) :=
    holds_answers s
  have hAnswers' : Answers env.lists (holds env' attributes' s) (meaning env' attributes' s) :=
    h.lists ▸ holds_answers s
  rw [holds_alike h s hGateway] at hAnswers'
  exact (hAnswers' ⟨⟨0, 0, []⟩, []⟩ hDesk).1.symm.trans (hAnswers ⟨⟨0, 0, []⟩, []⟩ hDesk).1

end Segment

end FlagDecision
