import FlagDecision.Proofs.CheckedData

/-! Parts of trees. A path goes from a tree to one of its children at every step, and what
it leads to is a part of the tree, in whatever conjunctions, disjunctions and negations
it stands. A tree needs the gateway exactly if some part of it asks for what only a
gateway supplies, and a tree that does not need it is checked alike by all providers
that agree on the device. -/
namespace FlagDecision

variable {α β : Type}

/-- What a path leads to, if there is something: every step goes to the one of that number among
those below. -/
def descend (below : α → List α) : List Nat → α → Option α
  | [], a => some a
  | i :: path, a => (below a)[i]?.bind (descend below path)

/-- A change that what is below goes along with goes along every path. -/
theorem descend_map {below : α → List α} {below' : β → List β} {change : α → β}
    (h : ∀ a, below' (change a) = (below a).map change) (path : List Nat) (a : α) :
    descend below' path (change a) = (descend below path a).map change := by
  induction path generalizing a with
  | nil => rfl
  | cons i path ih =>
      rw [descend, descend, h, List.getElem?_map]
      cases (below a)[i]? with
      | none => rfl
      | some b => exact ih b

/-- What holds below holds wherever a path leads. -/
theorem forall_descend_iff {below : α → List α} {P : α → Prop} {a : α} :
    (∀ path b, descend below path a = some b → P b) ↔
      P a ∧ ∀ b ∈ below a, ∀ path c, descend below path b = some c → P c := by
  constructor
  · refine fun h => ⟨h [] a rfl, fun b hb path c hc => ?_⟩
    obtain ⟨i, hi⟩ := List.getElem?_of_mem hb
    refine h (i :: path) c ?_
    rw [descend, hi]
    exact hc
  · rintro ⟨hHere, hBelow⟩ (_ | ⟨i, path⟩) b hb
    · exact Option.some.inj hb ▸ hHere
    · rw [descend, Option.bind_eq_some_iff] at hb
      obtain ⟨c, hc, hb⟩ := hb
      exact hBelow c (List.mem_of_getElem? hc) path b hb

namespace Segment

variable {s : Segment}

/-- The trees right below a tree. -/
def children : Segment → List Segment
  | conj children => children
  | disj children => children
  | neg child => [child]
  | _ => []

/-- The part of a tree at the end of a path. -/
def partAt? (path : List Nat) (s : Segment) : Option Segment := descend children path s

theorem sizeOf_lt_of_mem_children {c : Segment} (h : c ∈ s.children) : sizeOf c < sizeOf s := by
  cases s with
  | conj children | disj children =>
      have := List.sizeOf_lt_of_mem (show c ∈ children from h)
      simp only [conj.sizeOf_spec, disj.sizeOf_spec]
      omega
  | neg child =>
      obtain rfl := List.mem_singleton.mp h
      simp
  | _ => cases h

/-- What holds of a tree if it holds of those below it holds of all trees. -/
@[elab_as_elim]
theorem children_induction {motive : Segment → Prop}
    (step : ∀ s, (∀ c ∈ s.children, motive c) → motive s) (s : Segment) : motive s :=
  step s fun c _ => children_induction step c
termination_by sizeOf s
decreasing_by exact sizeOf_lt_of_mem_children ‹_›

/-- A condition on what only a gateway supplies. -/
def asksGateway : Segment → Bool
  | location .. => true
  | agent .. => true
  | userAgent _ => true
  | _ => false

theorem someRequiresGateway_eq_any (children : List Segment) :
    someRequiresGateway children = children.any requiresGateway := by
  induction children with
  | nil => rfl
  | cons s rest ih => rw [someRequiresGateway, ih, List.any_cons]

theorem requiresGateway_eq (s : Segment) :
    s.requiresGateway = (s.asksGateway || s.children.any requiresGateway) := by
  cases s with
  | conj children => exact someRequiresGateway_eq_any children
  | disj children => exact someRequiresGateway_eq_any children
  | neg child => simp [requiresGateway, asksGateway, children]
  | _ => rfl

/-- A tree does without the gateway exactly if no part of it asks for what the gateway supplies. -/
theorem not_requiresGateway_iff (s : Segment) :
    s.requiresGateway = false ↔
      ∀ path part, s.partAt? path = some part → part.asksGateway = false := by
  induction s using children_induction with
  | step s ih =>
      simp only [partAt?] at ih ⊢
      rw [requiresGateway_eq, Bool.or_eq_false_iff, List.any_eq_false, forall_descend_iff]
      refine and_congr_right fun _ => forall₂_congr fun c hc => ?_
      rw [Bool.not_eq_true, ih c hc]

/-- A tree needs the gateway if and only if it asks, in some place, for what a gateway supplies. A
tree that does not need it is answered alike by any two providers that agree on the device
of the user, and the list services are called alike, wherever the providers place the user
and whatever user agents they report. -/
theorem requiresGateway_bounds (s : Segment) :
    (s.requiresGateway = true ↔
      ∃ path part, s.partAt? path = some part ∧ part.asksGateway = true) ∧
    (s.requiresGateway = false →
      ∀ (env : Setting) (attributes : Attributes) (provider provider' : AttributeProvider),
        provider'.device env.user = provider.device env.user → ∀ desk,
          (holds { env with provider := provider' } attributes s).run desk =
            (holds { env with provider } attributes s).run desk) := by
  constructor
  · rw [← not_iff_not, Bool.not_eq_true, not_requiresGateway_iff]
    simp only [not_exists, not_and, Bool.not_eq_true]
  · intro hUnaided env attributes provider provider' hDevice desk
    have hAlike : Setting.FindsAlike { env with provider } { env with provider := provider' }
        attributes attributes := ⟨rfl, rfl, rfl, rfl, rfl, hDevice, fun _ => rfl⟩
    rw [holds_alike hAlike s (by simp [hUnaided])]

/-- Members of one list who are not in another one and whose device is not Norwegian. -/
def unaided : Segment :=
  conj [customVariable "plan" (.inList "vip"),
    neg (disj [user (.inList "beta"), device .locale (.equals "nb"), feature 7 false])]

/-- A visitor is answered alike, and the list service is asked alike, when nobody can tell where the
visitor is and with which browser. -/
theorem unaided_bounds :
    let nowhere : AttributeProvider :=
      ⟨fun _ => none, fun _ => none, fun _ => none, AttributeProvider.ofUser.device⟩
    let ask (provider : AttributeProvider) :=
      (holds { Setting.visitor with provider } [("plan", .string "gold")] unaided).run
        Setting.visitorDesk
    unaided.requiresGateway = false ∧
      nowhere.device Setting.visitor.user = AttributeProvider.ofUser.device Setting.visitor.user ∧
      (ask .ofUser).1 = true ∧ (ask .ofUser).2.calls = [⟨"beta", "u", "u"⟩] ∧
      ask nowhere = ask .ofUser := by
  intro nowhere ask
  have hUnaided : unaided.requiresGateway = false := by decide +kernel
  have hDevice : nowhere.device Setting.visitor.user =
      AttributeProvider.ofUser.device Setting.visitor.user := rfl
  have hAlike : ask nowhere = ask .ofUser :=
    (requiresGateway_bounds unaided).2 hUnaided Setting.visitor _ .ofUser nowhere hDevice _
  exact ⟨hUnaided, hDevice, by decide +kernel, by decide +kernel, hAlike⟩

end Segment

end FlagDecision
