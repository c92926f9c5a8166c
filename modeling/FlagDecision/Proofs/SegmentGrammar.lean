import FlagDecision.Proofs.TreeParts

/-! The grammar of trees. A JSON value writes a tree if it is built from objects with one
member each, of the kinds that there are. Reading keeps to the grammar place by place:
where a value has the head of a conjunction, a disjunction, a negation or a condition,
this stands in the tree, and where it has no such head an invalid tree stands there,
which does not bear on the places around it. -/
namespace FlagDecision

open Text

theorem LocationField.ofKey?_eq_some_iff {key : String} {field : LocationField} :
    ofKey? key = some field ↔ key = field.key := by
  constructor
  · fun_cases ofKey? key <;> rintro ⟨⟩ <;> rfl
  · rintro rfl
    cases field <;> rfl

theorem AgentField.ofKey?_eq_some_iff {key : String} {field : AgentField} :
    ofKey? key = some field ↔ key = field.key := by
  constructor
  · fun_cases ofKey? key <;> rintro ⟨⟩ <;> rfl
  · rintro rfl
    cases field <;> rfl

theorem DeviceAttribute.ofKey?_eq_some_iff {key : String} {property : DeviceAttribute} :
    ofKey? key = some property ↔ key = property.key := by
  constructor
  · fun_cases ofKey? key <;> rintro ⟨⟩ <;> rfl
  · rintro rfl
    cases property <;> rfl

namespace Segment

/-- A JSON text, number or truth value, and its text. -/
inductive Scalar : Json → String → Prop
  | string (s : String) : Scalar (.string s) s
  | number (n : Json.Number) : Scalar (.number n) n.text
  | bool (b : Bool) : Scalar (.bool b) (toString b)

/-- The values that write a condition, and the condition. -/
inductive WritesCondition : Json → Segment → Prop
  | customVariable {value : Json} {text : String} (name : String) (h : Scalar value text) :
      WritesCondition (.object [("custom_variable", .object [(name, value)])])
        (customVariable name (Operand.parse text))
  | user {value : Json} {text : String} (h : Scalar value text) :
      WritesCondition (.object [("user", value)]) (user (userOperand text))
  | userAgent {value : Json} {text : String} (h : Scalar value text) :
      WritesCondition (.object [("ua", value)]) (userAgent (Operand.parse text))
  | featureOn {id : String} {featureId : Nat} (h : readWord64? (trim id.toList) = some featureId) :
      WritesCondition (.object [("featureId", .object [(id, .string "on")])])
        (feature featureId true)
  | featureOff {id : String} {featureId : Nat} (h : readWord64? (trim id.toList) = some featureId) :
      WritesCondition (.object [("featureId", .object [(id, .string "off")])])
        (feature featureId false)
  | location {value : Json} {text : String} (field : LocationField) (h : Scalar value text) :
      WritesCondition (.object [(field.key, value)]) (location field text)
  | agent {value : Json} {text : String} (field : AgentField) (h : Scalar value text) :
      WritesCondition (.object [(field.key, value)]) (agent field text)
  | device {value : Json} {text : String} (property : DeviceAttribute) (h : Scalar value text) :
      WritesCondition (.object [(property.key, value)]) (device property (Operand.parse text))

variable {value inner : Json} {key text : String} {s : Segment}

theorem scalarText?_eq_some_iff : scalarText? value = some text ↔ Scalar value text := by
  constructor
  · intro h
    cases value with
    | string s => exact Option.some.inj h ▸ .string s
    | number n => exact Option.some.inj h ▸ .number n
    | bool b =>
        obtain rfl : toString b = text := by cases b <;> exact Option.some.inj h
        exact .bool b
    | _ => cases h
  · rintro (_ | _ | b)
    · rfl
    · rfl
    · cases b <;> rfl

theorem writesCondition_of_featureCondition? (h : featureCondition? inner = some s) :
    WritesCondition (.object [("featureId", inner)]) s := by
  rw [featureCondition?.eq_def] at h
  split at h
  · simp only [Option.bind_eq_bind, Option.bind_eq_some_iff] at h
    obtain ⟨featureId, hId, hState⟩ := h
    split at hState
    · exact Option.some.inj hState ▸ .featureOn hId
    · exact Option.some.inj hState ▸ .featureOff hId
    · cases hState
  · cases h

theorem writesCondition_of_leaf? (h : leaf? key inner = some s) :
    WritesCondition (.object [(key, inner)]) s := by
  rw [leaf?.eq_def] at h
  split at h
  · split at h
    · obtain ⟨text, hText, rfl⟩ := Option.map_eq_some_iff.mp h
      exact .customVariable _ (scalarText?_eq_some_iff.mp hText)
    · cases h
  · obtain ⟨text, hText, rfl⟩ := Option.map_eq_some_iff.mp h
    exact .user (scalarText?_eq_some_iff.mp hText)
  · obtain ⟨text, hText, rfl⟩ := Option.map_eq_some_iff.mp h
    exact .userAgent (scalarText?_eq_some_iff.mp hText)
  · exact writesCondition_of_featureCondition? h
  · simp only [Option.bind_eq_bind, Option.bind_eq_some_iff] at h
    obtain ⟨text, hText, h⟩ := h
    rw [scalarText?_eq_some_iff] at hText
    split at h
    · rename_i field hField
      rw [LocationField.ofKey?_eq_some_iff.mp hField]
      exact Option.some.inj h ▸ .location field hText
    · split at h
      · rename_i field hField
        rw [AgentField.ofKey?_eq_some_iff.mp hField]
        exact Option.some.inj h ▸ .agent field hText
      · obtain ⟨property, hProperty, rfl⟩ := Option.map_eq_some_iff.mp h
        rw [DeviceAttribute.ofKey?_eq_some_iff.mp hProperty]
        exact .device property hText

theorem WritesCondition.leaf?_eq (h : WritesCondition (.object [(key, inner)]) s) :
    leaf? key inner = some s := by
  cases h with
  | customVariable name h | user h | userAgent h =>
      rw [← scalarText?_eq_some_iff] at h
      simp [leaf?, h]
  | featureOn h | featureOff h => simp [leaf?, featureCondition?, h]
  | location field h =>
      rw [← scalarText?_eq_some_iff] at h
      cases field <;> simp [leaf?, LocationField.key, LocationField.ofKey?, h]
  | agent field h =>
      rw [← scalarText?_eq_some_iff] at h
      cases field <;> simp [leaf?, AgentField.key, AgentField.ofKey?, LocationField.ofKey?, h]
  | device property h =>
      rw [← scalarText?_eq_some_iff] at h
      cases property <;>
        simp [leaf?, DeviceAttribute.key, DeviceAttribute.ofKey?, AgentField.ofKey?,
          LocationField.ofKey?, h]

/-- The values that write trees: the grammar. -/
inductive Generated : Json → Prop
  | conj {items : List Json} (h : ∀ item ∈ items, Generated item) :
      Generated (.object [("and", .array items)])
  | disj {items : List Json} (h : ∀ item ∈ items, Generated item) :
      Generated (.object [("or", .array items)])
  | neg {value : Json} (h : Generated value) : Generated (.object [("not", value)])
  | condition {value : Json} {s : Segment} (h : WritesCondition value s) : Generated value

/-- The values of which the grammar knows the head, whatever it says of those inside. -/
inductive HasHead : Json → Prop
  | conj (items : List Json) : HasHead (.object [("and", .array items)])
  | disj (items : List Json) : HasHead (.object [("or", .array items)])
  | neg (value : Json) : HasHead (.object [("not", value)])
  | condition {value : Json} {s : Segment} (h : WritesCondition value s) : HasHead value

/-- The values that stand for trees right below the tree of a value. -/
def treesBelow : Json → List Json
  | .object [("and", .array items)] => items
  | .object [("or", .array items)] => items
  | .object [("not", value)] => [value]
  | _ => []

/-- The value for the part of a tree at the end of a path. -/
def valueAt? (path : List Nat) (value : Json) : Option Json := descend treesBelow path value

/-! Reading. -/

theorem ofNodes_eq_map (items : List Json) : ofNodes items = items.map ofNode := by
  induction items with
  | nil => rw [ofNodes, List.map_nil]
  | cons item rest ih => rw [ofNodes, ih, List.map_cons]

theorem ofNode_conj (items : List Json) :
    ofNode (.object [("and", .array items)]) = conj (items.map ofNode) := by
  simp [ofNode, ofNodes_eq_map]

theorem ofNode_disj (items : List Json) :
    ofNode (.object [("or", .array items)]) = disj (items.map ofNode) := by
  simp [ofNode, ofNodes_eq_map]

theorem ofNode_neg (value : Json) : ofNode (.object [("not", value)]) = neg (ofNode value) := by
  simp [ofNode]

/-- The key of a condition is none of those of other trees. -/
theorem WritesCondition.key_ne (h : WritesCondition (.object [(key, inner)]) s) :
    key ≠ "and" ∧ key ≠ "or" ∧ key ≠ "not" := by
  cases h with
  | location field | agent field | device field => cases field <;> decide
  | _ => decide

theorem WritesCondition.exists_member (h : WritesCondition value s) :
    ∃ key inner, value = .object [(key, inner)] := by
  cases h <;> exact ⟨_, _, rfl⟩

theorem ofNode_of_key_ne (hAnd : key ≠ "and") (hOr : key ≠ "or") (hNot : key ≠ "not") :
    ofNode (.object [(key, inner)]) =
      (leaf? key inner).getD (invalid (Json.object [(key, inner)]).text) := by
  rw [ofNode.eq_def]
  simp only [hAnd, hOr, hNot, if_false]

theorem ofNode_condition (h : WritesCondition value s) : ofNode value = s := by
  obtain ⟨key, inner, rfl⟩ := h.exists_member
  obtain ⟨hAnd, hOr, hNot⟩ := h.key_ne
  rw [ofNode_of_key_ne hAnd hOr hNot, h.leaf?_eq]
  rfl

theorem ofNode_invalid (h : ¬ HasHead value) : ofNode value = invalid value.text := by
  fun_cases ofNode value with
  | case1 items => exact absurd (.conj items) h
  | case3 items => exact absurd (.disj items) h
  | case5 value => exact absurd (.neg value) h
  | case6 key inner =>
      cases hLeaf : leaf? key inner with
      | none => rfl
      | some s => exact absurd (.condition (writesCondition_of_leaf? hLeaf)) h
  | _ => rfl

theorem HasHead.ofNode_ne (h : HasHead value) : ofNode value ≠ invalid text := by
  cases h with
  | conj items => simp [ofNode_conj]
  | disj items => simp [ofNode_disj]
  | neg value => simp [ofNode_neg]
  | condition h =>
      rw [ofNode_condition h]
      cases h <;> simp

theorem WritesCondition.treesBelow_eq (h : WritesCondition value s) : treesBelow value = [] := by
  cases h with
  | location field | agent field | device field => cases field <;> rfl
  | _ => rfl

theorem WritesCondition.children_eq (h : WritesCondition value s) : s.children = [] := by
  cases h <;> rfl

theorem treesBelow_eq_nil (h : ¬ HasHead value) : treesBelow value = [] := by
  fun_cases treesBelow value with
  | case1 items => exact absurd (.conj items) h
  | case2 items => exact absurd (.disj items) h
  | case3 value => exact absurd (.neg value) h
  | case4 => rfl

/-- The trees below a tree are those of the values below its value. -/
theorem children_ofNode (value : Json) :
    (ofNode value).children = (treesBelow value).map ofNode := by
  by_cases hHead : HasHead value
  · cases hHead with
    | conj items => rw [ofNode_conj, children, treesBelow]
    | disj items => rw [ofNode_disj, children, treesBelow]
    | neg value => rw [ofNode_neg, children, treesBelow, List.map_singleton]
    | condition h => rw [ofNode_condition h, h.children_eq, h.treesBelow_eq, List.map_nil]
  · rw [ofNode_invalid hHead, treesBelow_eq_nil hHead]
    rfl

/-- Each part of a tree is what is read from the value in its place. -/
theorem partAt?_ofNode (path : List Nat) (value : Json) :
    (ofNode value).partAt? path = (valueAt? path value).map ofNode :=
  descend_map children_ofNode path value

theorem sizeOf_lt_of_mem_treesBelow {item : Json} (h : item ∈ treesBelow value) :
    sizeOf item < sizeOf value := by
  by_cases hHead : HasHead value
  · cases hHead with
    | conj items | disj items =>
        have := List.sizeOf_lt_of_mem (show item ∈ items from h)
        simp
        omega
    | neg value =>
        obtain rfl := List.mem_singleton.mp h
        simp
        omega
    | condition hCondition =>
        rw [hCondition.treesBelow_eq] at h
        cases h
  · rw [treesBelow_eq_nil hHead] at h
    cases h

/-- What holds of a value if it holds of those below it holds of all values. -/
@[elab_as_elim]
theorem treesBelow_induction {motive : Json → Prop}
    (step : ∀ value, (∀ item ∈ treesBelow value, motive item) → motive value) (value : Json) :
    motive value :=
  step value fun item _ => treesBelow_induction step item
termination_by sizeOf value
decreasing_by exact sizeOf_lt_of_mem_treesBelow ‹_›

/-- The grammar asks of a value that every place in it has a head. -/
theorem generated_iff :
    Generated value ↔ ∀ path inner, valueAt? path value = some inner → HasHead inner := by
  constructor
  · intro h
    induction h with
    | conj _ ih => exact forall_descend_iff.mpr ⟨.conj _, ih⟩
    | disj _ ih => exact forall_descend_iff.mpr ⟨.disj _, ih⟩
    | neg _ ih => exact forall_descend_iff.mpr ⟨.neg _, fun b hb => List.mem_singleton.mp hb ▸ ih⟩
    | condition h =>
        refine forall_descend_iff.mpr ⟨.condition h, fun b hb => ?_⟩
        rw [h.treesBelow_eq] at hb
        cases hb
  · induction value using treesBelow_induction with
    | step value ih =>
        intro h
        obtain ⟨hHead, hBelow⟩ := forall_descend_iff.mp h
        cases hHead with
        | conj items => exact .conj fun item hItem => ih item hItem (hBelow item hItem)
        | disj items => exact .disj fun item hItem => ih item hItem (hBelow item hItem)
        | neg value =>
            have hMem : value ∈ treesBelow (.object [("not", value)]) := List.mem_singleton_self _
            exact .neg (ih value hMem (hBelow value hMem))
        | condition h => exact .condition h

/-- No part of the tree is invalid. -/
def IsSound (s : Segment) : Prop := ∀ path text, s.partAt? path ≠ some (invalid text)

theorem isSound_ofNode_iff : (ofNode value).IsSound ↔ Generated value := by
  rw [generated_iff]
  constructor
  · intro h path inner hInner
    by_contra hHead
    refine h path inner.text ?_
    rw [partAt?_ofNode, hInner, Option.map_some, ofNode_invalid hHead]
  · intro h path text hPart
    rw [partAt?_ofNode, Option.map_eq_some_iff] at hPart
    obtain ⟨inner, hInner, hNode⟩ := hPart
    exact (h path inner hInner).ofNode_ne hNode

/-- What stands in the place of a value: a tree of the kind that its head says, and an invalid one
with its text if it has none. -/
inductive Heads : Json → Segment → Prop
  | conj {items : List Json} {children : List Segment} (h : children.length = items.length) :
      Heads (.object [("and", .array items)]) (conj children)
  | disj {items : List Json} {children : List Segment} (h : children.length = items.length) :
      Heads (.object [("or", .array items)]) (disj children)
  | neg (value : Json) (child : Segment) : Heads (.object [("not", value)]) (neg child)
  | condition {value : Json} {s : Segment} (h : WritesCondition value s) : Heads value s
  | invalid {value : Json} (h : ¬ HasHead value) : Heads value (invalid value.text)

theorem heads_ofNode (value : Json) : Heads value (ofNode value) := by
  by_cases hHead : HasHead value
  · cases hHead with
    | conj items => exact ofNode_conj items ▸ .conj (List.length_map _)
    | disj items => exact ofNode_disj items ▸ .disj (List.length_map _)
    | neg value => exact ofNode_neg value ▸ .neg value _
    | condition h => exact ofNode_condition h ▸ .condition h
  · exact ofNode_invalid hHead ▸ .invalid hHead

/-- A tree is read from a value by the grammar. Its head is that of the value, and it is invalid
exactly if there is none. No part of it is invalid exactly if the grammar generates the value. -/
structure ReadFrom (value : Json) (s : Segment) : Prop where
  heads : Heads value s
  invalid_iff : (∃ text, s = invalid text) ↔ ¬ HasHead value
  isSound_iff : s.IsSound ↔ Generated value

theorem readFrom_ofNode (value : Json) : ReadFrom value (ofNode value) where
  heads := heads_ofNode value
  invalid_iff :=
    ⟨fun ⟨_, hInvalid⟩ hHead => hHead.ofNode_ne hInvalid, fun hHead => ⟨_, ofNode_invalid hHead⟩⟩
  isSound_iff := isSound_ofNode_iff

/-- Every value but null and the empty object gives a tree, without invalid parts if and only if the
grammar generates the value. Otherwise too the tree has a part exactly where the value has a
value for one, and each part is read by the grammar from the value in its place. -/
theorem ofJson?_readFrom (value : Json) (hNull : value ≠ .null) (hEmpty : value ≠ .object []) :
    ∃ s, ofJson? value = some s ∧ (s.IsSound ↔ Generated value) ∧
      ∀ path, Option.Rel ReadFrom (valueAt? path value) (s.partAt? path) := by
  have hRead : ofJson? value = some (ofNode value) := by
    rw [ofJson?.eq_def]
    split
    · exact absurd rfl hNull
    · exact absurd rfl hEmpty
    · rfl
  refine ⟨ofNode value, hRead, isSound_ofNode_iff, fun path => ?_⟩
  rw [partAt?_ofNode]
  cases valueAt? path value with
  | none => exact .none
  | some inner => exact .some (readFrom_ofNode inner)

/-- Conditions on the user and on a feature beside null, and an empty object inside. -/
def flawed : Json :=
  .object [("and", .array [
    .object [("user", .number (.whole 5))],
    .null,
    .object [("not", .object [("featureId", .object [(" +7", .string "on")])])],
    .object [("or", .array [.object []])]])]

/-- Null and the empty object leave invalid trees in their places, and all else is kept. -/
theorem flawed_readFrom :
    flawed ≠ .null ∧ flawed ≠ .object [] ∧
      ∃ s, ofJson? flawed = some s ∧ ¬ s.IsSound ∧
        s.partAt? [0] = some (user (.equals "5")) ∧ s.partAt? [1] = some (invalid "null") ∧
        s.partAt? [2, 0] = some (feature 7 true) ∧
        s.partAt? [3, 0] = some (invalid "\x7b\x7d") := by
  have hNull : flawed ≠ .null := by simp [flawed]
  have hEmpty : flawed ≠ .object [] := by simp [flawed]
  obtain ⟨s, hRead, hSound, hParts⟩ := ofJson?_readFrom flawed hNull hEmpty
  have hFlaw : ¬ Generated flawed := by
    rw [generated_iff]
    exact fun hHeads => nomatch hHeads [1] .null rfl
  obtain rfl : ofNode flawed = s := Option.some.inj hRead
  exact ⟨hNull, hEmpty, _, hRead, fun h => hFlaw (hSound.mp h), rfl, rfl, rfl, rfl⟩

end Segment

end FlagDecision
