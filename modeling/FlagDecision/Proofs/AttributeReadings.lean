import FlagDecision.Context
import FlagDecision.Proofs.TreeParts
import Mathlib.Algebra.Ring.Int.Defs

/-! Attributes of JSON values. An attribute is read as the first form that its value fits, and
converted by the kind of the value. Both give the same attribute, at every depth of the
value, and always give one: between the integers and the numbers of double precision no
whole number is left out, and only whole numbers become integers. Members of objects are
paired in the order in which the value has them, and compared without regard to order. -/
namespace FlagDecision

/-- The values right below a value. -/
def Json.inside : Json → List Json
  | .array items => items
  | .object members => members.map (·.2)
  | _ => []

/-- The value at the end of a path. -/
def Json.insideAt? (path : List Nat) (x : Json) : Option Json := descend Json.inside path x

/-- All numbers of double precision in the value are finite, as in every document. -/
def Json.IsFinite (x : Json) : Prop :=
  ∀ path y, x.insideAt? path = some (.number (.real y)) → y.isFinite

theorem Json.isFinite_iff (x : Json) :
    x.IsFinite ↔ (∀ y, x = .number (.real y) → y.isFinite) ∧ ∀ z ∈ x.inside, z.IsFinite := by
  have hParts : ∀ z : Json, z.IsFinite ↔ ∀ path part, descend inside path z = some part →
      ∀ y, part = .number (.real y) → y.isFinite := fun z =>
    ⟨fun h path part hPart y hy => h path y (hPart.trans (congrArg some hy)),
      fun h path y hy => h path _ hy y rfl⟩
  rw [hParts, forall_descend_iff]
  exact and_congr_right fun _ => forall₂_congr fun z _ => (hParts z).symm

/-- Every number but `nan` is equal to itself by value. -/
theorem Binary64.sameValue_self_iff (x : Binary64) : x.sameValue x ↔ x ≠ nan := by
  cases x <;> simp [sameValue, compare?]

theorem Binary64.ofInt_ne_nan (n : Int) : ofInt n ≠ nan := by
  simp only [ofInt, ofRatio]
  split_ifs <;> exact nofun

namespace Attribute

/-- The attributes right below an attribute. -/
def inside : Attribute → List Attribute
  | array items => items
  | object members => members.map (·.2)
  | _ => []

/-- The attribute at the end of a path. -/
def insideAt? (path : List Nat) (a : Attribute) : Option Attribute := descend inside path a

theorem sizeOf_lt_of_mem_inside {a b : Attribute} (h : b ∈ a.inside) : sizeOf b < sizeOf a := by
  cases a with
  | array items =>
      have := List.sizeOf_lt_of_mem (show b ∈ items from h)
      simp only [array.sizeOf_spec]
      omega
  | object members =>
      obtain ⟨⟨key, value⟩, hMem, rfl⟩ := List.mem_map.mp (show b ∈ members.map (·.2) from h)
      have := List.sizeOf_lt_of_mem hMem
      simp only [Prod.mk.sizeOf_spec] at this
      simp only [object.sizeOf_spec]
      omega
  | _ => cases h

/-- What holds of an attribute if it holds of those below it holds of all attributes. -/
@[elab_as_elim]
theorem inside_induction {motive : Attribute → Prop}
    (step : ∀ a, (∀ b ∈ a.inside, motive b) → motive a) (a : Attribute) : motive a :=
  step a fun b _ => inside_induction step b
termination_by sizeOf a
decreasing_by exact sizeOf_lt_of_mem_inside ‹_›

mutual

/-- Every value fits a form, and the first one is that of its kind. -/
theorem firstFit?_eq : ∀ x : Json, firstFit? x = some (ofJson x)
  | .null => by simp [firstFit?, ofJson, asString?, asInt?, asFloat?, asBool?, asArray?, asObject?,
      asNull?]
  | .bool _ => by simp [firstFit?, ofJson, asString?, asInt?, asFloat?, asBool?]
  | .string _ => by simp [firstFit?, ofJson, asString?]
  | .number (.real _) => by simp [firstFit?, ofJson, asString?, asInt?, asFloat?]
  | .number (.whole n) => by
      -- A whole number always fits a number of double precision, so the integers must come first.
      by_cases hHolds : holdsInt n
      · simp [firstFit?, ofJson, asString?, asInt?, hHolds]
      · simp [firstFit?, ofJson, asString?, asInt?, asFloat?, hHolds]
  | .array items => by
      simp [firstFit?, ofJson, asString?, asInt?, asFloat?, asBool?, asArray?, fitItems?_eq items]
  | .object members => by
      simp [firstFit?, ofJson, asString?, asInt?, asFloat?, asBool?, asArray?, asObject?,
        fitMembers?_eq members]

theorem fitItems?_eq : ∀ items : List Json, fitItems? items = some (ofItems items)
  | [] => by rw [fitItems?, ofItems]
  | item :: rest => by simp [fitItems?, ofItems, firstFit?_eq item, fitItems?_eq rest]

theorem fitMembers?_eq : ∀ members : List (String × Json),
    fitMembers? members = some (ofMembers members)
  | [] => by rw [fitMembers?, ofMembers]
  | (key, value) :: rest => by
      simp [fitMembers?, ofMembers, firstFit?_eq value, fitMembers?_eq rest]

end

theorem ofItems_eq_map (items : List Json) : ofItems items = items.map ofJson := by
  induction items with
  | nil => rfl
  | cons item rest ih => rw [ofItems, ih, List.map_cons]

theorem ofMembers_eq_map (members : List (String × Json)) :
    ofMembers members = members.map fun m => (m.1, ofJson m.2) := by
  induction members with
  | nil => rfl
  | cons m rest ih => rw [ofMembers, ih, List.map_cons]

theorem inside_ofJson (x : Json) : (ofJson x).inside = x.inside.map ofJson := by
  cases x with
  | array items => exact ofItems_eq_map items
  | object members =>
      rw [ofJson, ofMembers_eq_map]
      simp [inside, Json.inside]
  | number n =>
      cases n with
      | whole n =>
          rw [ofJson]
          split <;> rfl
      | real y => rfl
  | _ => rfl

theorem insideAt?_ofJson (path : List Nat) (x : Json) :
    (ofJson x).insideAt? path = (x.insideAt? path).map ofJson :=
  descend_map inside_ofJson path x

theorem sameItems_self (items : List Attribute) :
    sameItems items items = items.all fun a => a.same a := by
  induction items with
  | nil => rfl
  | cons a rest ih => rw [sameItems, ih, List.all_cons]

theorem areAmong_of_subset {members others : List (String × Attribute)} (hSub : members ⊆ others)
    (hSame : ∀ m ∈ members, m.2.same m.2) : areAmong members others := by
  induction members with
  | nil => rfl
  | cons m rest ih =>
      obtain ⟨hHere, hRest⟩ := List.cons_subset.mp hSub
      have hFound : others.any fun y => m.1 == y.1 && m.2.same y.2 := by
        refine List.any_eq_true.mpr ⟨m, hHere, ?_⟩
        simp [hSame m List.mem_cons_self]
      rw [areAmong, hFound, Bool.true_and]
      exact ih hRest fun n hn => hSame n (List.mem_cons_of_mem _ hn)

theorem same_self (a : Attribute) (hNumber : a ≠ float .nan) (hInside : ∀ b ∈ a.inside, b.same b) :
    a.same a := by
  cases a with
  | array items => simpa [same, inside, sameItems_self] using hInside
  | object members =>
      rw [same, beq_self_eq_true, Bool.true_and]
      exact areAmong_of_subset (List.Subset.refl _) fun m hm =>
        hInside m.2 (List.mem_map_of_mem hm)
  | float x => exact (Binary64.sameValue_self_iff x).mpr fun hNan => hNumber (hNan ▸ rfl)
  | _ => simp [same]

/-- An attribute is equal to itself by value if no number inside is `nan`. -/
theorem same_self_of_numbers (a : Attribute)
    (h : ∀ path b, a.insideAt? path = some b → b ≠ float .nan) : a.same a := by
  induction a using inside_induction with
  | step a ih =>
      obtain ⟨hHere, hBelow⟩ := forall_descend_iff.mp h
      exact same_self a hHere fun b hb => ih b hb (hBelow b hb)

/-- The form of the attribute that stands in the place of a value. Integers have 64 bits with sign.
Other whole numbers and all numbers written with a point or an exponent are in double
precision. -/
inductive Takes : Json → Attribute → Prop
  | null : Takes .null null
  | bool (b : Bool) : Takes (.bool b) (bool b)
  | string (s : String) : Takes (.string s) (string s)
  | int {n : Int} (h : -2 ^ 63 ≤ n ∧ n < 2 ^ 63) : Takes (.number (.whole n)) (int n)
  | wide {n : Int} (h : n < -2 ^ 63 ∨ 2 ^ 63 ≤ n) :
      Takes (.number (.whole n)) (float (.ofInt n))
  | real (y : Binary64) : Takes (.number (.real y)) (float y)
  | array {items : List Json} {attributes : List Attribute}
      (h : attributes.length = items.length) : Takes (.array items) (array attributes)
  | object {members : List (String × Json)} {attributes : List (String × Attribute)}
      (h : attributes.map (·.1) = members.map (·.1)) : Takes (.object members) (object attributes)

theorem holdsInt_iff (n : Int) : holdsInt n ↔ -2 ^ 63 ≤ n ∧ n < 2 ^ 63 := by
  simp only [holdsInt, Bool.and_eq_true, decide_eq_true_eq]
  exact Iff.rfl

theorem takes_ofJson (x : Json) : Takes x (ofJson x) := by
  cases x with
  | null => exact .null
  | bool b => exact .bool b
  | string s => exact .string s
  | number n =>
      cases n with
      | real y => exact .real y
      | whole n =>
          rw [ofJson]
          split
          · rename_i hHolds
            exact .int ((holdsInt_iff n).mp hHolds)
          · rename_i hWide
            rw [holdsInt_iff] at hWide
            exact .wide (by omega)
  | array items => exact .array (by simp [ofItems_eq_map])
  | object members => exact .object (by simp [ofMembers_eq_map])

theorem eq_real_nan_of_ofJson {x : Json} (h : ofJson x = float .nan) :
    x = .number (.real .nan) := by
  cases x with
  | number n =>
      cases n with
      | real y =>
          obtain rfl : y = .nan := by simpa [ofJson] using h
          rfl
      | whole n =>
          rw [ofJson] at h
          split at h
          · cases h
          · exact absurd (float.inj h) (Binary64.ofInt_ne_nan n)
  | _ => simp [ofJson] at h

/-- Reading an attribute from a text is reading the value and converting it. -/
theorem interpreted_firstFit? (depth : Nat) (r : Json.Reading) :
    Json.Decoder.interpreted firstFit? depth r = (r.value depth).map ofJson := by
  rw [Json.Decoder.interpreted]
  cases r.value depth with
  | error fault => rfl
  | ok x => simp [bind, Except.bind, Except.map, firstFit?_eq]

/-- An attribute is read from every value, and is the one that the value converts to. At every depth
an integer stands in the place of a whole number of 64 bits with sign, a number of double
precision in the place of every other number, null in the place of null, and there is
nothing else inside; in a value of finite numbers both attributes are equal by value too.
Whoever reads the value from a text reads that attribute. -/
theorem readings_agree (x : Json) :
    firstFit? x = some (ofJson x) ∧
      (∀ path, Option.Rel Takes (x.insideAt? path) ((ofJson x).insideAt? path)) ∧
      (x.IsFinite → (ofJson x).same (ofJson x)) ∧
      ∀ depth r, Json.Reading.value depth r = .ok x →
        Json.Decoder.interpreted firstFit? depth r = .ok (ofJson x) := by
  refine ⟨firstFit?_eq x, fun path => ?_, fun hFinite => ?_, fun depth r hRead => ?_⟩
  · rw [insideAt?_ofJson]
    cases x.insideAt? path with
    | none => exact .none
    | some y => exact .some (takes_ofJson y)
  · refine same_self_of_numbers _ fun path b hb hNan => ?_
    rw [insideAt?_ofJson, Option.map_eq_some_iff] at hb
    obtain ⟨y, hy, rfl⟩ := hb
    rw [eq_real_nan_of_ofJson hNan] at hy
    exact Bool.noConfusion (hFinite path .nan hy)
  · rw [interpreted_firstFit?, hRead]
    rfl

/-- Whole numbers on both sides of the bounds of integers, a whole number written with a point, and
null, in an array inside an object. -/
def bounds : Json :=
  .object [("bounds", .array [
    .number (.whole 9223372036854775807), .number (.whole 9223372036854775808),
    .number (.whole (-9223372036854775808)), .number (.whole (-9223372036854775809)),
    .number (.real 5), .null])]

theorem bounds_agree :
    bounds.IsFinite ∧ ∃ a, firstFit? bounds = some a ∧ a.same (ofJson bounds) ∧
      a.insideAt? [0, 0] = some (int 9223372036854775807) ∧
      a.insideAt? [0, 1] = some (float (.ofInt 9223372036854775808)) ∧
      a.insideAt? [0, 2] = some (int (-9223372036854775808)) ∧
      a.insideAt? [0, 3] = some (float (.ofInt (-9223372036854775809))) ∧
      a.insideAt? [0, 4] = some (float 5) ∧ a.insideAt? [0, 5] = some null := by
  have hFinite : bounds.IsFinite := by
    refine (Json.isFinite_iff _).mpr ⟨nofun, fun items hItems => ?_⟩
    obtain rfl := List.mem_singleton.mp hItems
    refine (Json.isFinite_iff _).mpr ⟨nofun, fun item hItem => (Json.isFinite_iff item).mpr ?_⟩
    simp only [Json.inside, List.mem_cons, List.not_mem_nil, or_false] at hItem
    rcases hItem with rfl | rfl | rfl | rfl | rfl | rfl
    case inr.inr.inr.inr.inl =>
      refine ⟨fun y hy => ?_, nofun⟩
      obtain rfl : 5 = y := by simpa using hy
      decide +kernel
    all_goals exact ⟨nofun, nofun⟩
  obtain ⟨hFits, -, hSame, -⟩ := readings_agree bounds
  exact ⟨hFinite, ofJson bounds, hFits, hSame hFinite, rfl, rfl, rfl, rfl, rfl, rfl⟩

end Attribute

end FlagDecision
