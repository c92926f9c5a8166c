import FlagDecision.Store.Storage
import Mathlib.Data.List.Nodup
import Mathlib.Tactic.Tauto

/-! Decisions survive being stored. A record is read back member by member, in
whatever order they stand, so the proof follows the list of members and keeps
the part of the decision that the members so far have told. -/
namespace FlagDecision

namespace Json

variable {α : Type}

/-- A member with a new key takes its place among the others. -/
theorem insertMember_perm {key : String} (value : α) {l : List (String × α)}
    (h : key ∉ l.map Prod.fst) : (insertMember key value l).Perm ((key, value) :: l) := by
  induction l with
  | nil => exact List.Perm.refl _
  | cons entry rest ih =>
      obtain ⟨k, v⟩ := entry
      simp only [List.map_cons, List.mem_cons, not_or] at h
      simp only [insertMember, if_neg h.1]
      split
      · exact List.Perm.refl _
      · exact ((ih h.2).cons _).trans (List.Perm.swap _ _ _)

theorem foldl_insertMember_perm (l sorted : List (String × α))
    (h : ((sorted ++ l).map Prod.fst).Nodup) :
    (l.foldl (fun sorted (k, v) => insertMember k v sorted) sorted).Perm (sorted ++ l) := by
  induction l generalizing sorted with
  | nil => simp
  | cons entry rest ih =>
      obtain ⟨k, v⟩ := entry
      have hMiddle : (sorted ++ (k, v) :: rest).Perm ((k, v) :: sorted ++ rest) :=
        List.perm_middle
      have hKeys := (hMiddle.map Prod.fst).nodup_iff.mp h
      have hNew : k ∉ sorted.map Prod.fst := by
        simp only [List.cons_append, List.map_cons, List.map_append, List.nodup_cons,
          List.mem_append, not_or] at hKeys
        exact hKeys.1.1
      have hPerm := insertMember_perm v hNew
      have hRest := ih (insertMember k v sorted)
        (((hPerm.append_right rest).map Prod.fst).nodup_iff.mpr hKeys)
      exact (hRest.trans (hPerm.append_right rest)).trans hMiddle.symm

theorem ofMembers_perm {l : List (String × Json)} (h : (l.map Prod.fst).Nodup) :
    ∃ members, ofMembers l = object members ∧ members.Perm l :=
  ⟨_, rfl, foldl_insertMember_perm l [] (by simpa using h)⟩

namespace Reading

mutual

/-- A JSON value has no fault that passing over it could meet. -/
theorem skip_ofJson : (j : Json) → (ofJson j).skip = .ok ()
  | .null | .bool _ | .number _ | .string _ => by simp [ofJson, skip]
  | .array items => by
      simp only [ofJson, skip, skipItems_ofItems items]
      rfl
  | .object members => by
      simp only [ofJson, skip, skipMembers_ofMembers members]
      rfl

theorem skipItems_ofItems : (items : List Json) → skipItems (ofJson.ofItems items) = .ok ()
  | [] => by simp [ofJson.ofItems, skipItems]
  | item :: rest => by
      simp only [ofJson.ofItems, skipItems, skip_ofJson item, skipItems_ofItems rest]
      rfl

theorem skipMembers_ofMembers :
    (members : List (String × Json)) → skipMembers (ofJson.ofMembers members) = .ok ()
  | [] => by simp [ofJson.ofMembers, skipMembers]
  | (key, value) :: rest => by
      simp only [ofJson.ofMembers, skipMembers, skip, skip_ofJson value,
        skipMembers_ofMembers rest]
      rfl

end

end Reading

end Json

namespace StoredDecision

open Json (Decoder)

/-- All identifiers of the decision are words of 64 bits. -/
structure FitsWords (d : StoredDecision) : Prop where
  rolloutId : ∀ n ∈ d.rolloutId, n < word64Limit
  rolloutVariationId : ∀ n ∈ d.rolloutVariationId, n < word64Limit
  experimentId : ∀ n ∈ d.experimentId, n < word64Limit
  experimentVariationId : ∀ n ∈ d.experimentVariationId, n < word64Limit

/-- A number, or null for none. -/
def numberOrNull (v : Option Nat) : Json := (v.map Json.ofNat).getD .null

/-- A text, or null for none. -/
def textOrNull (v : Option String) : Json := (v.map Json.string).getD .null

/-- A member of a record tells its part of the decision. Members with other names may say
anything. -/
structure Told (d : StoredDecision) (member : String × Json) : Prop where
  featureKey : member.1 = "featureKey" → member.2 = .string d.featureKey
  userId : member.1 = "userId" → member.2 = .string d.userId
  rolloutId : member.1 = "rolloutId" → member.2 = numberOrNull d.rolloutId
  rolloutKey : member.1 = "rolloutKey" → member.2 = textOrNull d.rolloutKey
  rolloutVariationId :
    member.1 = "rolloutVariationId" → member.2 = numberOrNull d.rolloutVariationId
  experimentId : member.1 = "experimentId" → member.2 = numberOrNull d.experimentId
  experimentKey : member.1 = "experimentKey" → member.2 = textOrNull d.experimentKey
  experimentVariationId :
    member.1 = "experimentVariationId" → member.2 = numberOrNull d.experimentVariationId

/-- What the members with the names in `seen` tell of a decision. -/
def toldBy (d : StoredDecision) (seen : List String) : StoredDecision where
  featureKey := if "featureKey" ∈ seen then d.featureKey else ""
  userId := if "userId" ∈ seen then d.userId else ""
  rolloutId := if "rolloutId" ∈ seen then d.rolloutId else none
  rolloutKey := if "rolloutKey" ∈ seen then d.rolloutKey else none
  rolloutVariationId := if "rolloutVariationId" ∈ seen then d.rolloutVariationId else none
  experimentId := if "experimentId" ∈ seen then d.experimentId else none
  experimentKey := if "experimentKey" ∈ seen then d.experimentKey else none
  experimentVariationId :=
    if "experimentVariationId" ∈ seen then d.experimentVariationId else none

theorem word_numberOrNull {v : Option Nat} (h : ∀ n ∈ v, n < word64Limit) (depth : Nat) :
    Decoder.nullable .word64 depth (.ofJson (numberOrNull v)) = .ok v := by
  cases v with
  | none => rfl
  | some n =>
      have hn : n < word64Limit := h n rfl
      have hBound : (0 : Int) ≤ n ∧ (n : Int) ≤ (Nat.pow 2 64 - 1 : Nat) := by
        simp only [word64Limit, Nat.pow_eq] at hn ⊢
        omega
      change some <$> Decoder.natural (Nat.pow 2 64 - 1) depth (.number (.whole n)) = _
      simp only [Decoder.natural, if_pos hBound]
      rfl

theorem text_textOrNull (v : Option String) (depth : Nat) :
    Decoder.nullable .text depth (.ofJson (textOrNull v)) = .ok v := by
  cases v <;> rfl

theorem read_told {d : StoredDecision} (hWords : d.FitsWords) (depth : Nat)
    {field : Json.Field StoredDecision} (hField : field ∈ fields) {j : Json}
    (h : d.Told (field.name, j)) :
    ∃ set, field.read depth (.ofJson j) = .ok set ∧
      ∀ seen, set (d.toldBy seen) = d.toldBy (field.name :: seen) := by
  simp only [fields, List.mem_cons, List.not_mem_nil, or_false] at hField
  rcases hField with rfl | rfl | rfl | rfl | rfl | rfl | rfl | rfl
  · obtain rfl : j = _ := h.featureKey rfl
    exact ⟨_, rfl, fun seen => by simp [toldBy, Json.Field.needed]⟩
  · obtain rfl : j = _ := h.userId rfl
    exact ⟨_, rfl, fun seen => by simp [toldBy, Json.Field.needed]⟩
  · obtain rfl : j = _ := h.rolloutId rfl
    refine ⟨_, congrArg (_ <$> ·) (word_numberOrNull hWords.rolloutId depth), fun seen => ?_⟩
    simp [toldBy, Json.Field.optional]
  · obtain rfl : j = _ := h.rolloutKey rfl
    refine ⟨_, congrArg (_ <$> ·) (text_textOrNull d.rolloutKey depth), fun seen => ?_⟩
    simp [toldBy, Json.Field.optional]
  · obtain rfl : j = _ := h.rolloutVariationId rfl
    refine ⟨_, congrArg (_ <$> ·) (word_numberOrNull hWords.rolloutVariationId depth),
      fun seen => ?_⟩
    simp [toldBy, Json.Field.optional]
  · obtain rfl : j = _ := h.experimentId rfl
    refine ⟨_, congrArg (_ <$> ·) (word_numberOrNull hWords.experimentId depth), fun seen => ?_⟩
    simp [toldBy, Json.Field.optional]
  · obtain rfl : j = _ := h.experimentKey rfl
    refine ⟨_, congrArg (_ <$> ·) (text_textOrNull d.experimentKey depth), fun seen => ?_⟩
    simp [toldBy, Json.Field.optional]
  · obtain rfl : j = _ := h.experimentVariationId rfl
    refine ⟨_, congrArg (_ <$> ·) (word_numberOrNull hWords.experimentVariationId depth),
      fun seen => ?_⟩
    simp [toldBy, Json.Field.optional]

/-- One member of a record after another: an unknown one is passed over, a known one read. -/
theorem recordMembers_cons {σ : Type} (fields : List (Json.Field σ)) (depth : Nat)
    (seen : List String) (x : σ) (key : String) (r : Json.Reading)
    (rest : List (Json.Reading × Json.Reading)) :
    Decoder.recordMembers fields depth seen x ((.string key, r) :: rest) =
      match fields.find? (·.name == key) with
      | none => r.skip.bind fun _ => Decoder.recordMembers fields depth seen x rest
      | some field =>
        if seen.contains key then .error .unfit
        else (field.read depth r).bind fun set =>
          Decoder.recordMembers fields depth (key :: seen) (set x) rest := by
  rw [Decoder.recordMembers]
  change (match fields.find? (·.name == key) with | none => _ | some field => _) = _
  cases fields.find? (·.name == key) with
  | none => rfl
  | some field =>
      change (if seen.contains key then _ else _) = _
      split <;> rfl

/-- Names that a record of a decision knows. -/
def fieldNames : List String := fields.map (·.name)

/-- Reading members with different names tells exactly what the known ones among them tell. -/
theorem recordMembers_told {d : StoredDecision} (hWords : d.FitsWords) (depth : Nat)
    (members : List (String × Json)) (hTold : ∀ member ∈ members, d.Told member)
    (seen : List String) (hNodup : (members.map Prod.fst ++ seen).Nodup) :
    ∃ seen', Decoder.recordMembers fields depth seen (d.toldBy seen)
        (Json.Reading.ofJson.ofMembers members) = .ok (seen', d.toldBy seen') ∧
      ∀ name ∈ fieldNames, name ∈ seen' ↔ name ∈ members.map Prod.fst ∨ name ∈ seen := by
  induction members generalizing seen with
  | nil => exact ⟨seen, rfl, by simp⟩
  | cons member rest ih =>
      obtain ⟨key, j⟩ := member
      have hRest : ∀ member ∈ rest, d.Told member :=
        fun member hm => hTold member (List.mem_cons_of_mem _ hm)
      simp only [List.map_cons, List.cons_append, List.nodup_cons, List.mem_append, not_or]
        at hNodup
      cases hFind : fields.find? (·.name == key) with
      | none =>
          obtain ⟨seen', hRead, hSeen⟩ := ih hRest seen hNodup.2
          refine ⟨seen', ?_, fun name hName => ?_⟩
          · rw [Json.Reading.ofJson.ofMembers, recordMembers_cons, hFind, Json.Reading.skip_ofJson]
            exact hRead
          · have hOther : name ≠ key := by
              rintro rfl
              obtain ⟨field, hField, hEq⟩ := List.mem_map.mp hName
              exact absurd (List.find?_eq_none.mp hFind field hField) (by simp [hEq])
            simp [hSeen name hName, hOther]
      | some field =>
          have hKey : field.name = key := by simpa using List.find?_some hFind
          subst hKey
          obtain ⟨set, hSet, hTells⟩ := read_told hWords depth (List.mem_of_find?_eq_some hFind)
            (hTold _ List.mem_cons_self)
          have hNodup' : (rest.map Prod.fst ++ field.name :: seen).Nodup := by
            rw [List.nodup_middle]
            exact List.nodup_cons.mpr ⟨by simp [hNodup.1], hNodup.2⟩
          obtain ⟨seen', hRead, hSeen⟩ := ih hRest (field.name :: seen) hNodup'
          refine ⟨seen', ?_, fun name hName => ?_⟩
          · have hNew : seen.contains field.name = false := by simpa using hNodup.1.2
            rw [Json.Reading.ofJson.ofMembers, recordMembers_cons, hFind]
            simp only [hNew, hSet, Except.bind, hTells]
            exact hRead
          · simp only [hSeen name hName, List.map_cons, List.mem_cons]
            tauto

/-- A part that some member tells, or that is absent, is known in the end. -/
theorem toldBy_eq_self {d : StoredDecision} {seen : List String}
    (hFeature : "featureKey" ∈ seen) (hUser : "userId" ∈ seen)
    (hRolloutId : d.rolloutId ≠ none → "rolloutId" ∈ seen)
    (hRolloutKey : d.rolloutKey ≠ none → "rolloutKey" ∈ seen)
    (hRolloutVariationId : d.rolloutVariationId ≠ none → "rolloutVariationId" ∈ seen)
    (hExperimentId : d.experimentId ≠ none → "experimentId" ∈ seen)
    (hExperimentKey : d.experimentKey ≠ none → "experimentKey" ∈ seen)
    (hExperimentVariationId :
      d.experimentVariationId ≠ none → "experimentVariationId" ∈ seen) :
    d.toldBy seen = d := by
  have hPart : ∀ {α : Type} (part : Option α) (name : String),
      (part ≠ none → name ∈ seen) → (if name ∈ seen then part else none) = part := by
    intro α part name h
    cases part with
    | none => simp
    | some v => simp [h]
  simp only [toldBy, if_pos hFeature, if_pos hUser, hPart _ _ hRolloutId, hPart _ _ hRolloutKey,
    hPart _ _ hRolloutVariationId, hPart _ _ hExperimentId, hPart _ _ hExperimentKey,
    hPart _ _ hExperimentVariationId]

theorem mem_parts {d : StoredDecision} {member : String × Json} :
    member ∈ d.parts ↔
      member = ("featureKey", .string d.featureKey) ∨ member = ("userId", .string d.userId) ∨
      (∃ n, d.rolloutId = some n ∧ ("rolloutId", .ofNat n) = member) ∨
      (∃ s, d.rolloutKey = some s ∧ ("rolloutKey", .string s) = member) ∨
      (∃ n, d.rolloutVariationId = some n ∧ ("rolloutVariationId", .ofNat n) = member) ∨
      (∃ n, d.experimentId = some n ∧ ("experimentId", .ofNat n) = member) ∨
      (∃ s, d.experimentKey = some s ∧ ("experimentKey", .string s) = member) ∨
      (∃ n, d.experimentVariationId = some n ∧ ("experimentVariationId", .ofNat n) = member) := by
  simp only [parts, List.mem_append, Option.mem_toList, Option.map_eq_some_iff, List.mem_cons,
    List.not_mem_nil, or_false, or_assoc]

theorem told_of_mem_parts {d : StoredDecision} {member : String × Json} (h : member ∈ d.parts) :
    d.Told member := by
  rw [mem_parts] at h
  rcases h with rfl | rfl | ⟨_, hPart, rfl⟩ | ⟨_, hPart, rfl⟩ | ⟨_, hPart, rfl⟩ |
      ⟨_, hPart, rfl⟩ | ⟨_, hPart, rfl⟩ | ⟨_, hPart, rfl⟩ <;>
    constructor <;> simp_all [numberOrNull, textOrNull]

theorem parts_names_sublist (d : StoredDecision) : (d.parts.map Prod.fst).Sublist fieldNames := by
  have hPart : ∀ {α : Type} (name : String) (f : α → Json) (v : Option α),
      ((v.map fun x => (name, f x)).toList.map Prod.fst).Sublist [name] := by
    intro α name f v
    cases v <;> simp
  simp only [parts, List.map_append]
  exact ((((((List.Sublist.refl _).append (hPart "rolloutId" _ _)).append
    (hPart "rolloutKey" _ _)).append (hPart "rolloutVariationId" _ _)).append
    (hPart "experimentId" _ _)).append (hPart "experimentKey" _ _)).append
    (hPart "experimentVariationId" _ _)

theorem parts_names_nodup (d : StoredDecision) : (d.parts.map Prod.fst).Nodup :=
  (parts_names_sublist d).nodup (by decide)

/-- A record reads as a decision if its members tell it and none of the parts is missing. Further
members and nulls for absent parts do no harm. -/
theorem ofJson?_of_told {d : StoredDecision} (hWords : d.FitsWords)
    {members : List (String × Json)} (hNodup : (members.map Prod.fst).Nodup)
    (hTold : ∀ member ∈ members, d.Told member)
    (hParts : ∀ member ∈ d.parts, member.1 ∈ members.map Prod.fst) :
    ofJson? (.object members) = some d := by
  obtain ⟨seen, hRead, hSeen⟩ := recordMembers_told hWords 126 members hTold []
    (by simpa using hNodup)
  have hIn : ∀ name ∈ fieldNames, (∃ j, (name, j) ∈ d.parts) → name ∈ seen := by
    rintro name hName ⟨j, hj⟩
    exact (hSeen name hName).mpr (Or.inl (hParts (name, j) hj))
  have hFeature : "featureKey" ∈ seen :=
    hIn _ (by decide) ⟨_, mem_parts.mpr (Or.inl rfl)⟩
  have hUser : "userId" ∈ seen :=
    hIn _ (by decide) ⟨_, mem_parts.mpr (Or.inr (Or.inl rfl))⟩
  have hAll : d.toldBy seen = d := by
    apply toldBy_eq_self hFeature hUser <;> intro hSome <;>
      obtain ⟨v, hv⟩ := Option.ne_none_iff_exists'.mp hSome <;>
      exact hIn _ (by decide) (by simp [mem_parts, hv])
  have hComplete : Decoder.record.complete fields (fun p => p == .needed) seen d = .ok d := by
    simp [Decoder.record.complete, fields, Json.Field.needed, Json.Field.optional, hFeature, hUser]
  have hRecord : decoder 127 (.object (Json.Reading.ofJson.ofMembers members) none) = .ok d := by
    change (Decoder.recordMembers fields 126 [] (d.toldBy []) _).bind _ = _
    rw [hRead, hAll]
    exact hComplete
  change ((decoder 127 (.object (Json.Reading.ofJson.ofMembers members) none)).mapError
    _).toOption = _
  rw [hRecord]
  rfl

/-- What is stored is read back. -/
theorem ofJson?_toJson {d : StoredDecision} (hWords : d.FitsWords) : ofJson? d.toJson = some d := by
  obtain ⟨members, hObject, hPerm⟩ := Json.ofMembers_perm (parts_names_nodup d)
  rw [toJson, hObject]
  apply ofJson?_of_told hWords ((hPerm.map Prod.fst).nodup_iff.mpr (parts_names_nodup d))
  · exact fun member hm => told_of_mem_parts (hPerm.mem_iff.mp hm)
  · exact fun member hm => List.mem_map_of_mem (hPerm.mem_iff.mpr hm)

end StoredDecision

end FlagDecision
