import FlagDecision.Evaluation.Rules
import FlagDecision.Proofs.KeptAnswers
import FlagDecision.Proofs.StoredRecord

/-! The records of decisions. A decision is stored without its absent parts, and is read
again from that record and from any that tells the same: with null for absent parts,
with further members, and in any order. -/
namespace FlagDecision

/-- A member of a table without repeated keys is found under its key. -/
theorem Table.lookup_of_mem {κ α : Type} [DecidableEq κ] {t : Table κ α} {entry : κ × α}
    (hKeys : (t.map Prod.fst).Nodup) (hEntry : entry ∈ t) : t.lookup entry.1 = some entry.2 := by
  obtain ⟨before, after, rfl⟩ := List.append_of_mem hEntry
  rw [List.lookup_eq_some_iff]
  refine ⟨before, after, rfl, fun other hOther => ?_⟩
  rw [List.map_append, List.map_cons, List.nodup_append] at hKeys
  have hApart := hKeys.2.2 other.1 (List.mem_map_of_mem hOther) entry.1 List.mem_cons_self
  exact bne_iff_ne.mpr hApart.symm

namespace StoredDecision

variable {d : StoredDecision} {members : List (String × Json)}

/-- What is found under the name of a part tells the part: it is the value of the part, and of an
absent part it is nothing or null. -/
def TellsPart (found part : Option Json) : Prop :=
  found = part ∨ part = none ∧ found = some .null

/-- The members of a record write a decision. What other names hold does not matter. -/
structure WrittenAs (d : StoredDecision) (members : List (String × Json)) : Prop where
  once : (members.map Prod.fst).Nodup
  featureKey : members.lookup "featureKey" = some (.string d.featureKey)
  userId : members.lookup "userId" = some (.string d.userId)
  rolloutId : TellsPart (members.lookup "rolloutId") (d.rolloutId.map .ofNat)
  rolloutKey : TellsPart (members.lookup "rolloutKey") (d.rolloutKey.map .string)
  rolloutVariationId :
    TellsPart (members.lookup "rolloutVariationId") (d.rolloutVariationId.map .ofNat)
  experimentId : TellsPart (members.lookup "experimentId") (d.experimentId.map .ofNat)
  experimentKey : TellsPart (members.lookup "experimentKey") (d.experimentKey.map .string)
  experimentVariationId :
    TellsPart (members.lookup "experimentVariationId") (d.experimentVariationId.map .ofNat)

theorem TellsPart.eq_getD {value : Json} {part : Option Json} (h : TellsPart (some value) part) :
    value = part.getD .null := by
  rcases h with rfl | ⟨rfl, hNull⟩
  · rfl
  · exact Option.some.inj hNull

/-- A part that is there is found as it is. -/
theorem TellsPart.found {found : Option Json} {value : Json} (h : TellsPart found (some value)) :
    found = some value := by
  rcases h with hFound | ⟨hNone, -⟩
  · exact hFound
  · cases hNone

theorem WrittenAs.told (h : d.WrittenAs members) {member : String × Json}
    (hMember : member ∈ members) : d.Told member := by
  obtain ⟨name, value⟩ := member
  have hFound : members.lookup name = some value := Table.lookup_of_mem h.once hMember
  constructor <;> rintro rfl
  · exact Option.some.inj (hFound.symm.trans h.featureKey)
  · exact Option.some.inj (hFound.symm.trans h.userId)
  · exact (hFound ▸ h.rolloutId).eq_getD
  · exact (hFound ▸ h.rolloutKey).eq_getD
  · exact (hFound ▸ h.rolloutVariationId).eq_getD
  · exact (hFound ▸ h.experimentId).eq_getD
  · exact (hFound ▸ h.experimentKey).eq_getD
  · exact (hFound ▸ h.experimentVariationId).eq_getD

theorem WrittenAs.mem_parts (h : d.WrittenAs members) {part : String × Json}
    (hPart : part ∈ d.parts) : part ∈ members := by
  have hFound : ∀ {name : String} {value : Json} {told : Option Json},
      TellsPart (members.lookup name) told → told = some value → (name, value) ∈ members := by
    rintro name value told hTells rfl
    exact Table.mem_of_lookup hTells.found
  rw [StoredDecision.mem_parts] at hPart
  rcases hPart with rfl | rfl | ⟨_, hSome, rfl⟩ | ⟨_, hSome, rfl⟩ | ⟨_, hSome, rfl⟩ |
    ⟨_, hSome, rfl⟩ | ⟨_, hSome, rfl⟩ | ⟨_, hSome, rfl⟩
  · exact Table.mem_of_lookup h.featureKey
  · exact Table.mem_of_lookup h.userId
  · exact hFound h.rolloutId (by rw [hSome]; rfl)
  · exact hFound h.rolloutKey (by rw [hSome]; rfl)
  · exact hFound h.rolloutVariationId (by rw [hSome]; rfl)
  · exact hFound h.experimentId (by rw [hSome]; rfl)
  · exact hFound h.experimentKey (by rw [hSome]; rfl)
  · exact hFound h.experimentVariationId (by rw [hSome]; rfl)

theorem ofJson?_of_writtenAs (hWords : d.FitsWords) (h : d.WrittenAs members) :
    ofJson? (.object members) = some d :=
  ofJson?_of_told hWords h.once (fun _ => h.told)
    fun _ hPart => List.mem_map_of_mem (h.mem_parts hPart)

end StoredDecision

/-- The record under the key of a feature and a user is what counts as their decision. -/
theorem Storage.decision?_put {s : Storage} (hReads : s.refusesReads = false)
    (featureKey userId : String) (record : Json) :
    (s.put (StoredDecision.storageKey featureKey userId) record).decision? featureKey userId =
      StoredDecision.ofJson? record := by
  simp [Storage.decision?, Storage.get, Storage.put, hReads]

namespace Inquiry

open StoredDecision

/-- A decision recorded in a storage is found there as it was, and nothing else in the storage
changes. Every record that writes the decision, whatever else it holds, is read as it too. -/
theorem recorded_survives {d : StoredDecision} (hWords : d.FitsWords) (p : Progress)
    (records : Table String Json) :
    ∃ s, (recorded d { p with storage := some { records } }).storage = some s ∧
      s.decision? d.featureKey d.userId = some d ∧
      (∀ key, key ≠ storageKey d.featureKey d.userId →
        s.get key = Storage.get { records } key) ∧
      ∀ members, d.WrittenAs members → ofJson? (.object members) = some d := by
  refine ⟨Storage.put { records } (storageKey d.featureKey d.userId) d.toJson, rfl, ?_,
    fun key hKey => ?_, fun members hWritten => ofJson?_of_writtenAs hWords hWritten⟩
  · rw [Storage.decision?_put rfl, ofJson?_toJson hWords]
  · exact congrArg Except.ok (Table.lookup_put_of_ne _ _ hKey)

/-- An experiment was shown, and no rollout. -/
def onlyExperiment : StoredDecision where
  featureKey := "f"
  userId := "u"
  experimentId := some 18446744073709551615
  experimentKey := some "e"
  experimentVariationId := some 0

/-- A record of the decision with a null, an unknown member, and no order. -/
def onlyExperimentMembers : List (String × Json) := [
  ("note", .array [.null]), ("experimentVariationId", .ofNat 0), ("rolloutKey", .null),
  ("experimentKey", .string "e"), ("userId", .string "u"), ("featureKey", .string "f"),
  ("experimentId", .ofNat 18446744073709551615)]

theorem onlyExperiment_survives :
    onlyExperiment.FitsWords ∧ onlyExperiment.WrittenAs onlyExperimentMembers ∧
      ∃ s, (recorded onlyExperiment
          ⟨⟨⟨0, 0, []⟩, []⟩, some { records := [("g_u", .null)] }, [], [], []⟩).storage = some s ∧
        s.decision? "f" "u" = some onlyExperiment ∧ s.get "g_u" = .ok (some .null) ∧
        ofJson? (.object onlyExperimentMembers) = some onlyExperiment := by
  have hWords : onlyExperiment.FitsWords :=
    ⟨by simp [onlyExperiment], by simp [onlyExperiment], by decide, by decide⟩
  have hWritten : onlyExperiment.WrittenAs onlyExperimentMembers :=
    ⟨by decide, rfl, rfl, Or.inl rfl, Or.inr ⟨rfl, rfl⟩, Or.inl rfl, Or.inl rfl, Or.inl rfl,
      Or.inl rfl⟩
  obtain ⟨s, hStorage, hFound, hOther, hRecord⟩ := recorded_survives hWords
    ⟨⟨⟨0, 0, []⟩, []⟩, none, [], [], []⟩ [("g_u", .null)]
  exact ⟨hWords, hWritten, s, hStorage, hFound, hOther "g_u" (by decide), hRecord _ hWritten⟩

end Inquiry

end FlagDecision
