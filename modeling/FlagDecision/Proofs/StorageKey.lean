import FlagDecision.Store.Decision

/-! The keys of the storage. A key of a group begins with an underscore and the
reserved words, so it is never the key of a plainly named feature. The digits of
the group end at the first underscore after them, whatever the user is called. -/
namespace FlagDecision.StoredDecision

/-- A feature key that is not empty and does not begin with an underscore. -/
def IsPlainKey (featureKey : String) : Prop :=
  featureKey ≠ "" ∧ featureKey.toList.head? ≠ some '_'

instance (featureKey : String) : Decidable (IsPlainKey featureKey) :=
  inferInstanceAs (Decidable (_ ∧ _))

/-- The key under which the winner of a group is stored for a user. -/
def groupKey (groupId : Nat) (userId : String) : String :=
  storageKey (groupFeatureKey groupId) userId

theorem groupKey_toList (groupId : Nat) (userId : String) :
    (groupKey groupId userId).toList =
      "_vwo_meta_meg_".toList ++ (Nat.toDigits 10 groupId ++ '_' :: userId.toList) := by
  simp [groupKey, storageKey, groupFeatureKey, Nat.toString_eq_repr, Nat.toList_repr]

theorem underscore_notMem_digits (n : Nat) : '_' ∉ Nat.toDigits 10 n := by
  intro h
  have hDigit := Nat.isDigit_of_mem_toDigits (by decide) (by decide) h
  exact absurd hDigit (by decide)

theorem digits_injective {m n : Nat} (h : Nat.toDigits 10 m = Nat.toDigits 10 n) : m = n := by
  have hValue := congrArg (fun digits => Nat.ofDigitChars 10 digits 0) h
  simpa using hValue

/-- Two texts that meet at the first underscore agree on both sides of it. -/
theorem append_underscore_inj {a b c d : List Char} (ha : '_' ∉ a) (hb : '_' ∉ b)
    (h : a ++ '_' :: c = b ++ '_' :: d) : a = b ∧ c = d := by
  induction a generalizing b with
  | nil =>
      cases b with
      | nil => simpa using h
      | cons y b => exact absurd (List.cons.inj h).1 (by rintro rfl; simp at hb)
  | cons x a ih =>
      cases b with
      | nil => exact absurd (List.cons.inj h).1 (by rintro rfl; simp at ha)
      | cons y b =>
          obtain ⟨rfl, hRest⟩ := List.cons.inj h
          obtain ⟨rfl, rfl⟩ := ih (fun hm => ha (List.mem_cons_of_mem _ hm))
            (fun hm => hb (List.mem_cons_of_mem _ hm)) hRest
          exact ⟨rfl, rfl⟩

theorem groupKey_inj {g g' : Nat} {u u' : String} (h : groupKey g u = groupKey g' u') :
    g = g' ∧ u = u' := by
  have hList := congrArg String.toList h
  rw [groupKey_toList, groupKey_toList] at hList
  obtain ⟨hDigits, hUser⟩ := append_underscore_inj (underscore_notMem_digits g)
    (underscore_notMem_digits g') (List.append_cancel_left hList)
  exact ⟨digits_injective hDigits, String.toList_injective hUser⟩

/-- No plainly named feature is stored where a group is. -/
theorem groupKey_ne_storageKey {f : String} (hPlain : IsPlainKey f) (g : Nat) (u u' : String) :
    groupKey g u ≠ storageKey f u' := by
  intro h
  have hHead := congrArg (fun s : String => s.toList.head?) h
  obtain ⟨hEmpty, hFirst⟩ := hPlain
  cases hf : f.toList with
  | nil => exact hEmpty (String.toList_eq_nil_iff.mp hf)
  | cons c cs =>
      simp only [groupKey_toList, storageKey, String.toList_append, hf] at hHead
      simp only [hf, List.head?_cons] at hFirst
      exact hFirst hHead.symm

theorem IsPlainKey.ne_groupFeatureKey {f : String} (hPlain : IsPlainKey f) (g : Nat) :
    f ≠ groupFeatureKey g :=
  fun hKey => groupKey_ne_storageKey hPlain g "" "" (congrArg (storageKey · "") hKey.symm)

/-- For one user, different features are stored under different keys. -/
theorem storageKey_left_inj {f f' u : String} (h : storageKey f u = storageKey f' u) :
    f = f' := by
  have hList := congrArg String.toList h
  simp only [storageKey, String.toList_append, List.append_assoc] at hList
  exact String.toList_injective (List.append_cancel_right hList)

/-- The keys of groups meet neither one another nor those of plainly named features: from the key
of a group the group and the user can be told, with any digits and underscores in the
name of the user. -/
theorem groupKeys_apart (g : Nat) (u : String) :
    (∀ g' u', storageKey (groupFeatureKey g) u = storageKey (groupFeatureKey g') u' ↔
      g = g' ∧ u = u') ∧
    ∀ f u', IsPlainKey f → storageKey (groupFeatureKey g) u ≠ storageKey f u' := by
  refine ⟨fun g' u' => ⟨groupKey_inj, ?_⟩, fun f u' hPlain => groupKey_ne_storageKey hPlain g u u'⟩
  rintro ⟨rfl, rfl⟩
  rfl

/-- Users whose names go on like the number of a group, and a feature named like one. -/
theorem groupKeys_apart_one :
    storageKey (groupFeatureKey 1) "2_u" ≠ storageKey (groupFeatureKey 12) "u" ∧
      storageKey (groupFeatureKey 1) "2_u" ≠ storageKey (groupFeatureKey 1) "_2_u" ∧
      IsPlainKey "vwo_meta_meg_1" ∧
      storageKey (groupFeatureKey 1) "2_u" ≠ storageKey "vwo_meta_meg_1" "2_u" := by
  obtain ⟨hGroups, hFeatures⟩ := groupKeys_apart 1 "2_u"
  have hPlain : IsPlainKey "vwo_meta_meg_1" := by decide
  refine ⟨fun h => ?_, fun h => ?_, hPlain, hFeatures _ _ hPlain⟩
  · exact absurd ((hGroups 12 "u").mp h).1 (by decide)
  · exact absurd ((hGroups 1 "_2_u").mp h).2 (by decide)

-- A feature with an empty key can be stored where a group is.
example : storageKey "" "vwo_meta_meg_7_u" = storageKey (groupFeatureKey 7) "u" := by decide

end FlagDecision.StoredDecision
