import FlagDecision.Proofs.Coherence
import FlagDecision.Proofs.Linking
import FlagDecision.Proofs.Mirror

/-! Decisions that went out of date. A stored decision is read for its experiment, for its
rollout and for the place of a campaign in a contest, and each time it has to name a
campaign and a variation that the settings still have. Where it names none, or cannot be
read at all, the rules come to what they come to without it, and put theirs in its place. -/
namespace FlagDecision

open Step Storage StoredDecision

namespace Storage

/-- The storage without the record of a key. -/
def forget (s : Storage) (key : String) : Storage := { s with records := s.records.without key }

theorem recordOf_forget_self (storage : Option Storage) (key : String) :
    recordOf (storage.map (·.forget key)) key = none := by
  cases storage <;> simp [recordOf, forget]

theorem recordOf_forget_of_ne (storage : Option Storage) {key other : String}
    (h : other ≠ key) :
    recordOf (storage.map (·.forget key)) other = recordOf storage other := by
  cases storage <;> simp [recordOf, forget, Table.lookup_without_of_ne _ h]

end Storage

/-- The memory without the record of a key. -/
def Memory.forget (m : Memory) (key : String) : Memory :=
  { m with storage := m.storage.map (·.forget key) }

/-- The own segment of a campaign and the segments of its variations. -/
def Campaign.trees (c : Campaign) : List Segment :=
  c.segments.toList ++ c.variations.filterMap (·.segments)

theorem Campaign.preSegmentation_mem_trees {c : Campaign} {s : Segment}
    (h : c.preSegmentation = some s) : s ∈ c.trees := by
  rw [preSegmentation] at h
  split at h
  · obtain ⟨v, hv, hSegment⟩ := Option.bind_eq_some_iff.mp h
    exact List.mem_append_right _ (List.mem_filterMap.mpr ⟨v, List.mem_of_mem_head? hv, hSegment⟩)
  · exact List.mem_append_left _ (by simp [h])

namespace Settings

variable {s : Settings} {d : StoredDecision}

/-- No tree asks whether a decision is stored for the feature of a key. -/
def NeverAsks (s : Settings) (featureKey : String) : Prop :=
  ∀ f ∈ s.features, ∀ c ∈ f.linked, ∀ tree ∈ c.trees, ∀ id ∈ tree.featureIds,
    ∀ other ∈ s.featureById? id, other.key ≠ featureKey

instance (s : Settings) (featureKey : String) : Decidable (s.NeverAsks featureKey) :=
  inferInstanceAs (Decidable (∀ _ ∈ _, _))

/-- Nothing that a decision names is found in the settings. -/
def Outdated (s : Settings) (d : StoredDecision) : Prop :=
  ∀ key id, d.Names key id → s.variationByKey? key id = none

namespace Outdated

theorem storedExperiment?_eq (h : s.Outdated d) : Evaluator.storedExperiment? s d = none := by
  by_contra hFound
  obtain ⟨choice, hChoice⟩ := Option.ne_none_iff_exists'.mp hFound
  obtain ⟨hNames, hKnown⟩ := Evaluator.names_of_storedExperiment? hChoice
  simp [h _ _ hNames] at hKnown

theorem storedRollout?_eq (h : s.Outdated d) : Evaluator.storedRollout? s d = none := by
  by_contra hFound
  obtain ⟨choice, hChoice⟩ := Option.ne_none_iff_exists'.mp hFound
  obtain ⟨hNames, hKnown⟩ := Evaluator.names_of_storedRollout? hChoice
  simp [h _ _ hNames] at hKnown

/-- A linked campaign is not stored by such a decision, though it may have fewer variations than the
settings know. -/
theorem isStoredFor_eq (h : s.Outdated d) (hReady : s.Ready)
    (hKeys : (s.campaigns.map (·.key)).Nodup) {f : Feature} {c : Campaign}
    (hFeature : f ∈ s.features) (hLinked : c ∈ f.linked) :
    Inquiry.isStoredFor d c = false := by
  by_contra hStored
  have hNamed : ∃ id, d.Names c.key id ∧ (c.variation? id).isSome = true := by
    simp only [Inquiry.isStoredFor, Bool.not_eq_false, Bool.and_eq_true, beq_iff_eq,
      Option.any_eq_true] at hStored
    split at hStored
    · obtain ⟨hKey, id, hId, hVariation⟩ := hStored
      exact ⟨id, Or.inr ⟨hKey, hId⟩, hVariation⟩
    · obtain ⟨hKey, id, hId, hVariation⟩ := hStored
      exact ⟨id, Or.inl ⟨hKey, hId⟩, hVariation⟩
  obtain ⟨id, hNames, hVariation⟩ := hNamed
  obtain ⟨v, hv, hId⟩ := List.find?_isSome.mp hVariation
  obtain ⟨origin, -, hMem, hNarrow⟩ := hReady.origin hFeature hLinked
  have hCampaign : s.campaigns.find? (·.key == c.key) = some origin := by
    rw [hNarrow.key_eq]
    exact find?_of_nodup hKeys hMem
  have hFound : (origin.variation? id).isSome = true :=
    List.find?_isSome.mpr ⟨v, hNarrow.sublist.subset hv, hId⟩
  have hNone := h _ _ hNames
  simp only [variationByKey?, hCampaign, Option.bind_some, Option.bind_eq_bind] at hNone
  obtain ⟨w, hw⟩ := Option.isSome_iff_exists.mp hFound
  simp [hw] at hNone

end Outdated

end Settings

namespace Inquiry

variable {q : Inquiry} {p p' : Progress} {featureKey : String}

theorem storedDecision_forget_self (q : Inquiry) (storage : Option Storage)
    (featureKey : String) :
    q.storedDecision? (storage.map (·.forget (storageKey featureKey q.user.id))) featureKey =
      none := by
  rw [storedDecision?, Storage.decision?_eq, recordOf_forget_self]
  rfl

theorem storedDecision_forget_of_ne (q : Inquiry) (storage : Option Storage)
    {featureKey other : String} (h : other ≠ featureKey) :
    q.storedDecision? (storage.map (·.forget (storageKey featureKey q.user.id))) other =
      q.storedDecision? storage other := by
  rw [storedDecision?, storedDecision?, Storage.decision?_eq, Storage.decision?_eq,
    recordOf_forget_of_ne]
  exact fun hKey => h (storageKey_left_inj hKey)

/-- The decision of a feature is forgotten on one side, and out of date on the other. All else is
the same. -/
structure Forgotten (q : Inquiry) (featureKey : String) (p p' : Progress) : Prop where
  eq : p' = { p with storage := p.storage.map (·.forget (storageKey featureKey q.user.id)) }
  works : Works p.storage
  outdated : ∀ d, q.storedDecision? p.storage featureKey = some d → q.settings.Outdated d

/-- Recording another decision goes together with forgetting. -/
theorem recorded_forget {d : StoredDecision} {key : String}
    (h : storageKey d.featureKey d.userId ≠ key) (hWorks : Works p.storage) :
    recorded d { p with storage := p.storage.map (·.forget key) } =
      { recorded d p with storage := (recorded d p).storage.map (·.forget key) } := by
  obtain ⟨s, hStorage, -, hWrites⟩ := hWorks
  simp [recorded, hStorage, Storage.set?, hWrites, Storage.forget, Storage.put,
    Table.put_without_of_ne _ _ h]

/-- Where a decision is recorded, it does not matter whether the one before was forgotten. -/
theorem recorded_forgotten {d : StoredDecision} {key : String}
    (h : storageKey d.featureKey d.userId = key) (hWorks : Works p.storage) :
    recorded d { p with storage := p.storage.map (·.forget key) } = recorded d p := by
  subst h
  obtain ⟨s, hStorage, -, hWrites⟩ := hWorks
  simp [recorded, hStorage, Storage.set?, hWrites, Storage.forget, Storage.put,
    Table.put_without_self]

namespace Forgotten

theorem holds (h : q.Forgotten featureKey p p') {s : Option Segment}
    (hAsks : ∀ tree ∈ s, ∀ id ∈ tree.featureIds, ∀ other ∈ q.settings.featureById? id,
      other.key ≠ featureKey) (f : Feature) (attributes : Attributes) :
    (q.holds f attributes s).Together (q.holds f attributes s) p p'
      fun _ => q.Forgotten featureKey := by
  obtain ⟨rfl, hWorks, hOutdated⟩ := h
  have hSame : Segment.holdsOrAbsent
      (q.setting (p.storage.map (·.forget (storageKey featureKey q.user.id))) f) attributes s =
      Segment.holdsOrAbsent (q.setting p.storage f) attributes s := by
    cases s with
    | none => rfl
    | some tree =>
        refine Segment.holds_congr (q.setting p.storage f) tree fun id hId => ?_
        simp only [setting]
        cases hFound : q.settings.featureById? id with
        | none => rfl
        | some other =>
            rw [Option.map_some, Option.map_some, storedDecision_forget_of_ne]
            exact hAsks tree rfl id hId other hFound
  simp only [Together, Inquiry.holds, StateT.run, hSame]
  exact ⟨rfl, rfl, hWorks, hOutdated⟩

theorem crown (h : q.Forgotten featureKey p p') (hPlain : IsPlainKey featureKey) (g : Nat)
    (c : Campaign) :
    q.Forgotten featureKey ((recorded (q.winnerRecord g c) p).knowing g c.groupMember)
      ((recorded (q.winnerRecord g c) p').knowing g c.groupMember) := by
  obtain ⟨rfl, hWorks, hOutdated⟩ := h
  refine ⟨?_, (recorded_works _ hWorks).1, fun d hStored => hOutdated d ?_⟩
  · rw [recorded_forget (d := q.winnerRecord g c) (groupKey_ne_storageKey hPlain g _ _) hWorks]
    rfl
  · exact (storedDecision_recorded_of_ne rfl (hPlain.ne_groupFeatureKey g)).symm.trans hStored

end Forgotten

/-- A search does not notice a decision that is out of date, and that no tree asks about. -/
theorem forgotten_mirror (hReady : q.settings.Ready)
    (hKeys : (q.settings.campaigns.map (·.key)).Nodup) (hPlain : IsPlainKey featureKey)
    (hAsks : q.settings.NeverAsks featureKey) : q.Mirror q (q.Forgotten featureKey) where
  settings := rfl
  userId := rfl
  winners h := by rw [h.eq]
  rollouts h := by rw [h.eq]
  storedWinner h g _ := by
    rw [h.eq, storedWinner?, storedDecision_forget_of_ne _ _ (hPlain.ne_groupFeatureKey g).symm]
    rfl
  isStored h f hFeature c hLinked := by
    rw [h.eq]
    by_cases hKey : f.key = featureKey
    · rw [hKey, storedDecision_forget_self, Option.any_none, eq_comm, Option.any_eq_false]
      intro d hStored
      simp [(h.outdated d hStored).isStoredFor_eq hReady hKeys hFeature hLinked]
    · rw [storedDecision_forget_of_ne _ _ hKey]
  preSegmentation h f hFeature c hLinked :=
    h.holds (fun tree hTree => hAsks f hFeature c hLinked tree
      (Campaign.preSegmentation_mem_trees hTree)) f _
  know h g winner := ⟨by rw [h.eq]; rfl, h.works, h.outdated⟩
  remember h key decided := ⟨by rw [h.eq]; rfl, h.works, h.outdated⟩
  crown h := h.crown hPlain

end Inquiry

namespace Request

variable {r : Request} {m : Memory}

/-- A decision that is out of date, or a record that is none, bears on nothing. What is answered,
sent, asked and written is the same as without it, and a flag that is on leaves the same memory. -/
theorem answer_of_outdated (hReady : r.settings.Ready)
    (hKeys : (r.settings.campaigns.map (·.key)).Nodup)
    (hPlain : ∀ f ∈ r.settings.features, IsPlainKey f.key)
    (hAsks : r.settings.NeverAsks r.featureKey) (hWorks : Works m.storage)
    (hOutdated : ∀ d, m.decision? r.featureKey r.user.id = some d → r.settings.Outdated d) :
    let forgotten := m.forget (storageKey r.featureKey r.user.id)
    (r.answer forgotten).1 = (r.answer m).1 ∧
      ((r.answer m).1.detail.result.isEnabled = true →
        (r.answer forgotten).2 = (r.answer m).2) := by
  intro forgotten
  cases hKnown : r.settings.feature? r.featureKey with
  | none =>
      rw [answer_unknown m hKnown, answer_unknown forgotten hKnown]
      exact ⟨rfl, by simp [FlagResult.disabled]⟩
  | some f =>
      have hOwn : IsPlainKey r.featureKey :=
        key_eq hKnown ▸ hPlain f (List.mem_of_find?_eq_some hKnown)
      have hNone : forgotten.decision? r.featureKey r.user.id = none :=
        r.inquiry.storedDecision_forget_self m.storage r.featureKey
      have hExperiment : (m.decision? r.featureKey r.user.id).bind
          (Evaluator.storedExperiment? r.settings) = none :=
        Option.bind_eq_none_iff.mpr fun d hd => (hOutdated d hd).storedExperiment?_eq
      have hRollout : (m.decision? r.featureKey r.user.id).bind
          (Evaluator.storedRollout? r.settings) = none :=
        Option.bind_eq_none_iff.mpr fun d hd => (hOutdated d hd).storedRollout?_eq
      have hStart : r.inquiry.Forgotten r.featureKey m.progress forgotten.progress :=
        ⟨rfl, hWorks, hOutdated⟩
      have hMirror : r.inquiry.Mirror r.inquiry (r.inquiry.Forgotten r.featureKey) :=
        Inquiry.forgotten_mirror hReady hKeys hOwn hAsks
      have hAlike := answer_alike hMirror.nothing_apart hStart rfl
        (by rw [hNone, hExperiment]; rfl) (by rw [hNone, hRollout]; rfl) fun h f hFeature c hc =>
          Inquiry.whitelisting_together rfl (fun h v hv => h.holds (fun tree hTree =>
            hAsks f hFeature c (List.mem_of_mem_filter hc) tree
              (List.mem_append_right _ (List.mem_filterMap.mpr ⟨v, hv, hTree⟩))) f _) h
      generalize r.answer m = answer at hAlike ⊢
      generalize r.answer forgotten = answer' at hAlike ⊢
      cases hAlike with
      | refused => exact ⟨rfl, by simp [FlagResult.disabled]⟩
      | stored found => simp [hExperiment] at found
      | @decided f v p p' known ends =>
          obtain ⟨rfl, hWorks, -⟩ := ends
          have hKey : storageKey (v.decision f r.user.id).featureKey r.user.id =
              storageKey r.featureKey r.inquiry.user.id :=
            congrArg (storageKey · r.user.id) (key_eq known)
          have hRecord := Inquiry.recorded_forgotten hKey hWorks
          cases hOn : v.detail.result.isEnabled with
          | true =>
              simp only [ending, hOn, if_true]
              rw [hRecord]
              exact ⟨rfl, fun _ => rfl⟩
          | false => exact ⟨by simp [ending, hOn], by simp [ending, hOn]⟩

/-- A rival had a rollout with another variation, and an experiment that is gone. -/
theorem rival_outdated :
    let r := small .rivals "right"
    let d : StoredDecision :=
      { featureKey := "right", userId := "u", rolloutId := some 3, rolloutKey := some "3",
        rolloutVariationId := some 9, experimentId := some 4, experimentKey := some "4",
        experimentVariationId := some 1 }
    let m : Memory := ⟨some { records := [("right_u", d.toJson)] }, ⟨0, 0, []⟩⟩
    m.decision? "right" "u" = some d ∧ r.settings.Outdated d ∧
      (r.answer m).1.detail.result.isEnabled = true ∧
      (r.answer (m.forget "right_u")).1 = (r.answer m).1 ∧
      (r.answer (m.forget "right_u")).2 = (r.answer m).2 := by
  intro r d m
  have hDecision : m.decision? "right" "u" = some d := by decide +kernel
  have hRollout : (r.settings.variationByKey? "3" 9).isNone = true := by decide +kernel
  have hExperiment : (r.settings.variationByKey? "4" 1).isNone = true := by decide +kernel
  have hOutdated : r.settings.Outdated d := by
    rintro key id (⟨hKey, hId⟩ | ⟨hKey, hId⟩)
    · obtain ⟨rfl, rfl⟩ : "4" = key ∧ 1 = id := ⟨Option.some.inj hKey, Option.some.inj hId⟩
      exact Option.isNone_iff_eq_none.mp hExperiment
    · obtain ⟨rfl, rfl⟩ : "3" = key ∧ 9 = id := ⟨Option.some.inj hKey, Option.some.inj hId⟩
      exact Option.isNone_iff_eq_none.mp hRollout
  have hOn : (r.answer m).1.detail.result.isEnabled = true := by decide +kernel
  obtain ⟨hOutcome, hMemory⟩ := answer_of_outdated (r := r) (m := m) Settings.rivals_ready
    (by decide +kernel) (by decide +kernel) (by decide +kernel) ⟨_, rfl, rfl, rfl⟩
    fun d' hStored => Option.some.inj (hDecision.symm.trans hStored) ▸ hOutdated
  exact ⟨hDecision, hOutdated, hOn, hOutcome, hMemory hOn⟩

end Request

end FlagDecision
