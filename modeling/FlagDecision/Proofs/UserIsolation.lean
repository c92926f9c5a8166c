import FlagDecision.Proofs.Decided
import FlagDecision.Proofs.Linking
import FlagDecision.Proofs.Mirror
import FlagDecision.Proofs.Targeting

/-! What users have to do with each other. An answer reads and writes the storage only
under keys of its user, and the cache says what the service would say. So answers to one
user do not bear on what another is shown, as long as no key of the one is a key of the
other; a key where they meet carries a decision from one to the other. -/
namespace FlagDecision

open Step Storage StoredDecision

namespace Settings

variable {s : Settings} {u v : String}

/-- The keys of a user: those of the features and those of groups. -/
def IsKeyOf (s : Settings) (userId key : String) : Prop :=
  (∃ f ∈ s.features, key = storageKey f.key userId) ∨ ∃ g, key = groupKey g userId

/-- No key of one user is a key of the other. -/
def KeepsApart (s : Settings) (u v : String) : Prop :=
  ∀ key, s.IsKeyOf u key → ¬s.IsKeyOf v key

/-- Plain feature keys without underscore keep all users apart. -/
theorem keepsApart_of_plain
    (hPlain : ∀ f ∈ s.features, IsPlainKey f.key ∧ '_' ∉ f.key.toList) (hOther : u ≠ v) :
    s.KeepsApart u v := by
  rintro key (⟨f, hf, hKey⟩ | ⟨g, hKey⟩) (⟨f', hf', hKey'⟩ | ⟨g', hKey'⟩)
  · have hList := congrArg String.toList (hKey.symm.trans hKey')
    simp only [storageKey, String.toList_append, List.append_assoc] at hList
    obtain ⟨-, hUser⟩ := append_underscore_inj (hPlain f hf).2 (hPlain f' hf').2 hList
    exact hOther (String.toList_injective hUser)
  · exact groupKey_ne_storageKey (hPlain f hf).1 g' v u (hKey'.symm.trans hKey)
  · exact groupKey_ne_storageKey (hPlain f' hf').1 g u v (hKey.symm.trans hKey')
  · exact hOther (groupKey_inj (hKey.symm.trans hKey')).2

end Settings

namespace Storage

/-- What a storage refuses. -/
def mode (s : Storage) : Bool × Bool := (s.refusesReads, s.refusesWrites)

/-- Two storages refuse the same and have the same records under some keys. -/
structure AgreeOn (keys : String → Prop) (storage storage' : Option Storage) : Prop where
  mode : storage'.map mode = storage.map mode
  recordOf : ∀ key, keys key → recordOf storage' key = recordOf storage key

variable {keys : String → Prop} {storage storage' storage'' : Option Storage}

theorem AgreeOn.refl : AgreeOn keys storage storage := ⟨rfl, fun _ _ => rfl⟩

theorem AgreeOn.trans (h : AgreeOn keys storage storage') (h' : AgreeOn keys storage' storage'') :
    AgreeOn keys storage storage'' :=
  ⟨h'.mode.trans h.mode, fun key hKey => (h'.recordOf key hKey).trans (h.recordOf key hKey)⟩

end Storage

namespace Inquiry

variable {q : Inquiry} {p p' : Progress} {keys : String → Prop} {f : Feature}

theorem recorded_storage (d : StoredDecision) (p : Progress) :
    (recorded d p).storage = p.storage.map fun s =>
      if s.refusesWrites then s else s.put (storageKey d.featureKey d.userId) d.toJson := by
  unfold recorded
  cases hStorage : p.storage with
  | none => simp [hStorage]
  | some s => cases hWrites : s.refusesWrites <;> simp [Storage.set?, hStorage, hWrites]

theorem recorded_mode (d : StoredDecision) (p : Progress) :
    (recorded d p).storage.map mode = p.storage.map mode := by
  rw [recorded_storage, Option.map_map]
  congr 1
  funext s
  simp only [Function.comp_apply]
  split <;> rfl

/-- Recording a decision on both sides keeps storages in agreement. -/
theorem recorded_agreeOn (d : StoredDecision) (h : AgreeOn keys p.storage p'.storage) :
    AgreeOn keys (recorded d p).storage (recorded d p').storage := by
  have hMode := h.mode
  refine ⟨by rw [recorded_mode, recorded_mode, hMode], fun key hKey => ?_⟩
  by_cases hOwn : key = storageKey d.featureKey d.userId
  · have hSame := h.recordOf key hKey
    rw [recorded_storage, recorded_storage]
    cases hStorage : p.storage with
    | none =>
        rw [hStorage, Option.map_none, Option.map_eq_none_iff] at hMode
        rw [hMode]
    | some s =>
        rw [hStorage, Option.map_some, Option.map_eq_some_iff] at hMode
        obtain ⟨s', hStorage', hMode⟩ := hMode
        obtain ⟨hReads, hWrites⟩ := Prod.mk.inj hMode
        rw [hStorage, hStorage'] at hSame
        rw [hStorage', Option.map_some, Option.map_some, hWrites]
        split
        · exact hSame
        · simp [Storage.recordOf, Storage.put, hReads, hOwn]
  · rw [recordOf_recorded_of_ne d p hOwn, recordOf_recorded_of_ne d p' hOwn, h.recordOf key hKey]

theorem Moves.mode {busy : List Nat} (h : q.Moves busy p p') :
    p'.storage.map Storage.mode = p.storage.map Storage.mode := by
  induction h with
  | refl | ask | remember | reuse => rfl
  | trans _ _ ihFirst ihRest => exact ihRest.trans ihFirst
  | leave _ _ ih => exact ih
  | crown _ _ _ ih => exact (recorded_mode _ _).trans ih

/-- Two searches know the same, with desks that are truthful, and their storages agree on some
keys. -/
structure Abreast (q : Inquiry) (keys : String → Prop) (p p' : Progress) : Prop where
  winners : p'.winners = p.winners
  rollouts : p'.rollouts = p.rollouts
  truthful : p.desk.cache.Truthful q.lists
  truthful' : p'.desk.cache.Truthful q.lists
  storage : AgreeOn keys p.storage p'.storage

theorem storedDecision_agree {storage storage' : Option Storage}
    (h : AgreeOn keys storage storage') {featureKey : String}
    (hKey : keys (storageKey featureKey q.user.id)) :
    q.storedDecision? storage' featureKey = q.storedDecision? storage featureKey := by
  rw [storedDecision?, storedDecision?, Storage.decision?_eq, Storage.decision?_eq,
    h.recordOf _ hKey]

theorem Abreast.holds (h : q.Abreast keys p p')
    (hKeys : ∀ key, q.settings.IsKeyOf q.user.id key → keys key) (f : Feature)
    (attributes : Attributes) (s : Option Segment) :
    (q.holds f attributes s).Together (q.holds f attributes s) p p' fun _ => q.Abreast keys := by
  refine holds_together ?_ h.truthful h.truthful' fun desk desk' hDesk hDesk' =>
    ⟨h.winners, h.rollouts, hDesk, hDesk', h.storage⟩
  refine meaning_same fun id _ f hFound => ?_
  have hFeature := List.mem_of_find?_eq_some hFound
  rw [storedDecision_agree h.storage (hKeys _ (Or.inl ⟨f, hFeature, rfl⟩))]

/-- Searches for one user mirror each other as long as their storages agree on the keys of the
user. -/
theorem abreast_mirror (hKeys : ∀ key, q.settings.IsKeyOf q.user.id key → keys key) :
    q.Mirror q (q.Abreast keys) where
  settings := rfl
  userId := rfl
  winners h := h.winners
  rollouts h := h.rollouts
  storedWinner h g _ := by
    rw [storedWinner?, storedWinner?, storedDecision_agree h.storage (hKeys _ (Or.inr ⟨g, rfl⟩))]
  isStored h f hFeature c _ := by
    rw [storedDecision_agree h.storage (hKeys _ (Or.inl ⟨f, hFeature, rfl⟩))]
  preSegmentation h f _ c _ := h.holds hKeys f _ _
  know h g winner :=
    ⟨congrArg ((g, winner) :: ·) h.winners, h.rollouts, h.truthful, h.truthful', h.storage⟩
  remember h key decided :=
    ⟨h.winners, congrArg ((key, decided) :: ·) h.rollouts, h.truthful, h.truthful', h.storage⟩
  crown h g c := by
    refine ⟨?_, ?_, ?_, ?_, recorded_agreeOn _ h.storage⟩
    · simp [Progress.knowing, h.winners]
    · simp [Progress.knowing, h.rollouts]
    · simpa [Progress.knowing] using h.truthful
    · simpa [Progress.knowing] using h.truthful'

theorem Abreast.whitelisting (h : q.Abreast keys p p')
    (hKeys : ∀ key, q.settings.IsKeyOf q.user.id key → keys key) (f : Feature) (c : Campaign) :
    (q.whitelisting f c).Together (q.whitelisting f c) p p' fun _ => q.Abreast keys :=
  whitelisting_together rfl (fun h v _ => h.holds hKeys f _ v.segments) h

end Inquiry

namespace Evaluator

variable {q : Inquiry} {p p' : Progress} {keys : String → Prop} {f : Feature}

theorem verdict_abreast (h : q.Abreast keys p p')
    (hKeys : ∀ key, q.settings.IsKeyOf q.user.id key → keys key)
    (hFeature : f ∈ q.settings.features) (stored : Option StoredDecision) :
    (verdict q f stored).Together (verdict q f stored) p p' fun _ => q.Abreast keys :=
  verdict_mirror (Inquiry.abreast_mirror hKeys).nothing_apart h hFeature rfl
    fun h c _ => h.whitelisting hKeys f c

end Evaluator

namespace Request

variable {r : Request} {m m' : Memory} {answer : Outcome × Memory} {u v : String}

/-- What an answer leaves in the cache is true. -/
theorem Answered.truthful (h : r.Answered m answer)
    (hTruthful : m.cache.Truthful r.evaluator.lists) :
    answer.2.cache.Truthful r.evaluator.lists := by
  cases h with
  | refused | stored => exact hTruthful
  | @decided f v p' _ known _ decided =>
      obtain ⟨p₁, hRun, -, -, rfl⟩ := decided.moved
      have hStart : r.inquiry.Abreast (fun _ => True) m.progress m.progress :=
        ⟨rfl, rfl, hTruthful, hTruthful, .refl⟩
      have hLeft := (Evaluator.verdict_abreast hStart (fun _ _ => trivial)
        (List.mem_of_find?_eq_some known) (m.decision? r.featureKey r.user.id)).2.truthful
      rw [hRun] at hLeft
      dsimp only
      split
      · rw [Inquiry.recorded_desk]
        exact hLeft
      · exact hLeft

/-- An answer to one user leaves the keys of another as they are, if it keeps them apart. -/
theorem Answered.agreeOn (h : r.Answered m answer) (hApart : r.settings.KeepsApart r.user.id v) :
    AgreeOn (r.settings.IsKeyOf v) m.storage answer.2.storage := by
  cases hKnown : r.settings.feature? r.featureKey with
  | none =>
      cases h with
      | refused => exact .refl
      | stored _ known | decided _ known => simp [hKnown] at known
  | some f =>
      refine ⟨?_, fun key hKey => h.recordOf_eq ?_ fun g hGroup => ?_⟩
      · cases h with
        | refused | stored => rfl
        | decided _ _ _ decided =>
            obtain ⟨p₁, -, hMoves, -, rfl⟩ := decided.moved
            dsimp only
            split
            · exact (Inquiry.recorded_mode _ _).trans hMoves.mode
            · exact hMoves.mode
      · rintro rfl
        have hFeature := List.mem_of_find?_eq_some hKnown
        exact hApart _ (Or.inl ⟨f, hFeature, by rw [key_eq hKnown]⟩) hKey
      · exact absurd hKey (hApart key (Or.inr ⟨g, hGroup⟩))

/-- What a user is shown depends on the memory by the keys of the user only. -/
theorem answer_detail (hTruthful : m.cache.Truthful r.evaluator.lists)
    (hTruthful' : m'.cache.Truthful r.evaluator.lists)
    (hStorage : AgreeOn (r.settings.IsKeyOf r.user.id) m.storage m'.storage) :
    (r.answer m').1.detail = (r.answer m).1.detail := by
  have hStart : r.inquiry.Abreast (r.settings.IsKeyOf r.user.id) m.progress m'.progress :=
    ⟨rfl, rfl, hTruthful, hTruthful', hStorage⟩
  cases hKnown : r.settings.feature? r.featureKey with
  | none => rw [answer_unknown m hKnown, answer_unknown m' hKnown]
  | some f =>
      have hFeature := List.mem_of_find?_eq_some hKnown
      have hStored : m'.decision? r.featureKey r.user.id = m.decision? r.featureKey r.user.id := by
        rw [← storedDecision_eq m' hKnown, ← storedDecision_eq m hKnown]
        exact Inquiry.storedDecision_agree hStorage (Or.inl ⟨f, hFeature, rfl⟩)
      have hMirror : r.inquiry.Mirror r.inquiry
          (r.inquiry.Abreast (r.settings.IsKeyOf r.user.id)) :=
        Inquiry.abreast_mirror fun _ h => h
      exact ((answer_alike hMirror.nothing_apart hStart rfl (by rw [hStored]) (by rw [hStored])
        fun h f _ c _ => h.whitelisting (fun _ h => h) f c).looks rfl rfl hStart).1

/-- The memory after some requests. -/
def after (m : Memory) (requests : List Request) : Memory :=
  requests.foldl (fun m r => (r.answer m).2) m

/-- Answers to one user leave a truthful cache and the keys of another as they are. -/
theorem after_agreeOn {requests : List Request} {s : Settings} {lists : Option ListService}
    (hTruthful : m.cache.Truthful lists)
    (hOther : ∀ r ∈ requests, r.settings = s ∧ r.evaluator.lists = lists ∧ r.user.id = u)
    (hApart : s.KeepsApart u v) :
    (after m requests).cache.Truthful lists ∧
      AgreeOn (s.IsKeyOf v) m.storage (after m requests).storage := by
  induction requests generalizing m with
  | nil => exact ⟨hTruthful, .refl⟩
  | cons r rest ih =>
      obtain ⟨rfl, rfl, rfl⟩ := hOther r List.mem_cons_self
      obtain ⟨hLeft, hRest⟩ := ih ((r.answered m).truthful hTruthful)
        fun r' hr' => hOther r' (List.mem_cons_of_mem _ hr')
      exact ⟨hLeft, ((r.answered m).agreeOn hApart).trans hRest⟩

/-- What a user is shown does not change by any answers to another user in between, as long as no
key of the one is a key of the other. -/
theorem answer_isolated {requests : List Request}
    (hTruthful : m.cache.Truthful r.evaluator.lists)
    (hOther : ∀ r' ∈ requests, r'.settings = r.settings ∧
      r'.evaluator.lists = r.evaluator.lists ∧ r'.user.id = u)
    (hApart : r.settings.KeepsApart u r.user.id) :
    (r.answer (after m requests)).1.detail = (r.answer m).1.detail := by
  obtain ⟨hTruthful', hStorage⟩ := after_agreeOn hTruthful hOther hApart
  exact answer_detail hTruthful hTruthful' hStorage

/-- Users of rivals have no key in common, and what one is shown does not depend on the other. -/
theorem rival_isolated :
    Settings.rivals.KeepsApart "v" "u" ∧
      ((small .rivals "right").answer (after ⟨some {}, ⟨0, 0, []⟩⟩
        [{ small .rivals "left" with user := { id := "v" } },
          { small .rivals "right" with user := { id := "v" } }])).1.detail =
        ((small .rivals "right").answer ⟨some {}, ⟨0, 0, []⟩⟩).1.detail := by
  have hPlain : ∀ f ∈ Settings.rivals.features, IsPlainKey f.key ∧ '_' ∉ f.key.toList := by
    decide +kernel
  have hApart : Settings.rivals.KeepsApart "v" "u" :=
    Settings.keepsApart_of_plain hPlain (by decide)
  exact ⟨hApart, answer_isolated (Inquiry.empty_truthful _) (by simp [small]) hApart⟩

end Request

/-- Settings with an experiment for each of two features, of which one key continues the other. -/
def Settings.continued : Settings :=
  { accountId := 1
    campaigns := [.small .ab 1, .small .ab 2]
    features := [.small 1 "a" [1], .small 2 "a_b" [2]] : Settings }.link

namespace Request

/-- The decision of the first feature for one user is stored where the second feature looks for
that of another. -/
theorem shares_key :
    let asked : Request := { small .continued "a_b" with user := { id := "c" } }
    let other : Request := { small .continued "a" with user := { id := "b_c" } }
    (asked.answer ⟨some {}, ⟨0, 0, []⟩⟩).1.detail.reason = .experiment 2 1 ∧
      (asked.answer (after ⟨some {}, ⟨0, 0, []⟩⟩ [other])).1.detail.reason =
        .storedVariation "1" 1 := by
  decide +kernel

end Request

end FlagDecision
