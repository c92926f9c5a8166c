import FlagDecision.Proofs.Records

/-! Mutual exclusion over runs. The winner that an evaluation knows for a group is the
winner stored for the user, and a stored winner is never replaced, because a group is
searched only while nobody knows its winner and no feature is stored under the key of
a group. -/
namespace FlagDecision

open Storage StoredDecision

namespace Request

variable {r : Request} {m : Memory} {userId : String} {g : Nat} {answer : Outcome × Memory}

theorem Answered.groupWinner_kept (h : r.Answered m answer)
    (hPlain : ∀ f ∈ r.settings.features, IsPlainKey f.key) {winner : GroupMember}
    (hStored : m.groupWinner? g userId = some winner) :
    answer.2.groupWinner? g userId = some winner := by
  cases hFeature : r.settings.feature? r.featureKey with
  | none =>
      cases h with
      | refused => exact hStored
      | stored _ known | decided _ known => simp [hFeature] at known
  | some f =>
      have hKey := hPlain f (List.mem_of_find?_eq_some hFeature)
      have hOwn : groupKey g userId ≠ storageKey r.featureKey r.user.id :=
        key_eq hFeature ▸ groupKey_ne_storageKey hKey _ _ _
      have hSame := h.recordOf_eq hOwn fun g' hKey => by
        obtain ⟨rfl, rfl⟩ := groupKey_inj hKey
        simp [hStored]
      rw [Memory.groupWinner?_eq, hSame, ← Memory.groupWinner?_eq, hStored]

/-- What is decided afresh for a group is the winner that is stored afterwards. -/
theorem Answered.fresh_stored (h : r.Answered m answer) (hReady : r.settings.Ready)
    (hPlain : ∀ f ∈ r.settings.features, IsPlainKey f.key) (hWorks : Works m.storage)
    {choice : Choice} (hFresh : choice ∈ answer.1.fresh)
    (hGroup : r.settings.groupOf? choice.1.groupMember = some g) :
    answer.2.groupWinner? g r.user.id = some choice.1.groupMember := by
  cases h with
  | refused | stored => simp [Outcome.fresh] at hFresh
  | @decided f v p' _ known _ decided =>
      obtain ⟨p₁, -, hMoves, hWins, rfl⟩ := decided.moved
      have hKnown := hWins choice hFresh g hGroup List.not_mem_nil
      have hStored : r.inquiry.storedWinner? p₁.storage g = some choice.1.groupMember := by
        refine hMoves.winnersStored hReady hWorks (fun g winner hKnown => ?_) g _ hKnown
        simp [Memory.progress] at hKnown
      rw [Inquiry.storedWinner?_eq] at hStored
      rw [Memory.groupWinner?_eq]
      dsimp only
      split
      · rw [Inquiry.recordOf_recorded_of_ne]
        · exact hStored
        · exact groupKey_ne_storageKey (hPlain f (List.mem_of_find?_eq_some known)) _ _ _
      · exact hStored

/-- Once the winner of a group is stored, a run shows the user no other member of it. -/
theorem run_shows_stored {requests : List Request} (hWorks : Works m.storage)
    (hReady : ∀ r ∈ requests, r.settings.Ready)
    (hPlain : ∀ r ∈ requests, ∀ f ∈ r.settings.features, IsPlainKey f.key) {winner : GroupMember}
    (hStored : m.groupWinner? g userId = some winner) :
    ∀ turn ∈ run m requests, turn.request.user.id = userId → ∀ choice ∈ turn.outcome.fresh,
      turn.request.settings.groupOf? choice.1.groupMember = some g →
        choice.1.groupMember = winner ∧ turn.memory.groupWinner? g userId = some winner := by
  induction requests generalizing m with
  | nil => simp [run]
  | cons r rest ih =>
      have hAnswered := r.answered m
      have hKept := hAnswered.groupWinner_kept (hPlain r List.mem_cons_self) hStored
      intro turn hTurn
      rcases List.mem_cons.mp hTurn with rfl | hLater
      · rintro rfl choice hFresh hGroup
        have hShown := hAnswered.fresh_stored (hReady r List.mem_cons_self)
          (hPlain r List.mem_cons_self) hWorks hFresh hGroup
        exact ⟨Option.some.inj (hShown.symm.trans hKept), hKept⟩
      · exact ih (hAnswered.works hWorks) (fun r hr => hReady r (List.mem_cons_of_mem _ hr))
          (fun r hr => hPlain r (List.mem_cons_of_mem _ hr)) hKept turn hLater

/-- In a run with a working storage, a user sees at most one member of a group, and each decision
that shows it leaves it stored as the winner. Settings, features and users may change from request
to request, and so may whoever is asked. -/
theorem run_shows_one_member {requests : List Request} (hWorks : Works m.storage)
    (hReady : ∀ r ∈ requests, r.settings.Ready)
    (hPlain : ∀ r ∈ requests, ∀ f ∈ r.settings.features, IsPlainKey f.key)
    (userId : String) (g : Nat) :
    ∃ winner, ∀ turn ∈ run m requests, turn.request.user.id = userId →
      ∀ choice ∈ turn.outcome.fresh, turn.request.settings.groupOf? choice.1.groupMember = some g →
        choice.1.groupMember = winner ∧ turn.memory.groupWinner? g userId = some winner := by
  induction requests generalizing m with
  | nil => exact ⟨⟨0, none⟩, by simp [run]⟩
  | cons r rest ih =>
      have hAnswered := r.answered m
      have hWorks' := hAnswered.works hWorks
      have hReady' := fun r hr => hReady r (List.mem_cons_of_mem _ hr)
      have hPlain' := fun r hr => hPlain r (List.mem_cons_of_mem _ hr)
      have hShown : ∀ choice ∈ (r.answer m).1.fresh,
          r.settings.groupOf? choice.1.groupMember = some g →
          (r.answer m).2.groupWinner? g r.user.id = some choice.1.groupMember :=
        fun _ => hAnswered.fresh_stored (hReady r List.mem_cons_self)
          (hPlain r List.mem_cons_self) hWorks
      -- The first answer may leave a winner for the rest of the run, or has shown no member.
      cases hLeft : (r.answer m).2.groupWinner? g userId with
      | some winner =>
          refine ⟨winner, fun turn hTurn => ?_⟩
          rcases List.mem_cons.mp hTurn with rfl | hLater
          · rintro rfl choice hFresh hGroup
            exact ⟨Option.some.inj ((hShown choice hFresh hGroup).symm.trans hLeft), hLeft⟩
          · exact run_shows_stored hWorks' hReady' hPlain' hLeft turn hLater
      | none =>
          obtain ⟨winner, hRest⟩ := ih hWorks' hReady' hPlain'
          refine ⟨winner, fun turn hTurn => ?_⟩
          rcases List.mem_cons.mp hTurn with rfl | hLater
          · rintro rfl choice hFresh hGroup
            exact absurd ((hShown choice hFresh hGroup).symm.trans hLeft) (by simp)
          · exact hRest turn hLater

/-- The feature of the experiment that loses shows nothing, before the winner is ever shown. -/
theorem rivals_show_one_member :
    (run ⟨some {}, ⟨0, 0, []⟩⟩ [small .rivals "left", small .rivals "right"]).map
        (·.outcome.fresh.map (·.1.groupMember)) = [[], [⟨3, none⟩, ⟨2, none⟩]] ∧
      ∃ winner, ∀ turn ∈ run ⟨some {}, ⟨0, 0, []⟩⟩ [small .rivals "left", small .rivals "right"],
        turn.request.user.id = "u" → ∀ choice ∈ turn.outcome.fresh,
          turn.request.settings.groupOf? choice.1.groupMember = some 7 →
            choice.1.groupMember = winner ∧ turn.memory.groupWinner? 7 "u" = some winner := by
  refine ⟨by decide +kernel, run_shows_one_member ⟨_, rfl, rfl, rfl⟩ ?_ ?_ "u" 7⟩
  · simp [small, Settings.rivals_ready]
  · have hPlain : ∀ f ∈ Settings.rivals.features, IsPlainKey f.key := by decide +kernel
    simpa [small] using hPlain

end Request

end FlagDecision
