import FlagDecision.Proofs.Mirror

/-! What keeping list answers changes: nothing that anybody sees. A cache holds answers of
the service only, and an answer that it does not have is asked for, so each condition on
a list means what the service says, at any time and with any room. A service that fails
counts as one that says no, and then nothing is kept. -/
namespace FlagDecision

open Step Segment

/-- The service that says no where the given one fails. -/
def ListService.forgiving (service : ListService) : ListService := fun listId value userId =>
  .ok ((service listId value userId).toOption.getD false)

/-- The evaluator without room for list answers, with a service that never fails. -/
def Evaluator.uncached (e : Evaluator) : Evaluator :=
  { e with
    lists := e.lists.map ListService.forgiving
    config := { e.config with listCacheCapacity := 0 } }

theorem Segment.listed_forgiving (env : Setting) (listId value : String) :
    listed { env with lists := env.lists.map ListService.forgiving } listId value =
      listed env listId value := by
  cases hLists : env.lists <;> simp [listed, hLists, ListService.forgiving, Except.toOption]

namespace Inquiry

variable {q : Inquiry} {p p' : Progress}

/-- The search with a service that never fails. -/
def forgiving (q : Inquiry) : Inquiry := { q with lists := q.lists.map ListService.forgiving }

/-- Two searches differ by their desks, of which each is truthful. -/
structure ApartFromDesk (q : Inquiry) (p p' : Progress) : Prop where
  storage : p'.storage = p.storage
  writes : p'.writes = p.writes
  rollouts : p'.rollouts = p.rollouts
  winners : p'.winners = p.winners
  truthful : p.desk.cache.Truthful q.lists
  truthful' : p'.desk.cache.Truthful q.forgiving.lists

namespace ApartFromDesk

theorem know (h : q.ApartFromDesk p p') (g : Nat) (winner : Option GroupMember) :
    q.ApartFromDesk (p.knowing g winner) (p'.knowing g winner) :=
  ⟨h.storage, h.writes, h.rollouts, congrArg ((g, winner) :: ·) h.winners, h.truthful, h.truthful'⟩

theorem record (h : q.ApartFromDesk p p') (d : StoredDecision) :
    q.ApartFromDesk (recorded d p) (recorded d p') := by
  have hWritten : (recorded d p').storage = (recorded d p).storage ∧
      (recorded d p').writes = (recorded d p).writes := by
    rw [recorded, recorded, h.storage]
    split
    · exact ⟨rfl, congrArg (· ++ [_]) h.writes⟩
    · exact ⟨h.storage, h.writes⟩
  refine ⟨hWritten.1, hWritten.2, ?_, ?_, ?_, ?_⟩
  · simp [h.rollouts]
  · simp [h.winners]
  · simpa using h.truthful
  · simpa using h.truthful'

theorem holds (h : q.ApartFromDesk p p') (f : Feature) (attributes : Attributes)
    (s : Option Segment) :
    (q.holds f attributes s).Together (q.forgiving.holds f attributes s) p p'
      fun _ => q.ApartFromDesk := by
  refine holds_together ?_ h.truthful h.truthful' fun desk desk' hDesk hDesk' =>
    ⟨h.storage, h.writes, h.rollouts, h.winners, hDesk, hDesk'⟩
  cases s with
  | none => rfl
  | some s =>
      rw [h.storage]
      exact meaning_congr s ⟨rfl, rfl, listed_forgiving (q.setting p.storage f), fun _ _ => rfl⟩

end ApartFromDesk

/-- Searches that differ by their desks mirror each other. -/
theorem forgiving_mirror (q : Inquiry) : q.Mirror q.forgiving q.ApartFromDesk where
  settings := rfl
  userId := rfl
  winners h := h.winners
  rollouts h := h.rollouts
  storedWinner h g _ := congrArg (q.storedWinner? · g) h.storage
  isStored h f _ _ _ := by
    rw [h.storage]
    rfl
  preSegmentation h f _ c _ := h.holds f _ _
  know h := h.know
  remember h key decided :=
    ⟨h.storage, h.writes, congrArg ((key, decided) :: ·) h.rollouts, h.winners, h.truthful,
      h.truthful'⟩
  crown h g c := (h.record (q.winnerRecord g c)).know g c.groupMember

end Inquiry

/-- What a turn shows, writes and reports, and the storage that it leaves. -/
def Turn.effects (t : Turn) :
    Detail × List (String × Json) × List Impression × Option Storage :=
  (t.outcome.detail, t.outcome.writes, t.outcome.impressions, t.memory.storage)

namespace Request

variable {m m' : Memory}

/-- The request, made of an evaluator. -/
def madeOf (r : Request) (e : Evaluator) : Request := { r with evaluator := e }

/-- From the same storage and truthful caches, a request has the same effects whether answers are
kept or not. Both caches stay truthful. -/
theorem turn_uncached (r : Request) (e : Evaluator) (hStorage : m'.storage = m.storage)
    (hCache : m.cache.Truthful e.lists) (hCache' : m'.cache.Truthful e.uncached.lists) :
    ((r.madeOf e.uncached).turn m').effects = ((r.madeOf e).turn m).effects ∧
      ((r.madeOf e).answer m).2.cache.Truthful e.lists ∧
      ((r.madeOf e.uncached).answer m').2.cache.Truthful e.uncached.lists := by
  have hStored : m'.decision? r.featureKey r.user.id = m.decision? r.featureKey r.user.id :=
    congrArg (·.bind (·.decision? r.featureKey r.user.id)) hStorage
  have hStart : (r.madeOf e).inquiry.ApartFromDesk m.progress m'.progress :=
    ⟨hStorage, rfl, rfl, rfl, hCache, hCache'⟩
  have hMirror : (r.madeOf e).inquiry.Mirror (r.madeOf e.uncached).inquiry
      (r.madeOf e).inquiry.ApartFromDesk := Inquiry.forgiving_mirror _
  have hAlike := answer_alike hMirror.nothing_apart hStart rfl (by rw [madeOf, hStored])
    (by rw [madeOf, hStored]) fun h f _ c _ =>
      Inquiry.whitelisting_together rfl (fun h v _ => h.holds f _ v.segments) h
  rw [turn, turn]
  generalize (r.madeOf e).answer m = answer at hAlike ⊢
  generalize (r.madeOf e.uncached).answer m' = answer' at hAlike ⊢
  cases hAlike with
  | refused | stored => exact ⟨by simp [Turn.effects, hStorage], hCache, hCache'⟩
  | @decided f v p p' _ ends =>
      have hLeft : (r.madeOf e).inquiry.ApartFromDesk
          (if v.detail.result.isEnabled then Inquiry.recorded (v.decision f r.user.id) p else p)
          (if v.detail.result.isEnabled then Inquiry.recorded (v.decision f r.user.id) p'
            else p') := by
        split
        · exact ends.record _
        · exact ends
      refine ⟨?_, hLeft.truthful, hLeft.truthful'⟩
      simp only [Turn.effects, ending, Prod.mk.injEq]
      exact ⟨trivial, hLeft.writes, rfl, hLeft.storage⟩

/-- Keeping list answers is not noticed. Whatever is asked of an evaluator, about any users and at
any times, has the same effects as without room for answers and with a service that says no where it
fails. -/
theorem run_uncached (e : Evaluator) (storage : Option Storage) (requests : List Request) :
    (run (e.uncached.freshMemory storage) (requests.map (·.madeOf e.uncached))).map Turn.effects =
      (run (e.freshMemory storage) (requests.map (·.madeOf e))).map Turn.effects := by
  have hAux : ∀ m m' : Memory, m'.storage = m.storage → m.cache.Truthful e.lists →
      m'.cache.Truthful e.uncached.lists →
      (run m' (requests.map (·.madeOf e.uncached))).map Turn.effects =
        (run m (requests.map (·.madeOf e))).map Turn.effects := by
    induction requests with
    | nil => exact fun _ _ _ _ _ => rfl
    | cons r rest ih =>
        intro m m' hStorage hCache hCache'
        obtain ⟨hEffects, hLeft, hLeft'⟩ := turn_uncached r e hStorage hCache hCache'
        have hStorageLeft : ((r.madeOf e.uncached).answer m').2.storage =
            ((r.madeOf e).answer m).2.storage :=
          congrArg (fun effects => effects.2.2.2) hEffects
        simp only [List.map_cons, run, hEffects, ih _ _ hStorageLeft hLeft hLeft']
  exact hAux _ _ rfl (by simp [ListCache.Truthful, Evaluator.freshMemory])
    (by simp [ListCache.Truthful, Evaluator.freshMemory])

end Request

end FlagDecision
