import FlagDecision.Proofs.Decided
import FlagDecision.Proofs.Linking

/-! What an evaluation writes. A search that ends with a winner writes one record, and a
group is searched at most once, where nobody knows its winner. A flag that is on is
written after that. So all writes but the last are winners of different groups, and the
last one says what was decided. -/
namespace FlagDecision

open Step Storage StoredDecision

namespace Inquiry

variable {q : Inquiry} {p p' p'' : Progress} {busy : List Nat} {g : Nat} {c : Campaign}
  {won won' : List (Nat × Campaign)}

theorem recorded_writes (d : StoredDecision) (p : Progress) :
    (recorded d p).writes = p.writes ∨
      (recorded d p).writes = p.writes ++ [(storageKey d.featureKey d.userId, d.toJson)] := by
  unfold recorded
  dsimp only
  split
  · exact Or.inr rfl
  · exact Or.inl rfl

theorem recorded_writes_of_works (d : StoredDecision) (h : Works p.storage) :
    (recorded d p).writes = p.writes ++ [(storageKey d.featureKey d.userId, d.toJson)] := by
  obtain ⟨s, hs, -, hWrites⟩ := h
  simp [recorded, hs, Storage.set?, hWrites]

/-- The write that records the winner of a group. -/
def winnerWrite (q : Inquiry) (groupId : Nat) (c : Campaign) : String × Json :=
  (groupKey groupId q.user.id, (q.winnerRecord groupId c).toJson)

/-- The groups that were won, and written, on the way from one progress to another. They were
unsettled before and are known after. -/
structure Won (q : Inquiry) (busy : List Nat) (p p' : Progress) (won : List (Nat × Campaign)) :
    Prop where
  writes : p'.writes = p.writes ++ won.map fun (g, c) => q.winnerWrite g c
  distinct : (won.map (·.1)).Nodup
  unsettled : ∀ g c, (g, c) ∈ won → q.Unsettled busy p g
  known : ∀ g c, (g, c) ∈ won → p'.winners.lookup g ≠ none
  candidate : ∀ g c, (g, c) ∈ won → q.Candidate g c

/-- What is unsettled was unsettled before. -/
theorem Moves.unsettled_before (h : q.Moves busy p p') (hAfter : q.Unsettled busy p' g) :
    q.Unsettled busy p g := by
  obtain ⟨hOpen, hUnknown, hUnstored⟩ := hAfter
  refine ⟨hOpen, ?_, ?_⟩
  · cases hKnown : p.winners.lookup g with
    | none => rfl
    | some winner => simp [h.winners_kept hKnown] at hUnknown
  · cases hStored : q.storedWinner? p.storage g with
    | none => rfl
    | some winner =>
        -- A stored winner stays stored, for groups are recorded only where there is none.
        have hSame : recordOf p'.storage (groupKey g q.user.id) =
            recordOf p.storage (groupKey g q.user.id) := by
          refine h.recordOf_eq fun g' hKey => Or.inr ?_
          obtain ⟨rfl, -⟩ := groupKey_inj hKey
          simp [hStored]
        rw [storedWinner?_eq, hSame, ← storedWinner?_eq, hStored] at hUnstored
        cases hUnstored

namespace Won

theorem nil (h : p'.writes = p.writes) : q.Won busy p p' [] := by
  constructor <;> simp [h]

/-- No group is won again. -/
theorem append (h : q.Won busy p p' won) (h' : q.Won busy p' p'' won') (first : q.Moves busy p p')
    (rest : q.Moves busy p' p'') : q.Won busy p p'' (won ++ won') := by
  refine ⟨?_, ?_, fun g c hg => ?_, fun g c hg => ?_, fun g c hg => ?_⟩
  · rw [h'.writes, h.writes, List.map_append, List.append_assoc]
  · rw [List.map_append]
    refine List.nodup_append.mpr ⟨h.distinct, h'.distinct, ?_⟩
    intro g hg g' hg' hSame
    obtain ⟨⟨k, c⟩, hWon, rfl⟩ := List.mem_map.mp hg
    obtain ⟨⟨k', c'⟩, hWon', rfl⟩ := List.mem_map.mp hg'
    -- A group won before is known by then, so the search does not come to it again.
    obtain rfl : k = k' := hSame
    exact h.known k c hWon (h'.unsettled k c' hWon').unknown
  · rcases List.mem_append.mp hg with hg | hg
    · exact h.unsettled g c hg
    · exact first.unsettled_before (h'.unsettled g c hg)
  · rcases List.mem_append.mp hg with hg | hg
    · obtain ⟨winner, hKnown⟩ := Option.ne_none_iff_exists'.mp (h.known g c hg)
      simp [rest.winners_kept hKnown]
    · exact h'.known g c hg
  · rcases List.mem_append.mp hg with hg | hg
    · exact h.candidate g c hg
    · exact h'.candidate g c hg

/-- What was won while a group was searched for was won, and the group is none of those. -/
theorem close (h : q.Won (g :: busy) p p' won) {winner : Option GroupMember}
    (hWrites : p''.writes = p'.writes) (hWinners : p''.winners = (g, winner) :: p'.winners) :
    q.Won busy p p'' won := by
  refine ⟨hWrites.trans h.writes, h.distinct, fun k c hk => ?_, fun k c hk => ?_, h.candidate⟩
  · obtain ⟨hOpen, hUnknown, hUnstored⟩ := h.unsettled k c hk
    exact ⟨fun hBusy => hOpen (List.mem_cons_of_mem _ hBusy), hUnknown, hUnstored⟩
  · have hOther : k ≠ g := by
      rintro rfl
      exact (h.unsettled k c hk).notBusy List.mem_cons_self
    rw [hWinners, Table.lookup_cons_of_ne _ _ hOther]
    exact h.known k c hk

theorem crown (h : q.Won (g :: busy) p p' won) (hUnsettled : q.Unsettled busy p g)
    (hCandidate : q.Candidate g c) {winner : Option GroupMember}
    (hWrites : p''.writes = p'.writes ++ [q.winnerWrite g c])
    (hWinners : p''.winners = (g, winner) :: p'.winners) :
    q.Won busy p p'' (won ++ [(g, c)]) := by
  have hClosed : q.Won busy p { p'' with writes := p'.writes } won := h.close rfl hWinners
  refine ⟨?_, ?_, fun k d hk => ?_, fun k d hk => ?_, fun k d hk => ?_⟩
  · rw [hWrites, h.writes, List.map_append, List.append_assoc]
    rfl
  · rw [List.map_append]
    refine List.nodup_append.mpr ⟨h.distinct, by simp, ?_⟩
    intro k hk g' hg' hSame
    obtain ⟨⟨k, d⟩, hWon, rfl⟩ := List.mem_map.mp hk
    obtain rfl : g' = g := by simpa using hg'
    obtain rfl : k = g' := hSame
    exact (h.unsettled k d hWon).notBusy List.mem_cons_self
  all_goals rcases List.mem_append.mp hk with hk | hk
  · exact hClosed.unsettled k d hk
  · obtain ⟨rfl, rfl⟩ : k = g ∧ d = c := by simpa using hk
    exact hUnsettled
  · exact hClosed.known k d hk
  · obtain ⟨rfl, rfl⟩ : k = g ∧ d = c := by simpa using hk
    simp [hWinners]
  · exact hClosed.candidate k d hk
  · obtain ⟨rfl, rfl⟩ : k = g ∧ d = c := by simpa using hk
    exact hCandidate

end Won

/-- The search writes winners of unsettled groups, each at most once. -/
theorem Moves.exists_won (h : q.Moves busy p p') : ∃ won, q.Won busy p p' won := by
  induction h with
  | refl | ask | remember | reuse => exact ⟨[], .nil rfl⟩
  | trans first rest ihFirst ihRest =>
      obtain ⟨won, hFirst⟩ := ihFirst
      obtain ⟨won', hRest⟩ := ihRest
      exact ⟨won ++ won', hFirst.append hRest first rest⟩
  | leave _ _ ih =>
      obtain ⟨won, hWon⟩ := ih
      exact ⟨won, hWon.close rfl rfl⟩
  | @crown _ _ p' g c unsettled _ candidate ih =>
      obtain ⟨won, hWon⟩ := ih
      rcases recorded_writes (q.winnerRecord g c) p' with hKept | hNew
      · exact ⟨won, hWon.close hKept (by rw [recorded_winners])⟩
      · exact ⟨won ++ [(g, c)], hWon.crown unsettled candidate hNew (by rw [recorded_winners])⟩

end Inquiry

/-- The ids of the experiment and variation that a reason names. -/
def Reason.experiment? : Reason → Option (Nat × Nat)
  | .experiment campaignId variationId | .whitelisted campaignId variationId =>
    some (campaignId, variationId)
  | _ => none

namespace StoredDecision

/-- How a choice is written: by the id and key of the campaign and the id of the variation. -/
def part (choice : Option Choice) : Option Nat × Option String × Option Nat :=
  (choice.map (·.1.id), choice.map (·.1.key), choice.map (·.2.id))

def rolloutPart (d : StoredDecision) : Option Nat × Option String × Option Nat :=
  (d.rolloutId, d.rolloutKey, d.rolloutVariationId)

def experimentPart (d : StoredDecision) : Option Nat × Option String × Option Nat :=
  (d.experimentId, d.experimentKey, d.experimentVariationId)

end StoredDecision

namespace Verdict

variable {v : Verdict}

/-- The reason names the experiment of the verdict, and no other. -/
theorem experiment_reason :
    v.detail.reason.experiment? = v.experiment.map fun shown => (shown.1.1.id, shown.1.2.id) := by
  obtain ⟨stage, experiment⟩ := v
  rcases experiment with _ | ⟨choice, _ | _⟩
  · cases stage <;> rfl
  · rfl
  · rfl

end Verdict

namespace RolloutStage

theorem choice?_eq (stage : RolloutStage) : stage.choice? = stage.stored?.or stage.passed? := by
  cases stage <;> rfl

end RolloutStage

namespace Evaluator

variable {q : Inquiry} {p : Progress} {f : Feature} {stored : Option StoredDecision}

/-- Only a feature without rollouts is decided without them. A rollout that is passed just now gives
what its traffic allots. -/
theorem rolloutStage_stage (hNew : p.rollouts.lookup f.key = none) :
    (rolloutStage q f stored).Ensures p fun stage _ =>
      (stage = .none → f.hasRollout = false) ∧
        ∀ c w, stage = .passed (c, w) → c.allot? q.settings.accountId q.user.id = some w := by
  rw [rolloutStage]
  split
  · exact Ensures.modify_bind (Ensures.pure (by simp))
  · split
    · refine (Inquiry.rolloutDecision_moves (Inquiry.outside_follows q) f).bind
        fun choice p₁ hMoves => ?_
      rcases choice with _ | ⟨c, w⟩
      · exact Ensures.pure (by simp)
      · obtain ⟨-, hAllot, -⟩ := hMoves.2 hNew c w rfl
        exact Ensures.pure (by simp [hAllot])
    · rename_i hNone
      exact Ensures.pure ⟨fun _ => by simpa using hNone, by simp⟩

/-- Closed rollouts end the search. -/
theorem verdict_stage (q : Inquiry) (stored : Option StoredDecision)
    (hNew : p.rollouts.lookup f.key = none) :
    (verdict q f stored).Ensures p fun v _ =>
      (v.stage = .closed → v.experiment = none) ∧ (v.stage = .none → f.hasRollout = false) ∧
        ∀ c w, v.stage = .passed (c, w) → c.allot? q.settings.accountId q.user.id = some w := by
  refine (rolloutStage_stage hNew).bind fun stage p₁ hStage => ?_
  split
  · exact Ensures.pure ⟨fun _ => rfl, hStage⟩
  · rename_i hOpen
    have hAny : (q.experimentDecision f f.experiments).Ensures p₁ fun _ _ => True := trivial
    exact hAny.bind fun _ _ _ => Ensures.pure ⟨fun hClosed => absurd hClosed hOpen, hStage⟩

namespace Decided

variable {v : Verdict} {p' : Progress}

theorem stage (h : Decided q f stored p v p') (hNew : p.rollouts.lookup f.key = none) :
    (v.stage = .closed → v.experiment = none) ∧ (v.stage = .none → f.hasRollout = false) ∧
      ∀ c w, v.stage = .passed (c, w) → c.allot? q.settings.accountId q.user.id = some w :=
  h.of_verdict (verdict_stage q stored hNew)

/-- A flag that is on has a choice for its rollouts, if it links any. -/
theorem choice_of_hasRollout (h : Decided q f stored p v p')
    (hNew : p.rollouts.lookup f.key = none) (hOn : v.detail.result.isEnabled = true)
    (hRollout : f.hasRollout = true) : v.stage.choice?.isSome = true := by
  obtain ⟨hClosed, hNone, -⟩ := h.stage hNew
  cases hStage : v.stage with
  | stored | passed => rfl
  | none => simp [hNone hStage] at hRollout
  | closed =>
      rcases Verdict.isEnabled_iff.mp hOn with hSome | hSome
      · simp [hStage, RolloutStage.choice?] at hSome
      · simp [hClosed hStage] at hSome

end Decided

end Evaluator

namespace Request

variable {r : Request} {m : Memory} {f : Feature} {o : Outcome}

/-- The stored experiment that answers a request. -/
def storedExperiment? (r : Request) (m : Memory) : Option Choice :=
  (m.decision? r.featureKey r.user.id).bind (Evaluator.storedExperiment? r.settings)

/-- The stored rollout that a request starts from. -/
def storedRollout? (r : Request) (m : Memory) : Option Choice :=
  (m.decision? r.featureKey r.user.id).bind (Evaluator.storedRollout? r.settings)

/-- A decision tells what came out: the experiment that the reason names, and the rollout that was
stored or else passed just now. -/
structure Tells (r : Request) (m : Memory) (f : Feature) (o : Outcome) (d : StoredDecision) :
    Prop where
  featureKey : d.featureKey = r.featureKey
  userId : d.userId = r.user.id
  experiment : ∃ shown : Option Choice, d.experimentPart = part shown ∧
    o.detail.reason.experiment? = shown.map (fun (c, w) => (c.id, w.id)) ∧
    ∀ c w, shown = some (c, w) → c ∈ f.experiments ∧ w ∈ c.variations
  rollout : ∃ passed : Option Choice, d.rolloutPart = part ((r.storedRollout? m).or passed) ∧
    o.verdict.bind (·.stage.passed?) = passed ∧
    ∀ c w, passed = some (c, w) →
      c ∈ f.rollouts ∧ c.allot? r.settings.accountId r.user.id = some w
  hasRollout : f.hasRollout = true →
    d.rolloutId.isSome ∧ d.rolloutKey.isSome ∧ d.rolloutVariationId.isSome

/-- What a request writes: the winners of some groups, and then maybe its own decision. The groups
are different and had no stored winner. -/
structure Writes (r : Request) (m : Memory) (o : Outcome) (won : List (Nat × Campaign))
    (own : Option StoredDecision) : Prop where
  writes : o.writes = won.map (fun (g, c) => r.inquiry.winnerWrite g c) ++
    own.toList.map fun d => (storageKey r.featureKey r.user.id, d.toJson)
  distinct : (won.map (·.1)).Nodup
  winners : ∀ g c, (g, c) ∈ won → r.inquiry.Candidate g c ∧ m.groupWinner? g r.user.id = none ∧
    groupKey g r.user.id ≠ storageKey r.featureKey r.user.id

theorem tells_decision {v : Verdict} {p' : Progress}
    (hKnown : r.settings.feature? r.featureKey = some f)
    (h : Evaluator.Decided r.inquiry f (m.decision? r.featureKey r.user.id) m.progress v p')
    (hOn : v.detail.result.isEnabled = true) (hDetail : o.detail = v.detail)
    (hVerdict : o.verdict = some v) : r.Tells m f o (v.decision f r.user.id) := by
  have hPassed : o.verdict.bind (·.stage.passed?) = v.stage.passed? := by rw [hVerdict]; rfl
  have hChoice : v.stage.choice? = (r.storedRollout? m).or v.stage.passed? := by
    rw [RolloutStage.choice?_eq, h.stored]
    rfl
  refine ⟨key_eq hKnown, rfl, ⟨v.experiment.map (·.1), ?_, ?_, ?_⟩,
    ⟨v.stage.passed?, ?_, hPassed, ?_⟩, ?_⟩
  · simp [experimentPart, part, Verdict.decision, Function.comp_def]
  · rw [hDetail, Verdict.experiment_reason, Option.map_map]
    rfl
  · intro c w hShown
    obtain ⟨⟨⟨c', w'⟩, path⟩, hExperiment, hSame⟩ := Option.map_eq_some_iff.mp hShown
    obtain ⟨rfl, rfl⟩ := Prod.mk.inj hSame
    exact h.experiment _ _ path hExperiment
  · rw [← hChoice]
    rfl
  · intro c w hShown
    have hStage : v.stage = .passed (c, w) := by
      cases hStage : v.stage <;> simp_all [RolloutStage.passed?]
    exact ⟨(h.rollout c w hStage).1, (h.stage rfl).2.2 c w hStage⟩
  · intro hRollout
    obtain ⟨choice, hSome⟩ :=
      Option.isSome_iff_exists.mp (h.choice_of_hasRollout rfl hOn hRollout)
    simp [Verdict.decision, hSome]

/-- A request is answered before the rules are asked. -/
def IsSettled (r : Request) (m : Memory) : Prop :=
  r.user.isBlank = true ∨ r.settings.feature? r.featureKey = none ∨ r.storedExperiment? m ≠ none

theorem Answered.settled_writes {answer : Outcome × Memory} (h : r.Answered m answer)
    (hSettled : r.IsSettled m) : r.Writes m answer.1 [] none := by
  cases h with
  | refused | stored => exact ⟨rfl, List.nodup_nil, by simp⟩
  | decided named known fresh =>
      rcases hSettled with hBlank | hUnknown | hFound
      · simp [named] at hBlank
      · simp [known] at hUnknown
      · exact absurd fresh hFound

theorem Answered.open_writes {answer : Outcome × Memory} (h : r.Answered m answer)
    (hOpen : ¬r.IsSettled m) (hWorks : Works m.storage)
    (hPlain : ∀ f ∈ r.settings.features, IsPlainKey f.key) :
    ∃ (f : Feature) (v : Verdict) (won : List (Nat × Campaign)),
      r.settings.feature? r.featureKey = some f ∧ answer.1.detail = v.detail ∧
      r.Writes m answer.1 won
        (if v.detail.result.isEnabled then some (v.decision f r.user.id) else none) ∧
      (v.detail.result.isEnabled = true → r.Tells m f answer.1 (v.decision f r.user.id)) := by
  cases h with
  | refused _ reason => exact absurd (reason.imp_right Or.inl) hOpen
  | stored _ _ found =>
      have hFound : r.storedExperiment? m ≠ none := Option.ne_none_iff_exists'.mpr ⟨_, found⟩
      exact absurd (Or.inr (Or.inr hFound)) hOpen
  | @decided f v p' _ known _ decided =>
      obtain ⟨p₁, -, hMoves, -, hAfter⟩ := decided.moved
      obtain ⟨won, hWon⟩ := hMoves.exists_won
      refine ⟨f, v, won, known, rfl, ⟨?_, hWon.distinct, fun g c hg => ?_⟩,
        fun hOn => tells_decision known decided hOn rfl rfl⟩
      · have hKey : (v.decision f r.inquiry.user.id).featureKey = r.featureKey := key_eq known
        have hNew := Inquiry.recorded_writes_of_works (v.decision f r.inquiry.user.id)
          (hMoves.works hWorks)
        rw [hWon.writes, hKey] at hNew
        rw [hAfter]
        split
        · exact hNew
        · exact hWon.writes.trans (List.append_nil _).symm
      · refine ⟨hWon.candidate g c hg, (hWon.unsettled g c hg).unstored, ?_⟩
        exact key_eq known ▸
          groupKey_ne_storageKey (hPlain f (List.mem_of_find?_eq_some known)) _ _ _

/-- With a working storage, a request writes winners of different groups that had none, and then, if
the rules were asked and the flag is on, exactly one decision of its own, which tells what came out.
A request that is settled before the rules are asked writes nothing. -/
theorem answer_writes (hWorks : Works m.storage)
    (hPlain : ∀ f ∈ r.settings.features, IsPlainKey f.key) :
    ∃ won own, r.Writes m (r.answer m).1 won own ∧
      (r.IsSettled m → won = [] ∧ own = none) ∧
      ((r.answer m).1.detail.result.isEnabled = false → own = none) ∧
      (¬r.IsSettled m → (r.answer m).1.detail.result.isEnabled = true →
        ∃ f d, r.settings.feature? r.featureKey = some f ∧ own = some d ∧
          r.Tells m f (r.answer m).1 d) := by
  by_cases hSettled : r.IsSettled m
  · exact ⟨[], none, (r.answered m).settled_writes hSettled, fun _ => ⟨rfl, rfl⟩, fun _ => rfl,
      fun hOpen => absurd hSettled hOpen⟩
  · obtain ⟨f, v, won, hKnown, hDetail, hWrites, hTells⟩ :=
      (r.answered m).open_writes hSettled hWorks hPlain
    rw [hDetail]
    refine ⟨won, _, hWrites, fun h => absurd h hSettled, fun hOff => ?_, fun _ hOn => ?_⟩
    · rw [hOff]
      rfl
    · exact ⟨f, _, hKnown, if_pos hOn, hTells hOn⟩

/-- The winners of the two groups of a rival are written first, each once, and then its decision. -/
theorem rival_writes :
    ((small .rivals "right").answer ⟨some {}, ⟨0, 0, []⟩⟩).1.writes.map (·.1) =
        [groupKey 9 "u", groupKey 7 "u", storageKey "right" "u"] ∧
      ∃ f d, (small .rivals "right").Tells ⟨some {}, ⟨0, 0, []⟩⟩ f
          ((small .rivals "right").answer ⟨some {}, ⟨0, 0, []⟩⟩).1 d ∧
        ((small .rivals "right").answer ⟨some {}, ⟨0, 0, []⟩⟩).1.writes.getLast? =
          some (storageKey "right" "u", d.toJson) := by
  refine ⟨by decide +kernel, ?_⟩
  have hPlain : ∀ f ∈ Settings.rivals.features, IsPlainKey f.key := by decide +kernel
  have hOpen : ¬(small .rivals "right").IsSettled ⟨some {}, ⟨0, 0, []⟩⟩ := by
    rintro (hBlank | hUnknown | hFound)
    · exact absurd hBlank (by decide)
    · exact absurd (congrArg Option.isSome hUnknown) (by decide +kernel)
    · exact hFound rfl
  obtain ⟨won, own, hWrites, -, -, hOwn⟩ := answer_writes (r := small .rivals "right")
    (m := ⟨some {}, ⟨0, 0, []⟩⟩) ⟨_, rfl, rfl, rfl⟩ hPlain
  obtain ⟨f, d, -, rfl, hTells⟩ := hOwn hOpen (by decide +kernel)
  refine ⟨f, d, hTells, ?_⟩
  rw [hWrites.writes]
  simp [small]

end Request

end FlagDecision
