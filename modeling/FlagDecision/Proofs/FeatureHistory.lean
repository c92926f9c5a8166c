import FlagDecision.Proofs.Records
import FlagDecision.Proofs.UserIsolation

/-! What a condition on another feature finds out. It asks whether a decision is stored for
the feature, and a decision is stored by an evaluation that ends with the flag on. While
an evaluation is under way only winners of groups are recorded, which no plainly named
feature takes for a decision of its own. So wherever a segment is checked, the condition
tells whether the feature was on for the user before. -/
namespace FlagDecision

open Step Storage StoredDecision

/-- The turn evaluated the feature of an id, and the flag was on. -/
def Turn.showsOn (t : Turn) (id : Nat) : Bool :=
  t.outcome.detail.result.isEnabled &&
    (t.request.settings.feature? t.request.featureKey).any (·.id == id)

namespace Inquiry

variable {q : Inquiry} {p p' : Progress} {before : Option Storage} {busy : List Nat}

/-- An evaluation is under way: the storage is as it was before but for winners of groups that were
recorded, which is all that the rules write before their verdict. Nothing is asked of all else, nor
of what is being searched for. -/
inductive Underway (q : Inquiry) (before : Option Storage) : Progress → Prop where
  | untouched {p : Progress} (same : p.storage = before) : Underway q before p
  | crowned {p p' : Progress} (g : Nat) (c : Campaign) (earlier : Underway q before p)
      (wrote : p'.storage = (recorded (q.winnerRecord g c) p).storage) : Underway q before p'

namespace Underway

theorem of_storage (h : q.Underway before p) (hSame : p'.storage = p.storage) :
    q.Underway before p' := by
  cases h with
  | untouched same => exact .untouched (hSame.trans same)
  | crowned g c earlier wrote => exact .crowned g c earlier (hSame.trans wrote)

theorem start (q : Inquiry) (m : Memory) : q.Underway m.storage m.progress := .untouched rfl

theorem crown (h : q.Underway before p) (g : Nat) (c : Campaign) :
    q.Underway before (recorded (q.winnerRecord g c) p) := .crowned g c h rfl

/-- An evaluation is under way after each move of the rules, also inside the search for a winner. -/
theorem moves (h : q.Underway before p) (hMoves : q.Moves busy p p') : q.Underway before p' := by
  induction hMoves with
  | refl => exact h
  | trans _ _ ihFirst ihRest => exact ihRest (ihFirst h)
  | ask | remember | reuse => exact h.of_storage rfl
  | leave _ _ ih => exact (ih h).of_storage rfl
  | @crown _ _ _ g c _ _ _ ih => exact ((ih h).crown g c).of_storage rfl

theorem storedDecision_eq (h : q.Underway before p) {featureKey : String}
    (hPlain : IsPlainKey featureKey) :
    q.storedDecision? p.storage featureKey = q.storedDecision? before featureKey := by
  induction h with
  | untouched same => rw [same]
  | crowned g c _ wrote ih =>
      rw [wrote, storedDecision_recorded_of_ne rfl (hPlain.ne_groupFeatureKey g), ih]

end Underway

end Inquiry

/-- Settings that were linked, in which ids and plain keys name one feature each. -/
structure Settings.NamesFeatures (s : Settings) : Prop where
  ready : s.Ready
  ids : (s.features.map (·.id)).Nodup
  keys : (s.features.map (·.key)).Nodup
  plain : ∀ f ∈ s.features, IsPlainKey f.key

theorem Settings.NamesFeatures.eq_of_id {s : Settings} (h : s.NamesFeatures) {f f' : Feature}
    (hFeature : f ∈ s.features) (hFeature' : f' ∈ s.features) (hId : f.id = f'.id) : f = f' := by
  have hFound := find?_of_nodup h.ids hFeature
  rw [hId, find?_of_nodup h.ids hFeature'] at hFound
  exact (Option.some.inj hFound).symm

namespace Request

variable {r : Request} {m : Memory} {f : Feature} {s : Settings} {userId : String}
  {answer : Outcome × Memory}

/-- After an answer a decision is stored for a feature if one was stored before, or if the feature
was evaluated and is on now. -/
theorem Answered.isStored (h : r.Answered m answer) (hNames : r.settings.NamesFeatures)
    (hWorks : Works m.storage) (hFeature : f ∈ r.settings.features) :
    (answer.2.decision? f.key r.user.id).isSome =
      ((m.decision? f.key r.user.id).isSome || Turn.showsOn ⟨r, answer.1, answer.2⟩ f.id) := by
  by_cases hSame : f.key = r.featureKey
  · have hKnown : r.settings.feature? r.featureKey = some f :=
      hSame ▸ find?_of_nodup hNames.keys hFeature
    cases h with
    | refused => simp [Turn.showsOn, FlagResult.disabled]
    | stored _ _ found =>
        obtain ⟨d, hStored, -⟩ := Option.bind_eq_some_iff.mp found
        rw [hSame, hStored]
        rfl
    | @decided f' v p' _ known _ decided =>
        obtain rfl : f' = f := Option.some.inj (known.symm.trans hKnown)
        cases hOn : v.detail.result.isEnabled with
        | true =>
            have hStored : Memory.decision? ⟨p'.storage, p'.desk.cache⟩ f'.key r.user.id =
                some (v.decision f' r.user.id) := by
              rw [Memory.decision?_eq]
              exact decided.records hNames.ready hFeature hWorks hOn
            rw [hStored]
            simp [Turn.showsOn, hOn, hKnown]
        | false =>
            obtain ⟨p₁, -, hMoves, -, rfl⟩ := decided.moved
            have hKept : r.inquiry.storedDecision? p₁.storage f'.key =
                r.inquiry.storedDecision? m.storage f'.key :=
              ((Inquiry.Underway.start r.inquiry m).moves hMoves).storedDecision_eq
                (hNames.plain f' hFeature)
            simp only [Turn.showsOn, hOn, Bool.false_and, Bool.or_false]
            exact congrArg Option.isSome hKept
  · have hKept := h.recordOf_eq (fun hKey => hSame (storageKey_left_inj hKey))
      fun g hg => absurd hg.symm (groupKey_ne_storageKey (hNames.plain f hFeature) g _ _)
    have hOther : (r.settings.feature? r.featureKey).any (·.id == f.id) = false := by
      rw [Option.any_eq_false]
      intro f' hKnown
      rw [beq_eq_false_iff_ne]
      intro hId
      obtain rfl := hNames.eq_of_id (List.mem_of_find?_eq_some hKnown) hFeature hId
      exact hSame (key_eq hKnown)
    rw [Memory.decision?_eq, Memory.decision?_eq, hKept, Turn.showsOn, hOther, Bool.and_false,
      Bool.or_false]

/-- After a run a decision is stored for a feature if one was stored before, or if the flag of the
feature was on in some turn. -/
theorem run_isStored (hNames : s.NamesFeatures) (hFeature : f ∈ s.features)
    {requests : List Request} (hUser : ∀ r ∈ requests, r.settings = s ∧ r.user.id = userId)
    (hWorks : Works m.storage) :
    ((after m requests).decision? f.key userId).isSome =
      ((m.decision? f.key userId).isSome || (run m requests).any (·.showsOn f.id)) := by
  induction requests generalizing m with
  | nil => simp [after, run]
  | cons r rest ih =>
      obtain ⟨rfl, rfl⟩ := hUser r List.mem_cons_self
      have hFirst := (r.answered m).isStored hNames hWorks hFeature
      have hRest := ih (fun r' hr' => hUser r' (List.mem_cons_of_mem _ hr'))
        ((r.answered m).works hWorks)
      rw [run, List.any_cons, ← Bool.or_assoc, turn, ← hFirst, ← hRest]
      rfl

/-- No turn shows a feature of an id that none has. -/
theorem run_showsOn_none {id : Nat} (hNone : s.featureById? id = none) {requests : List Request}
    (hSettings : ∀ r ∈ requests, r.settings = s) (m : Memory) :
    (run m requests).any (·.showsOn id) = false := by
  induction requests generalizing m with
  | nil => rfl
  | cons r rest ih =>
      obtain rfl := hSettings r List.mem_cons_self
      have hOther : (r.settings.feature? r.featureKey).any (·.id == id) = false := by
        rw [Option.any_eq_false]
        intro f hKnown
        have hId := List.find?_eq_none.mp hNone f (List.mem_of_find?_eq_some hKnown)
        simpa using hId
      rw [run, List.any_cons, ih (fun r' hr' => hSettings r' (List.mem_cons_of_mem _ hr')),
        Turn.showsOn, turn, hOther, Bool.and_false, Bool.or_false]

/-- Whenever a segment is checked while a request is answered, what is known about stored decisions
is the history of the user. -/
theorem isStuck_eq_history (hNames : s.NamesFeatures) (cache : ListCache) {earlier : List Request}
    (hUser : ∀ r' ∈ r :: earlier, r'.settings = s ∧ r'.user.id = userId) {p : Progress}
    (hUnderway : r.inquiry.Underway (after ⟨some {}, cache⟩ earlier).storage p) (f : Feature)
    (id : Nat) :
    (r.inquiry.setting p.storage f).isStuck? id =
      (s.featureById? id).map fun _ => (run ⟨some {}, cache⟩ earlier).any (·.showsOn id) := by
  obtain ⟨rfl, rfl⟩ := hUser r List.mem_cons_self
  have hStuck : (r.inquiry.setting p.storage f).isStuck? id =
      (r.settings.featureById? id).map fun other =>
        (r.inquiry.storedDecision? p.storage other.key).isSome := rfl
  rw [hStuck]
  cases hFound : r.settings.featureById? id with
  | none => rfl
  | some other =>
      have hFeature := List.mem_of_find?_eq_some hFound
      obtain rfl : other.id = id := by simpa using List.find?_some hFound
      have hEarlier := fun r' hr' => hUser r' (List.mem_cons_of_mem _ hr')
      have hRun := run_isStored hNames hFeature hEarlier (m := ⟨some {}, cache⟩)
        ⟨{}, rfl, rfl, rfl⟩
      rw [Option.map_some, Option.map_some,
        hUnderway.storedDecision_eq (hNames.plain other hFeature)]
      exact congrArg some hRun

/-- A condition on another feature follows the history of the user. Whenever a segment is checked
while a request is answered, after any others from an empty storage, the condition that a feature is
on holds if the feature was evaluated before and was on. The condition that it is off holds if there
is such a feature and it never was. Neither holds for an id that no feature has. -/
theorem condition_follows_history (hNames : s.NamesFeatures) (cache : ListCache)
    {earlier : List Request} {r : Request}
    (hUser : ∀ r' ∈ r :: earlier, r'.settings = s ∧ r'.user.id = userId) {p : Progress}
    (hUnderway : r.inquiry.Underway (after ⟨some {}, cache⟩ earlier).storage p) (f : Feature)
    (attributes : Attributes) (id : Nat) :
    let holds (on : Bool) : Bool :=
      ((r.inquiry.holds f attributes (some (.feature id on))).run p).1
    let wasOn := (run ⟨some {}, cache⟩ earlier).any (·.showsOn id)
    holds true = wasOn ∧ holds false = ((s.featureById? id).isSome && !wasOn) ∧
      (s.featureById? id = none → holds true = false ∧ holds false = false) := by
  intro holds wasOn
  have hHolds : ∀ on, holds on = ((s.featureById? id).map fun _ => wasOn).any (· == on) :=
    fun on => congrArg (·.any (· == on)) (isStuck_eq_history hNames cache hUser hUnderway f id)
  cases hFound : s.featureById? id with
  | none =>
      have hNever : wasOn = false := run_showsOn_none hFound
        (fun r' hr' => (hUser r' (List.mem_cons_of_mem _ hr')).1) _
      simp [hHolds, hFound, hNever]
  | some other => simp [hHolds, hFound]

/-- For rivals one feature was on and the other was not, also while the winner of a group is
recorded. -/
theorem rival_follows_history :
    let earlier := [small .rivals "right", small .rivals "left"]
    let r := small .rivals "left"
    let m := after ⟨some {}, ⟨0, 0, []⟩⟩ earlier
    let p := Inquiry.recorded (r.inquiry.winnerRecord 7 (.small .ab 2)) m.progress
    let holds (id : Nat) (on : Bool) : Bool :=
      ((r.inquiry.holds (.small 1 "left" [1]) [] (some (.feature id on))).run p).1
    Settings.rivals.NamesFeatures ∧ holds 2 true = true ∧ holds 1 false = true ∧
      holds 5 true = false ∧ holds 5 false = false := by
  intro earlier r m p holds
  have hNames : Settings.rivals.NamesFeatures :=
    ⟨Settings.rivals_ready, by decide +kernel, by decide +kernel, by decide +kernel⟩
  have hUser : ∀ r' ∈ r :: earlier, r'.settings = .rivals ∧ r'.user.id = "u" := by
    simp [r, earlier, small]
  have hUnderway : r.inquiry.Underway m.storage p :=
    (Inquiry.Underway.start r.inquiry m).crown 7 (.small .ab 2)
  have hOn : (run ⟨some {}, ⟨0, 0, []⟩⟩ earlier).any (·.showsOn 2) = true := by decide +kernel
  have hOff : (run ⟨some {}, ⟨0, 0, []⟩⟩ earlier).any (·.showsOn 1) = false := by decide +kernel
  have hKnown : (Settings.rivals.featureById? 1).isSome = true := by decide +kernel
  have hNone : (Settings.rivals.featureById? 5).isNone = true := by decide +kernel
  have hHistory :=
    condition_follows_history hNames ⟨0, 0, []⟩ hUser hUnderway (.small 1 "left" [1]) []
  refine ⟨hNames, (hHistory 2).1.trans hOn, (hHistory 1).2.1.trans ?_,
    (hHistory 5).2.2 (Option.isNone_iff_eq_none.mp hNone)⟩
  rw [hOff, hKnown]
  rfl

end Request

end FlagDecision
