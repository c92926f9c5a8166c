import FlagDecision.Evaluation.Rules
import FlagDecision.Proofs.StorageKey
import FlagDecision.Proofs.StoredRecord

/-! What the search for decisions can do to its progress. There are few moves: a
segment is checked, a rollout decision is remembered, a stored winner is recalled,
or the winner of a group is searched for, which happens inside the search for
another group at most for groups that are not being resolved yet. Every function of
the rules only makes such moves, so what the moves keep is kept by all of them. -/
namespace FlagDecision

/-- A step that is taken by itself is the step. -/
@[simp] theorem Step.liftM_eq {α : Type} (x : Step α) : (liftM x : Step α) = x := rfl

/-- A step goes on from what its first part came to. -/
theorem Step.run_bind_of {α β : Type} {x : Step α} {next : α → Step β} {p p' : Progress} {a : α}
    (h : x.run p = (a, p')) : (x >>= next).run p = (next a).run p' := by
  rw [StateT.run_bind, h]
  rfl

/-- A step that starts at `p` ends with a result and a progress as demanded. -/
def Step.Ensures {α : Type} (x : Step α) (p : Progress) (post : α → Progress → Prop) : Prop :=
  post (x.run p).1 (x.run p).2

namespace Step.Ensures

variable {α β : Type} {x : Step α} {p : Progress} {post : α → Progress → Prop}

theorem pure {a : α} (h : post a p) : Ensures (Pure.pure a) p post := h

theorem bind {f : α → Step β} {after : β → Progress → Prop} (hx : x.Ensures p post)
    (hf : ∀ a p', post a p' → (f a).Ensures p' after) : Ensures (x >>= f) p after :=
  hf _ _ hx

theorem pure_bind {a : α} {f : α → Step β} {after : β → Progress → Prop}
    (h : (f a).Ensures p after) : Ensures (Pure.pure a >>= f) p after := h

theorem get_bind {f : Progress → Step α} (h : (f p).Ensures p post) :
    Ensures (get >>= f) p post := h

theorem modify_bind {g : Progress → Progress} {f : PUnit → Step α}
    (h : (f ⟨⟩).Ensures (g p) post) : Ensures (modify g >>= f) p post := h

theorem and {post' : α → Progress → Prop} (hx : x.Ensures p post) (hx' : x.Ensures p post') :
    x.Ensures p fun a p' => post a p' ∧ post' a p' :=
  ⟨hx, hx'⟩

theorem imp {post' : α → Progress → Prop} (hx : x.Ensures p post)
    (h : ∀ a p', post a p' → post' a p') : x.Ensures p post' :=
  h _ _ hx

/-- What every check keeps is kept by choosing from a list, and only elements of the list are
chosen. -/
theorem filterM (inv : Progress → Prop) {check : α → Step Bool} (as : List α)
    (hCheck : ∀ a p, inv p → (check a).Ensures p fun _ p' => inv p') (hp : inv p) :
    Ensures (as.filterM check) p fun chosen p' => inv p' ∧ ∀ a ∈ chosen, a ∈ as := by
  have hAux : ∀ (as done : List α) (p : Progress), inv p →
      Ensures (as.filterAuxM check done) p
        fun chosen p' => inv p' ∧ ∀ a ∈ chosen, a ∈ done ∨ a ∈ as := by
    intro as
    induction as with
    | nil => exact fun done p hp => pure ⟨hp, fun a ha => Or.inl ha⟩
    | cons a rest ih =>
        intro done p hp
        refine (hCheck a p hp).bind fun answer p' hp' => (ih _ p' hp').imp fun chosen p'' h => ?_
        refine ⟨h.1, fun b hb => ?_⟩
        have hFrom := h.2 b hb
        cases answer <;> simp_all [or_assoc, or_left_comm]
  refine (hAux as [] p hp).bind fun chosen p' h => pure ⟨h.1, fun a ha => ?_⟩
  simpa using h.2 a (List.mem_reverse.mp ha)

/-- Choosing by checks that answer as a test does is filtering by the test. -/
theorem filterM_filter (inv : Progress → Prop) {check : α → Step Bool} {keep : α → Bool}
    (as : List α)
    (hCheck : ∀ a p, inv p → (check a).Ensures p fun answer p' => answer = keep a ∧ inv p')
    (hp : inv p) :
    Ensures (as.filterM check) p fun chosen p' => chosen = as.filter keep ∧ inv p' := by
  have hAux : ∀ (as done : List α) (p : Progress), inv p →
      Ensures (as.filterAuxM check done) p
        fun chosen p' => chosen = (as.filter keep).reverse ++ done ∧ inv p' := by
    intro as
    induction as with
    | nil => exact fun done p hp => pure ⟨by simp, hp⟩
    | cons a rest ih =>
        intro done p hp
        refine (hCheck a p hp).bind fun answer p' hAnswer => ?_
        refine (ih _ p' hAnswer.2).imp fun chosen p'' h => ⟨?_, h.2⟩
        rw [h.1, hAnswer.1]
        cases hKeep : keep a <;> simp [hKeep]
  refine (hAux as [] p hp).bind fun chosen p' h => pure ⟨?_, h.2⟩
  rw [h.1, List.append_nil, List.reverse_reverse]

end Step.Ensures

namespace Storage

/-- The record that reading a key gives. Without storage, and while reading fails, there is
none. -/
def recordOf (storage : Option Storage) (key : String) : Option Json :=
  storage.bind fun s => if s.refusesReads then none else s.records.lookup key

theorem decision?_eq (storage : Option Storage) (featureKey userId : String) :
    storage.bind (·.decision? featureKey userId) =
      (recordOf storage (StoredDecision.storageKey featureKey userId)).bind
        StoredDecision.ofJson? := by
  cases storage with
  | none => rfl
  | some s =>
      cases hReads : s.refusesReads <;>
        cases hLookup : s.records.lookup (StoredDecision.storageKey featureKey userId) <;>
        simp [recordOf, Storage.decision?, Storage.get, hReads, hLookup]

/-- A storage that is there and refuses neither reading nor writing. -/
def Works (storage : Option Storage) : Prop :=
  ∃ s, storage = some s ∧ s.refusesReads = false ∧ s.refusesWrites = false

end Storage

namespace Inquiry

open Storage StoredDecision

variable {q : Inquiry} {p p' : Progress} {busy : List Nat}

theorem storedWinner?_eq (q : Inquiry) (storage : Option Storage) (groupId : Nat) :
    q.storedWinner? storage groupId =
      ((recordOf storage (groupKey groupId q.user.id)).bind ofJson?).bind winner? := by
  rw [storedWinner?, storedDecision?, Storage.decision?_eq]
  rfl

@[simp] theorem recorded_winners (d : StoredDecision) (p : Progress) :
    (recorded d p).winners = p.winners := by
  unfold recorded
  dsimp only
  split <;> rfl

@[simp] theorem recorded_rollouts (d : StoredDecision) (p : Progress) :
    (recorded d p).rollouts = p.rollouts := by
  unfold recorded
  dsimp only
  split <;> rfl

@[simp] theorem recorded_desk (d : StoredDecision) (p : Progress) :
    (recorded d p).desk = p.desk := by
  unfold recorded
  dsimp only
  split <;> rfl

/-- Recording a decision leaves every other key as it is. -/
theorem recordOf_recorded_of_ne (d : StoredDecision) (p : Progress) {key : String}
    (h : key ≠ storageKey d.featureKey d.userId) :
    recordOf (recorded d p).storage key = recordOf p.storage key := by
  unfold recorded
  dsimp only
  split
  · rename_i storage hSet
    obtain ⟨s, hs, hPut⟩ := Option.bind_eq_some_iff.mp hSet
    simp only [Storage.set?] at hPut
    split at hPut
    · simp at hPut
    · obtain rfl := Option.some.inj hPut
      simp [hs, recordOf, Storage.put, Table.lookup_put_of_ne _ _ h]
  · rfl

theorem recorded_of_none (d : StoredDecision) (h : p.storage = none) : recorded d p = p := by
  simp [recorded, h]

theorem storedDecision_recorded_of_ne {d : StoredDecision} (hUser : d.userId = q.user.id)
    {featureKey : String} (h : featureKey ≠ d.featureKey) :
    q.storedDecision? (recorded d p).storage featureKey =
      q.storedDecision? p.storage featureKey := by
  rw [storedDecision?, storedDecision?, Storage.decision?_eq, Storage.decision?_eq,
    recordOf_recorded_of_ne]
  rw [hUser]
  exact fun hKey => h (storageKey_left_inj hKey)

theorem storedDecision_recorded_if_of_ne {d : StoredDecision} (hUser : d.userId = q.user.id)
    {featureKey : String} (h : featureKey ≠ d.featureKey) (on : Bool) :
    q.storedDecision? (if on then recorded d p else p).storage featureKey =
      q.storedDecision? p.storage featureKey := by
  cases on with
  | true => exact storedDecision_recorded_of_ne hUser h
  | false => rfl

theorem storedWinner_recorded_of_ne {g g' : Nat} {c : Campaign} (h : g' ≠ g) :
    q.storedWinner? (recorded (q.winnerRecord g c) p).storage g' =
      q.storedWinner? p.storage g' := by
  have hOther : groupFeatureKey g' ≠ groupFeatureKey g := fun hKey =>
    h (groupKey_inj (congrArg (storageKey · "") hKey)).1
  rw [storedWinner?, storedWinner?, storedDecision_recorded_of_ne rfl hOther]

/-- A working storage keeps the record and goes on working. -/
theorem recorded_works (d : StoredDecision) (h : Works p.storage) :
    Works (recorded d p).storage ∧
      recordOf (recorded d p).storage (storageKey d.featureKey d.userId) = some d.toJson := by
  obtain ⟨s, hs, hReads, hWrites⟩ := h
  have hStorage : (recorded d p).storage =
      some (s.put (storageKey d.featureKey d.userId) d.toJson) := by
    simp [recorded, hs, Storage.set?, hWrites]
  rw [hStorage]
  exact ⟨⟨_, rfl, hReads, hWrites⟩, by simp [recordOf, Storage.put, hReads]⟩

/-- A campaign that a group lists and some feature links. -/
def Candidate (q : Inquiry) (groupId : Nat) (c : Campaign) : Prop :=
  ∃ g, q.settings.group? groupId = some g ∧ g.contains c ∧ ∃ f ∈ q.settings.features, c ∈ f.linked

/-- Nobody knows the winner of a group: it is neither being searched for, nor known in this
evaluation, nor stored. -/
structure Unsettled (q : Inquiry) (busy : List Nat) (p : Progress) (groupId : Nat) : Prop where
  notBusy : groupId ∉ busy
  unknown : p.winners.lookup groupId = none
  unstored : q.storedWinner? p.storage groupId = none

/-- The moves of the search, while the groups in `busy` are being resolved. The moves between the
beginning and the end of the search for a winner are made with its group busy too. -/
inductive Moves (q : Inquiry) : List Nat → Progress → Progress → Prop where
  | refl {busy : List Nat} {p : Progress} : Moves q busy p p
  | trans {busy : List Nat} {p p' p'' : Progress} (first : Moves q busy p p')
      (rest : Moves q busy p' p'') : Moves q busy p p''
  | ask {busy : List Nat} {p : Progress} (desk : ListDesk) : Moves q busy p { p with desk }
  | remember {busy : List Nat} {p : Progress} (key : String) (decided : Option (Nat × Nat)) :
      Moves q busy p { p with rollouts := (key, decided) :: p.rollouts }
  | reuse {busy : List Nat} {p : Progress} {g : Nat} {winner : GroupMember} (notBusy : g ∉ busy)
      (unknown : p.winners.lookup g = none) (stored : q.storedWinner? p.storage g = some winner) :
      Moves q busy p { p with winners := (g, some winner) :: p.winners }
  | leave {busy : List Nat} {p p' : Progress} {g : Nat} (unsettled : q.Unsettled busy p g)
      (search : Moves q (g :: busy) p p') :
      Moves q busy p { p' with winners := (g, none) :: p'.winners }
  | crown {busy : List Nat} {p p' : Progress} {g : Nat} {c : Campaign}
      (unsettled : q.Unsettled busy p g) (search : Moves q (g :: busy) p p')
      (candidate : q.Candidate g c) :
      Moves q busy p { recorded (q.winnerRecord g c) p' with
        winners := (g, some c.groupMember) :: (recorded (q.winnerRecord g c) p').winners }

namespace Moves

theorem winners_kept (h : q.Moves busy p p') {g : Nat} {winner : Option GroupMember}
    (hKnown : p.winners.lookup g = some winner) : p'.winners.lookup g = some winner := by
  have hOther : ∀ {p : Progress} {g' : Nat}, p.winners.lookup g = some winner →
      p.winners.lookup g' = none → g ≠ g' := by
    rintro p g' hKnown hNone rfl
    simp [hNone] at hKnown
  induction h with
  | refl | ask | remember => exact hKnown
  | trans _ _ ihFirst ihRest => exact ihRest (ihFirst hKnown)
  | reuse _ unknown => exact (Table.lookup_cons_of_ne _ _ (hOther hKnown unknown)).trans hKnown
  | leave unsettled _ ih | crown unsettled _ _ ih =>
      rw [Table.lookup_cons_of_ne _ _ (hOther hKnown unsettled.unknown)]
      simp [ih hKnown]

/-- Nothing is found out about a group that is being resolved. -/
theorem winners_busy (h : q.Moves busy p p') {g : Nat} (hBusy : g ∈ busy) :
    p'.winners.lookup g = p.winners.lookup g := by
  have hOther : ∀ {busy : List Nat} {g' : Nat}, g ∈ busy → g' ∉ busy → g ≠ g' := by
    rintro busy g' hBusy hOpen rfl
    exact hOpen hBusy
  induction h with
  | refl | ask | remember => rfl
  | trans _ _ ihFirst ihRest => exact (ihRest hBusy).trans (ihFirst hBusy)
  | reuse notBusy => exact Table.lookup_cons_of_ne _ _ (hOther hBusy notBusy)
  | leave unsettled _ ih | crown unsettled _ _ ih =>
      rw [Table.lookup_cons_of_ne _ _ (hOther hBusy unsettled.notBusy)]
      simp [ih (List.mem_cons_of_mem _ hBusy)]

theorem works (h : q.Moves busy p p') (hWorks : Works p.storage) : Works p'.storage := by
  induction h with
  | refl | ask | remember | reuse => exact hWorks
  | trans _ _ ihFirst ihRest => exact ihRest (ihFirst hWorks)
  | leave _ _ ih => exact ih hWorks
  | crown _ _ _ ih => exact (recorded_works _ (ih hWorks)).1

theorem unstored (h : q.Moves busy p p') (hNone : p.storage = none) : p'.storage = none := by
  induction h with
  | refl | ask | remember | reuse => exact hNone
  | trans _ _ ihFirst ihRest => exact ihRest (ihFirst hNone)
  | leave _ _ ih => exact ih hNone
  | crown _ _ _ ih =>
      rw [recorded_of_none _ (ih hNone)]
      exact ih hNone

/-- Only records of groups without stored winner change, and none of a busy group. -/
theorem recordOf_eq (h : q.Moves busy p p') {key : String}
    (hKey : ∀ g, key = groupKey g q.user.id → g ∈ busy ∨ q.storedWinner? p.storage g ≠ none) :
    recordOf p'.storage key = recordOf p.storage key := by
  induction h with
  | refl | ask | remember | reuse => rfl
  | trans first _ ihFirst ihRest =>
      have hFirst := ihFirst hKey
      refine (ihRest fun g hg => (hKey g hg).imp_right ?_).trans hFirst
      intro hStored
      rwa [storedWinner?_eq, ← hg, hFirst, hg, ← storedWinner?_eq]
  | leave _ _ ih => exact ih fun g hg => (hKey g hg).imp_left (List.mem_cons_of_mem _)
  | crown unsettled _ _ ih =>
      refine (recordOf_recorded_of_ne _ _ ?_).trans
        (ih fun g hg => (hKey g hg).imp_left (List.mem_cons_of_mem _))
      rintro rfl
      rcases hKey _ rfl with hBusy | hStored
      · exact unsettled.notBusy hBusy
      · exact hStored unsettled.unstored

end Moves

end Inquiry

end FlagDecision
