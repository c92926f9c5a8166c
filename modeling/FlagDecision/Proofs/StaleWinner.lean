import FlagDecision.Proofs.StaleDecision
import FlagDecision.Proofs.UserIsolation

/-! Winners that went out of date. The stored winner of a group is taken as it stands, and
whether it still is a campaign of the group is not asked. Where it is not, nobody passes
for the group, as if the group listed no campaigns, and nothing is recorded that would put
it right. It makes no difference where no campaign of the group targets the user. -/
namespace FlagDecision

open Step Storage StoredDecision

/-- Forgetting the record of a key changes no other. -/
theorem Storage.forget_agreeOn (storage : Option Storage) (key : String) :
    AgreeOn (· ≠ key) storage (storage.map (·.forget key)) := by
  refine ⟨?_, fun other hOther => recordOf_forget_of_ne storage hOther⟩
  rw [Option.map_map]
  rfl

/-- The group without the campaigns that it lists. -/
def Group.unlisted (group : Group) : Group := { group with campaigns := [] }

namespace Settings

/-- The settings in which a group lists no campaigns. -/
def emptied (s : Settings) (g : Nat) : Settings :=
  { s with
    groups := s.groups.map fun entry =>
      (entry.1, if entry.1 = g then entry.2.unlisted else entry.2) }

theorem group?_emptied (s : Settings) (g k : Nat) :
    (s.emptied g).group? k =
      (s.group? k).map fun group => if k = g then group.unlisted else group :=
  Table.lookup_map (fun k (group : Group) => if k = g then group.unlisted else group) k s.groups

theorem emptied_unlisted (s : Settings) (g : Nat) {group : Group}
    (h : (s.emptied g).group? g = some group) : group.campaigns = [] := by
  rw [group?_emptied] at h
  obtain ⟨origin, -, rfl⟩ := Option.map_eq_some_iff.mp h
  rw [if_pos rfl]
  rfl

theorem emptied_sameApart (s : Settings) (g : Nat) : s.SameApart (s.emptied g) (· = g) :=
  ⟨rfl, by simp [emptied], fun k hOther => by simp [group?_emptied, hOther]⟩

end Settings

namespace Inquiry

variable {q : Inquiry} {p p' : Progress} {busy : List Nat} {guard : Guard Step} {f : Feature}
  {c : Campaign} {g : Nat} {winner : GroupMember} {storage : Option Storage} {s : Settings}
  {apart : Nat → Prop}

/-- Nobody can win a group: no campaign of the group targets the user, or the group lists none. -/
def Lacks (q : Inquiry) (storage : Option Storage) (g : Nat) : Prop :=
  ∀ f ∈ q.settings.features, ∀ c ∈ f.linked, q.settings.groupOf? c.groupMember = some g →
    q.targets storage f c = true → ∀ group, q.settings.group? g = some group → group.campaigns = []

theorem contest_unlisted {group : Group} (hEmpty : group.campaigns = []) (done : Contest)
    (features : List Feature) :
    (q.contest guard group done features).Ensures p fun found p' => found = done ∧ p' = p := by
  induction features with
  | nil => exact Ensures.pure ⟨rfl, rfl⟩
  | cons f rest ih =>
      have hNone : (f.linked.filter group.contains).isEmpty = true := by
        simp [Group.contains, hEmpty]
      rw [contest, if_pos hNone]
      exact ih

/-- A group that lists no campaigns has no winner, and looking for one does nothing. -/
theorem resolveGroup_unlisted (depth : Nat) (busy : List Nat)
    (hEmpty : ∀ group, q.settings.group? g = some group → group.campaigns = []) :
    (q.resolveGroup depth busy g).Ensures p fun found p' => found = none ∧ p' = p := by
  cases depth with
  | zero => exact Ensures.pure ⟨rfl, rfl⟩
  | succ depth =>
      rw [resolveGroup, winnerOf]
      split
      · exact Ensures.pure ⟨rfl, rfl⟩
      · rename_i group hGroup
        refine (contest_unlisted (hEmpty group hGroup) {} _).bind fun found p' hFound => ?_
        obtain ⟨rfl, rfl⟩ := hFound
        exact Ensures.pure ⟨rfl, rfl⟩

/-- A campaign does not pass for a group with another stored winner, and that winner is known from
then on. -/
theorem isWinner_of_stored (hBusy : guard.busy = pure busy) (hOpen : g ∉ busy)
    (hKnown : ∀ found, p.winners.lookup g = some found → found = some winner)
    (hStored : q.storedWinner? p.storage g = some winner) (hOther : c.groupMember ≠ winner) :
    (q.isWinner guard f c g).Ensures p fun answer p' =>
      answer = false ∧ (p' = p ∨ p' = p.knowing g (some winner)) := by
  refine Ensures.get_bind ?_
  cases hLookup : p.winners.lookup g with
  | some found =>
      rw [hKnown found hLookup]
      exact Ensures.pure ⟨by simpa using hOther.symm, Or.inl rfl⟩
  | none =>
      rw [hBusy]
      refine Ensures.pure_bind ?_
      rw [if_neg (by simpa using hOpen), hStored]
      exact Ensures.modify_bind (Ensures.pure ⟨by simpa using hOther.symm, Or.inr rfl⟩)

/-- A campaign does not pass for a group that nobody can win, and nobody is known as its winner from
then on. -/
theorem isWinner_of_lacks (hLacks : q.Lacks storage g) (hFeature : f ∈ q.settings.features)
    (hLinked : c ∈ f.linked) (hGroup : q.settings.groupOf? c.groupMember = some g)
    (depth : Nat) (hOpen : g ∉ busy)
    (hKnown : ∀ found, p.winners.lookup g = some found → found = none)
    (hUnstored : q.storedWinner? p.storage g = none) (hDesk : p.desk.cache.Truthful q.lists)
    (hStuck : q.StuckAlike p.storage storage c.featureIds) :
    (q.isWinner ⟨pure busy, q.resolveGroup depth busy⟩ f c g).Ensures p fun answer p' =>
      answer = false ∧ ∃ desk : ListDesk, desk.cache.Truthful q.lists ∧
        (p' = { p with desk } ∨ p' = { p with desk }.knowing g none) := by
  refine Ensures.get_bind ?_
  cases hLookup : p.winners.lookup g with
  | some found =>
      rw [hKnown found hLookup]
      exact Ensures.pure ⟨rfl, p.desk, hDesk, Or.inl rfl⟩
  | none =>
      refine Ensures.pure_bind ?_
      rw [if_neg (by simpa using hOpen), hUnstored]
      refine (preSegmentation_targets f c hDesk hStuck).bind fun passed p' hPassed => ?_
      obtain ⟨rfl, desk, hLeft, rfl⟩ := hPassed
      cases hTargets : q.targets storage f c with
      | false => exact Ensures.pure ⟨rfl, desk, hLeft, Or.inl rfl⟩
      | true =>
          have hEmpty := hLacks f hFeature c hLinked hGroup hTargets
          refine (resolveGroup_unlisted depth busy hEmpty).bind fun found p' hFound => ?_
          obtain ⟨rfl, rfl⟩ := hFound
          exact Ensures.modify_bind (Ensures.pure ⟨rfl, desk, hLeft, Or.inr rfl⟩)

/-- A search with a stored winner of a group, and one without it in which nobody can win the group.
The decisions of features are those from before. -/
structure Shut (q : Inquiry) (g : Nat) (winner : GroupMember) (before : Option Storage)
    (p p' : Progress) : Prop where
  winners : ∀ k, k ≠ g → p'.winners.lookup k = p.winners.lookup k
  known : ∀ found, p.winners.lookup g = some found → found = some winner
  known' : ∀ found, p'.winners.lookup g = some found → found = none
  rollouts : p'.rollouts = p.rollouts
  truthful : p.desk.cache.Truthful q.lists
  truthful' : p'.desk.cache.Truthful q.lists
  storage : AgreeOn (· ≠ groupKey g q.user.id) p.storage p'.storage
  stored : q.storedWinner? p.storage g = some winner
  unstored : q.storedWinner? p'.storage g = none
  decisions : ∀ f ∈ q.settings.features,
    q.storedDecision? p'.storage f.key = q.storedDecision? before f.key

namespace Shut

theorem ask (h : q.Shut g winner storage p p') {desk desk' : ListDesk}
    (hDesk : desk.cache.Truthful q.lists) (hDesk' : desk'.cache.Truthful q.lists) :
    q.Shut g winner storage { p with desk } { p' with desk := desk' } :=
  { h with truthful := hDesk, truthful' := hDesk' }

theorem know (h : q.Shut g winner storage p p') {k : Nat} (hOther : k ≠ g)
    (found : Option GroupMember) :
    q.Shut g winner storage (p.knowing k found) (p'.knowing k found) := by
  refine { h with winners := fun j hj => ?_, known := ?_, known' := ?_ }
  · by_cases hSame : j = k
    · simp [Progress.knowing, hSame]
    · simp only [Progress.knowing, Table.lookup_cons_of_ne _ _ hSame]
      exact h.winners j hj
  · rw [Progress.knowing, Table.lookup_cons_of_ne _ _ hOther.symm]
    exact h.known
  · rw [Progress.knowing, Table.lookup_cons_of_ne _ _ hOther.symm]
    exact h.known'

/-- The group may become known on either side. -/
theorem settle (h : q.Shut g winner storage p p') {p₁ p₁' : Progress}
    (hLeft : p₁ = p ∨ p₁ = p.knowing g (some winner))
    (hRight : p₁' = p' ∨ p₁' = p'.knowing g none) : q.Shut g winner storage p₁ p₁' := by
  have hFirst : q.Shut g winner storage p₁ p' := by
    rcases hLeft with rfl | rfl
    · exact h
    · refine { h with winners := fun k hk => ?_, known := by simp [Progress.knowing] }
      simp only [Progress.knowing, Table.lookup_cons_of_ne _ _ hk]
      exact h.winners k hk
  rcases hRight with rfl | rfl
  · exact hFirst
  · refine { hFirst with winners := fun k hk => ?_, known' := by simp [Progress.knowing] }
    simp only [Progress.knowing, Table.lookup_cons_of_ne _ _ hk]
    exact hFirst.winners k hk

theorem crown (h : q.Shut g winner storage p p')
    (hApart : ∀ f ∈ q.settings.features, ∀ k, f.key ≠ groupFeatureKey k) {k : Nat}
    (hOther : k ≠ g) (c : Campaign) :
    q.Shut g winner storage (recorded (q.winnerRecord k c) p)
      (recorded (q.winnerRecord k c) p') where
  winners j hj := by simpa using h.winners j hj
  known := by simpa using h.known
  known' := by simpa using h.known'
  rollouts := by simpa using h.rollouts
  truthful := by simpa using h.truthful
  truthful' := by simpa using h.truthful'
  storage := recorded_agreeOn _ h.storage
  stored := (storedWinner_recorded_of_ne hOther.symm).trans h.stored
  unstored := (storedWinner_recorded_of_ne hOther.symm).trans h.unstored
  decisions f hFeature :=
    (storedDecision_recorded_of_ne rfl (hApart f hFeature k)).trans (h.decisions f hFeature)

theorem decision_eq (h : q.Shut g winner storage p p') {featureKey : String}
    (hOther : featureKey ≠ groupFeatureKey g) :
    q.storedDecision? p'.storage featureKey = q.storedDecision? p.storage featureKey :=
  storedDecision_agree h.storage fun hKey => hOther (storageKey_left_inj hKey)

theorem holds (h : q.Shut g winner storage p p')
    (hApart : ∀ f ∈ q.settings.features, ∀ k, f.key ≠ groupFeatureKey k) (f : Feature)
    (attributes : Attributes) (s : Option Segment) :
    (q.holds f attributes s).Together (q.holds f attributes s) p p'
      fun _ => q.Shut g winner storage := by
  refine holds_together ?_ h.truthful h.truthful' fun desk desk' => h.ask
  refine meaning_same fun id _ f hFound => ?_
  rw [h.decision_eq (hApart f (List.mem_of_find?_eq_some hFound) g)]

end Shut

/-- Segments are checked alike in settings that differ by groups only. -/
theorem preSegmentation_sameApart (hSame : q.settings.SameApart s apart) :
    { q with settings := s }.preSegmentation = q.preSegmentation := by
  rw [hSame.eq]
  rfl

theorem whitelisting_sameApart (hSame : q.settings.SameApart s apart) :
    { q with settings := s }.whitelisting = q.whitelisting := by
  rw [hSame.eq]
  rfl

theorem Shut.whitelisting (h : q.Shut g winner storage p p')
    (hSame : q.settings.SameApart s apart)
    (hApart : ∀ f ∈ q.settings.features, ∀ k, f.key ≠ groupFeatureKey k) (f : Feature)
    (c : Campaign) :
    (q.whitelisting f c).Together ({ q with settings := s }.whitelisting f c) p p'
      fun _ => q.Shut g winner storage := by
  rw [whitelisting_sameApart hSame]
  exact whitelisting_together rfl (fun h v _ => h.holds hApart f _ v.segments) h

/-- Searches in which a group is shut share what the rules look at, but for what they know about the
group. -/
theorem shut_mirror (hSame : q.settings.SameApart s (· = g))
    (hApart : ∀ f ∈ q.settings.features, ∀ k, f.key ≠ groupFeatureKey k)
    (hStale : ∀ f ∈ q.settings.features, ∀ c ∈ f.linked,
      q.settings.groupOf? c.groupMember = some g → c.groupMember ≠ winner)
    (hLacks : Lacks { q with settings := s } storage g) :
    q.MirrorApart { q with settings := s } (· = g) (q.Shut g winner storage) where
  settings := hSame
  userId := rfl
  winners h := h.winners
  rollouts h := h.rollouts
  storedWinner h k hOther _ := by
    have hKey : groupFeatureKey k ≠ groupFeatureKey g := fun hKey =>
      hOther (groupKey_inj (congrArg (storageKey · "") hKey)).1
    exact congrArg (·.bind (·.winner?)) (h.decision_eq hKey)
  isStored h f hFeature c _ :=
    congrArg (·.any (isStoredFor · c)) (h.decision_eq (hApart f hFeature g))
  preSegmentation h f _ c _ := by
    rw [preSegmentation_sameApart hSame]
    exact h.holds hApart f _ _
  know h k hOther := h.know hOther
  remember h key decided :=
    { h with rollouts := congrArg ((key, decided) :: ·) h.rollouts }
  crown h k hOther c := (h.crown hApart hOther c).know hOther c.groupMember
  isWinner := by
    rintro p p' h depth busy hBusy _ rfl f hFeature c hLinked hGroup
    have hOpen := fun hIn => hBusy _ hIn rfl
    have hStuck : StuckAlike { q with settings := s } p'.storage storage c.featureIds :=
      fun id _ f hFound => congrArg Option.isSome
        (h.decisions f (hSame.features_eq ▸ List.mem_of_find?_eq_some hFound))
    refine .of_ensures
      (isWinner_of_stored rfl hOpen h.known h.stored (hStale f hFeature c hLinked hGroup))
      (isWinner_of_lacks hLacks (hSame.features_eq ▸ hFeature) hLinked (hSame.groupOf?_eq ▸ hGroup)
        depth hOpen h.known' h.unstored h.truthful' hStuck) ?_
    rintro _ _ p₁ p₁' ⟨rfl, hLeft⟩ ⟨rfl, desk, hDesk, hRight⟩
    exact ⟨rfl, (h.ask h.truthful hDesk).settle hLeft hRight⟩

end Inquiry

namespace Request

variable {r : Request} {m : Memory} {g : Nat} {winner : GroupMember}

theorem forget_decisions (m : Memory)
    (hApart : ∀ f ∈ r.settings.features, ∀ k, f.key ≠ groupFeatureKey k) (g : Nat) :
    ∀ f ∈ r.settings.features,
      r.inquiry.storedDecision? (m.forget (groupKey g r.user.id)).storage f.key =
        r.inquiry.storedDecision? m.storage f.key := fun f hFeature =>
  Inquiry.storedDecision_agree (forget_agreeOn m.storage _) fun hKey =>
    hApart f hFeature g (storageKey_left_inj hKey)

theorem shut_start (hTruthful : m.cache.Truthful r.evaluator.lists)
    (hApart : ∀ f ∈ r.settings.features, ∀ k, f.key ≠ groupFeatureKey k)
    (hStored : m.groupWinner? g r.user.id = some winner) :
    r.inquiry.Shut g winner m.storage m.progress (m.forget (groupKey g r.user.id)).progress := by
  refine ⟨fun _ _ => rfl, by simp [Memory.progress], by simp [Memory.progress], rfl, hTruthful,
    hTruthful, forget_agreeOn m.storage _, hStored, ?_, forget_decisions m hApart g⟩
  rw [Inquiry.storedWinner?_eq]
  exact congrArg (fun record => (record.bind ofJson?).bind winner?)
    (recordOf_forget_self m.storage _)

/-- A group is shut alike by a stored winner that is no campaign of it, and by settings in which
nobody can win it. -/
theorem answer_of_shut {s : Settings} (hSame : r.settings.SameApart s (· = g))
    (hTruthful : m.cache.Truthful r.evaluator.lists)
    (hApart : ∀ f ∈ r.settings.features, ∀ k, f.key ≠ groupFeatureKey k)
    (hStored : m.groupWinner? g r.user.id = some winner)
    (hStale : ∀ f ∈ r.settings.features, ∀ c ∈ f.linked,
      r.settings.groupOf? c.groupMember = some g → c.groupMember ≠ winner)
    (hLacks : Inquiry.Lacks { r.inquiry with settings := s } m.storage g) :
    ({ r with settings := s }.answer (m.forget (groupKey g r.user.id))).1.detail =
      (r.answer m).1.detail := by
  cases hKnown : r.settings.feature? r.featureKey with
  | none =>
      have hKnown' : s.feature? r.featureKey = none := by rw [hSame.feature?_eq, hKnown]
      rw [answer_unknown m hKnown, answer_unknown _ hKnown']
  | some f =>
      have hDecision : (m.forget (groupKey g r.user.id)).decision? r.featureKey r.user.id =
          m.decision? r.featureKey r.user.id := by
        rw [← storedDecision_eq _ hKnown, ← storedDecision_eq m hKnown]
        exact forget_decisions m hApart g f (List.mem_of_find?_eq_some hKnown)
      have hStart := shut_start hTruthful hApart hStored
      have hMirror := Inquiry.shut_mirror (q := r.inquiry) hSame hApart hStale hLacks
      have hAlike : AnsweredAlike r { r with settings := s } _ m _ _ _ :=
        answer_alike hMirror hStart rfl (by rw [hDecision]) (by rw [hDecision])
          fun h f _ c _ => h.whitelisting hSame hApart f c
      exact (hAlike.looks rfl rfl hStart).1

/-- The stored winner of a group is not replaced by an answer to its user. -/
theorem answer_keeps_winner (hApart : ∀ f ∈ r.settings.features, ∀ k, f.key ≠ groupFeatureKey k)
    (hStored : m.groupWinner? g r.user.id = some winner) :
    (r.answer m).2.groupWinner? g r.user.id = some winner := by
  cases hKnown : r.settings.feature? r.featureKey with
  | none => rw [answer_unknown m hKnown, hStored]
  | some f =>
      have hOwn : groupKey g r.user.id ≠ storageKey r.featureKey r.user.id := by
        rw [← key_eq hKnown]
        exact fun hKey =>
          hApart f (List.mem_of_find?_eq_some hKnown) g (storageKey_left_inj hKey).symm
      have hKept := (r.answered m).recordOf_eq hOwn fun k hKey => by
        rw [← (groupKey_inj hKey).1, hStored]
        simp
      rw [Memory.groupWinner?_eq, hKept, ← Memory.groupWinner?_eq, hStored]

/-- A stored winner that is no campaign of its group shuts the group for the user, and stays. What
is shown is what would be shown without it if the group listed no campaigns. If no campaign of the
group targets the user, it is also what would be shown without it in the same settings. -/
theorem answer_of_stale_winner (hTruthful : m.cache.Truthful r.evaluator.lists)
    (hApart : ∀ f ∈ r.settings.features, ∀ k, f.key ≠ groupFeatureKey k)
    (hStored : m.groupWinner? g r.user.id = some winner)
    (hStale : ∀ f ∈ r.settings.features, ∀ c ∈ f.linked,
      r.settings.groupOf? c.groupMember = some g → c.groupMember ≠ winner) :
    let without := m.forget (groupKey g r.user.id)
    (r.answer m).2.groupWinner? g r.user.id = some winner ∧
      (r.answer m).1.detail =
        ({ r with settings := r.settings.emptied g }.answer without).1.detail ∧
      ((∀ f ∈ r.settings.features, ∀ c ∈ f.linked,
          r.settings.groupOf? c.groupMember = some g → r.inquiry.targets m.storage f c = false) →
        (r.answer m).1.detail = (r.answer without).1.detail) := by
  refine ⟨answer_keeps_winner hApart hStored, ?_, fun hUntargeted => ?_⟩
  · refine (answer_of_shut (r.settings.emptied_sameApart g) hTruthful hApart hStored hStale ?_).symm
    exact fun _ _ _ _ _ _ _ hGroup => r.settings.emptied_unlisted g hGroup
  · refine (answer_of_shut (.refl r.settings) hTruthful hApart hStored hStale ?_).symm
    intro f hFeature c hLinked hGroup hTargets
    have hNot : r.inquiry.targets m.storage f c = false := hUntargeted f hFeature c hLinked hGroup
    exact absurd (hNot.symm.trans hTargets) (by simp)

/-- The memory in which the winner of the group of rivals is a campaign that is gone. -/
def staleMemory : Memory :=
  let gone : StoredDecision :=
    { featureKey := groupFeatureKey 7, userId := "u", experimentId := some 99,
      experimentKey := some "99" }
  ⟨some { records := [(groupKey 7 "u", gone.toJson)] }, ⟨0, 0, []⟩⟩

theorem rival_shut :
    let r := small .rivals "right"
    staleMemory.groupWinner? 7 "u" = some ⟨99, none⟩ ∧
      (r.answer staleMemory).2.groupWinner? 7 "u" = some ⟨99, none⟩ ∧
      (r.answer staleMemory).1.detail =
        ({ r with settings := r.settings.emptied 7 }.answer
          (staleMemory.forget (groupKey 7 "u"))).1.detail := by
  intro r
  have hStored : staleMemory.groupWinner? 7 "u" = some ⟨99, none⟩ := by decide +kernel
  have hStale : ∀ f ∈ r.settings.features, ∀ c ∈ f.linked,
      r.settings.groupOf? c.groupMember = some 7 → c.groupMember ≠ ⟨99, none⟩ := by
    decide +kernel
  have hApart : ∀ f ∈ r.settings.features, ∀ k, f.key ≠ groupFeatureKey k := by
    have hPlain : ∀ f ∈ r.settings.features, IsPlainKey f.key := by decide +kernel
    exact fun f hFeature k => (hPlain f hFeature).ne_groupFeatureKey k
  obtain ⟨hKept, hShown, -⟩ := answer_of_stale_winner (r := r) (m := staleMemory)
    (Inquiry.empty_truthful _) hApart hStored hStale
  exact ⟨hStored, hKept, hShown⟩

/-- The winner that is gone keeps a rival from an experiment that is shown without it. -/
theorem rival_not_healed :
    let r := small .rivals "right"
    staleMemory.groupWinner? 7 "u" = some ⟨99, none⟩ ∧
      (∀ f ∈ r.settings.features, ∀ c ∈ f.linked, ∀ group ∈ r.settings.group? 7,
        group.contains c → c.groupMember ≠ ⟨99, none⟩) ∧
      (r.answer staleMemory).1.detail.reason = .rollout 3 1 ∧
      (r.answer (staleMemory.forget (groupKey 7 "u"))).1.detail.reason = .experiment 2 1 := by
  decide +kernel

end Request

end FlagDecision
