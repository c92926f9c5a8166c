import Mathlib.Data.List.Perm.Subperm
import Mathlib.Logic.Relation
import FlagDecision.Proofs.Decided
import FlagDecision.Proofs.Faithful

/-! The rules keep a progress faithful, by one lemma per function, as long as the groups
that they come to are grounded. A grounded group is never met again while it is being
resolved, so the answer given to a busy group is never taken, and what each function
answers is what follows from the winners known when it ends. -/
namespace FlagDecision

open Storage StoredDecision

/-- Every busy group asks, directly or not, for the winner of a group. -/
def Settings.Above (s : Settings) (busy : List Nat) (g : Nat) : Prop :=
  ∀ b ∈ busy, Relation.TransGen s.Asks b g

namespace Settings

variable {s : Settings} {busy : List Nat} {g h : Nat}

theorem Grounded.asks (hGrounded : s.Grounded g) (hAsks : s.Asks g h) : s.Grounded h :=
  hGrounded.inv hAsks

theorem Grounded.not_transGen (hGrounded : s.Grounded g) : ¬Relation.TransGen s.Asks g g := by
  induction hGrounded with
  | intro g _ ih =>
      intro hLoop
      obtain ⟨h, hAsks, hBack⟩ := Relation.TransGen.head'_iff.mp hLoop
      exact ih h hAsks (Relation.TransGen.tail' hBack hAsks)

theorem Grounded.notMem (hGrounded : s.Grounded g) (hAbove : s.Above busy g) : g ∉ busy :=
  fun hBusy => hGrounded.not_transGen (hAbove g hBusy)

theorem Above.cons (hAbove : s.Above busy g) (hAsks : s.Asks g h) : s.Above (g :: busy) h := by
  intro b hb
  rcases List.mem_cons.mp hb with rfl | hb
  · exact .single hAsks
  · exact (hAbove b hb).tail hAsks

end Settings

namespace Inquiry

open Step

variable {q : Inquiry} {storage : Option Storage} {p : Progress} {f : Feature} {c : Campaign}
  {g : Nat} {guard : Guard Step} {busy : List Nat}

/-- A guard that finds out what follows, for grounded groups below the busy ones. -/
structure Guard.Searches (guard : Guard Step) (q : Inquiry) (busy : List Nat)
    (storage : Option Storage) : Prop where
  follows : guard.Follows q busy
  finds : ∀ g p, q.Faithful storage p → q.settings.Grounded g → q.settings.Above busy g →
    p.winners.lookup g = none → q.storedWinner? storage g = none →
    (guard.resolve g).Ensures p fun winner p' =>
      q.Faithful storage { p' with winners := (g, winner) :: p'.winners }

/-- The group of a campaign, if it has one, is grounded and below the busy ones. -/
def Reachable (q : Inquiry) (busy : List Nat) (c : Campaign) : Prop :=
  ∀ g, q.settings.groupOf? c.groupMember = some g →
    q.settings.Grounded g ∧ q.settings.Above busy g

theorem preSegmentation_faithful (h : q.Faithful storage p) (f : Feature) (c : Campaign) :
    (q.preSegmentation f c).Ensures p fun answer p' => answer = q.targets storage f c ∧
      ∃ desk : ListDesk, q.Faithful storage p' ∧ p' = { p with desk } := by
  refine (preSegmentation_targets f c h.desk (h.stuckAlike _)).imp fun answer p' hAsked => ?_
  obtain ⟨hAnswer, desk, hDesk, hSame⟩ := hAsked
  exact ⟨hAnswer, desk, hSame ▸ h.ask hDesk, hSame⟩

theorem passes?_grouped (hGroup : q.settings.groupOf? c.groupMember = some g) :
    (q.outlook storage p).passes? f c =
      if q.targets storage f c then
        ((q.outlook storage p).winners g).map (· == some c.groupMember)
      else some false := by
  rw [Outlook.passes?, outlook]
  simp only [hGroup]

theorem passes?_alone (hAlone : q.settings.groupOf? c.groupMember = none) :
    (q.outlook storage p).passes? f c = some (q.targets storage f c) := by
  simp only [Outlook.passes?, outlook, hAlone]

/-- What is answered for a rollout of a group follows; experiments may be asked too. -/
theorem isWinner_faithful (hGuard : guard.Searches q busy storage) (h : q.Faithful storage p)
    (hGroup : q.settings.groupOf? c.groupMember = some g) (hGrounded : q.settings.Grounded g)
    (hAbove : q.settings.Above busy g) (hFeature : f ∈ q.settings.features) :
    (q.isWinner guard f c g).Ensures p fun answer p' => q.Faithful storage p' ∧
      (c ∈ f.rollouts → (q.outlook storage p').passes? f c = some answer) := by
  -- A known winner decides without targeting, which is then known to hold for the rollout.
  have hDecided : ∀ p' winner, q.Faithful storage p' →
      (q.outlook storage p').winners g = some winner → c ∈ f.rollouts →
      (q.outlook storage p').passes? f c = some (winner == some c.groupMember) := by
    intro p' winner h' hWinner hRollout
    rw [passes?_grouped hGroup]
    by_cases hOn : q.targets storage f c = true
    · rw [if_pos hOn, hWinner]
      rfl
    · rw [if_neg hOn]
      refine congrArg some (Eq.symm (beq_eq_false_iff_ne.mpr ?_))
      rintro rfl
      exact hOn (h'.targeted g _ hWinner f hFeature c hRollout rfl)
  refine Ensures.get_bind ?_
  cases hKnown : p.winners.lookup g with
  | some winner =>
      exact Ensures.pure ⟨h, hDecided p winner h (by simp [outlook, hKnown])⟩
  | none =>
      rw [hGuard.follows.busy_eq]
      refine Ensures.pure_bind ?_
      split
      · rename_i hBusy
        exact absurd (List.contains_iff_mem.mp hBusy) (hGrounded.notMem hAbove)
      · split
        · rename_i m hStored
          have hRecalled := h.reuse hGrounded hKnown hStored
          refine Ensures.modify_bind (Ensures.pure ⟨hRecalled, fun hRollout => ?_⟩)
          exact hDecided _ (some m) hRecalled (by simp [outlook, Progress.knowing]) hRollout
        · rename_i hStored
          rw [h.groups g (by simp [hKnown])] at hStored
          refine (preSegmentation_faithful h f c).bind fun passed p₁ hPassed => ?_
          obtain ⟨hTargets, desk, h₁, rfl⟩ := hPassed
          split
          · refine (hGuard.finds g _ h₁ hGrounded hAbove hKnown hStored).bind
              fun winner p₂ h₂ => Ensures.modify_bind (Ensures.pure ⟨h₂, fun hRollout => ?_⟩)
            exact hDecided _ winner h₂ (by simp [outlook, Progress.knowing]) hRollout
          · rename_i hOff
            refine Ensures.pure ⟨h₁, fun _ => ?_⟩
            have hTargets : q.targets storage f c = false := by simpa [hTargets] using hOff
            rw [passes?_grouped hGroup, if_neg (by simp [hTargets])]

theorem passes_faithful (hGuard : guard.Searches q busy storage) (h : q.Faithful storage p)
    (hReachable : q.Reachable busy c) (hFeature : f ∈ q.settings.features) :
    (q.passes guard f c).Ensures p fun answer p' => q.Faithful storage p' ∧
      (c ∈ f.rollouts → (q.outlook storage p').passes? f c = some answer) := by
  rw [passes]
  split
  · rename_i g hGroup
    obtain ⟨hGrounded, hAbove⟩ := hReachable g hGroup
    exact isWinner_faithful hGuard h hGroup hGrounded hAbove hFeature
  · rename_i hAlone
    refine (preSegmentation_faithful h f c).imp fun answer p' hAsked => ?_
    obtain ⟨hAnswer, -, h', -⟩ := hAsked
    refine ⟨h', fun _ => ?_⟩
    rw [passes?_alone hAlone, hAnswer]

theorem firstPassing_faithful (hGuard : guard.Searches q busy storage) (h : q.Faithful storage p)
    (hFeature : f ∈ q.settings.features) {campaigns : List Campaign}
    (hRollouts : ∀ c ∈ campaigns, c ∈ f.rollouts ∧ q.Reachable busy c) :
    (q.firstPassing guard f campaigns).Ensures p fun found p' => q.Faithful storage p' ∧
      (q.outlook storage p').firstPassing? f campaigns = some found := by
  induction campaigns generalizing p with
  | nil => exact Ensures.pure ⟨h, rfl⟩
  | cons c rest ih =>
      obtain ⟨hRollout, hReachable⟩ := hRollouts c List.mem_cons_self
      refine (passes_faithful hGuard h hReachable hFeature).bind fun answer p₁ h₁ => ?_
      have hPasses := h₁.2 hRollout
      split
      · rename_i hAnswer
        exact Ensures.pure ⟨h₁.1, by simp [Outlook.firstPassing?, hPasses, hAnswer]⟩
      · rename_i hAnswer
        refine ((ih h₁.1 fun d hd => hRollouts d (List.mem_cons_of_mem _ hd)).and
          (firstPassing_moves hGuard.follows f rest)).imp fun found p₂ hFound => ?_
        obtain ⟨⟨h₂, hRest⟩, hMoves, -⟩ := hFound
        have hPasses := (h₂.grows hMoves).passes? f c _ hPasses
        exact ⟨h₂, by simp [Outlook.firstPassing?, hPasses, hAnswer, hRest]⟩

/-- The ids of a linked rollout and of one of its variations are enough to find a choice again. -/
theorem remembered?_isSome (hReady : q.settings.Ready) (hFeature : f ∈ q.settings.features)
    (hRollout : c ∈ f.rollouts) {v : Variation} (hv : v ∈ c.variations) :
    (q.remembered? f c.id v.id).isSome = true := by
  obtain ⟨origin, hFind, -, hNarrow⟩ := hReady.origin hFeature (List.mem_of_mem_filter hRollout)
  have hFound : (origin.variation? v.id).isSome = true :=
    List.find?_isSome.mpr ⟨v, hNarrow.sublist.subset hv, by simp⟩
  obtain ⟨w, hw⟩ := Option.isSome_iff_exists.mp hFound
  simp [remembered?, hFind, hw]

theorem remembered_isSome (hReady : q.settings.Ready) (hFeature : f ∈ q.settings.features)
    {choice : Option Choice}
    (hChoice : ∀ c v, choice = some (c, v) → c ∈ f.rollouts ∧ v ∈ c.variations) :
    ((choice.map fun (c, v) => (c.id, v.id)).bind fun ids =>
      q.remembered? f ids.1 ids.2).isSome = choice.isSome := by
  rcases choice with _ | ⟨c, v⟩
  · rfl
  · obtain ⟨hRollout, hv⟩ := hChoice c v rfl
    exact remembered?_isSome hReady hFeature hRollout hv

/-- Whether a rollout decision is there follows, and a new one names a targeted rollout. -/
theorem rolloutDecision_faithful (hTidy : q.settings.Tidy) (hGuard : guard.Searches q busy storage)
    (h : q.Faithful storage p) (hFeature : f ∈ q.settings.features)
    (hReachable : ∀ c ∈ f.rollouts, q.Reachable busy c) :
    (q.rolloutDecision guard f).Ensures p fun choice p' => q.Faithful storage p' ∧
      (f.hasRollout = true → (q.outlook storage p').isOpen? f = some choice.isSome) ∧
      (p.rollouts.lookup f.key = none → ∀ c v, choice = some (c, v) →
        q.targets storage f c = true) := by
  refine Ensures.get_bind ?_
  split
  · rename_i decided hKnown
    exact Ensures.pure ⟨h, fun hRollout => h.memo f hFeature hRollout decided hKnown,
      by simp [hKnown]⟩
  · refine ((firstPassing_faithful hGuard h hFeature fun c hc => ⟨hc, hReachable c hc⟩).and
      (firstPassing_moves hGuard.follows f f.rollouts)).bind fun passing p₁ hFound => ?_
    obtain ⟨⟨h₁, hPassing⟩, -, hMem⟩ := hFound
    have hOpen : f.hasRollout = true → (q.outlook storage p₁).isOpen? f =
        some ((q.outlook storage p₁).allotted? passing).isSome := by
      intro hRollout
      rw [Outlook.isOpen?, if_pos hRollout, hPassing]
      rfl
    refine Ensures.modify_bind (Ensures.pure ⟨h₁.remember hTidy hFeature fun hRollout => ?_, hOpen,
      fun _ c v hChoice => ?_⟩)
    · rw [hOpen hRollout]
      refine congrArg some (remembered_isSome hTidy.ready hFeature fun c v hChoice => ?_).symm
      obtain ⟨d, rfl, hGiven⟩ := Option.bind_eq_some_iff.mp hChoice
      obtain ⟨w, hAllot, hSame⟩ := Option.map_eq_some_iff.mp hGiven
      obtain ⟨rfl, rfl⟩ := Prod.mk.inj hSame
      exact ⟨(hMem d rfl).1, Campaign.allot?_mem hAllot⟩
    · obtain ⟨d, rfl, hGiven⟩ := Option.bind_eq_some_iff.mp hChoice
      obtain ⟨w, -, hSame⟩ := Option.map_eq_some_iff.mp hGiven
      obtain ⟨rfl, -⟩ := Prod.mk.inj hSame
      exact Outlook.targets_of_firstPassing hPassing

theorem isClosed_faithful (hTidy : q.settings.Tidy) (hGuard : guard.Searches q busy storage)
    (h : q.Faithful storage p) (hFeature : f ∈ q.settings.features)
    (hReachable : ∀ c ∈ f.rollouts, q.Reachable busy c) :
    (q.isClosed guard f).Ensures p fun closed p' => q.Faithful storage p' ∧
      (q.outlook storage p').isOpen? f = some !closed := by
  rw [isClosed]
  split
  · rename_i hRollout
    refine (rolloutDecision_faithful hTidy hGuard h hFeature hReachable).bind fun choice p' h' =>
      Ensures.pure ⟨h'.1, ?_⟩
    rw [h'.2.1 hRollout]
    cases choice <;> rfl
  · rename_i hNone
    exact Ensures.pure ⟨h, by rw [Outlook.isOpen?, if_neg hNone]; rfl⟩

theorem competitors_faithful (hTidy : q.settings.Tidy) (hGuard : guard.Searches q busy storage)
    (h : q.Faithful storage p) (hFeature : f ∈ q.settings.features) (listed : List Campaign)
    (hReachable : (∃ e ∈ listed, e.kind ≠ .rollout) → ∀ c ∈ f.rollouts, q.Reachable busy c) :
    (q.competitors guard f listed).Ensures p fun campaigns p' => q.Faithful storage p' ∧
      (q.outlook storage p').competitors? f listed = some campaigns := by
  rw [competitors]
  split
  · rename_i hEmpty
    exact Ensures.pure ⟨h, by rw [Outlook.competitors?, if_pos hEmpty]⟩
  · rename_i hSome
    refine (isClosed_faithful hTidy hGuard h hFeature (hReachable (by simpa using hSome))).bind
      fun closed p' h' => ?_
    cases closed <;>
      exact Ensures.pure ⟨h'.1, by rw [Outlook.competitors?, if_neg hSome, h'.2]; rfl⟩

theorem enter_cons (o : Outlook) (f : Feature) (done : Contest) (c : Campaign)
    (rest : List Campaign) :
    o.enter f done (c :: rest) =
      if o.isStored f c then o.enter f { done with stored := done.stored ++ [c] } rest
      else if o.admits f c then o.enter f { done with eligible := done.eligible ++ [c] } rest
      else o.enter f done rest := by
  simp only [Outlook.enter, List.filter_cons]
  cases o.isStored f c <;> cases o.admits f c <;> simp

theorem enter_faithful (h : q.Faithful storage p) (f : Feature) {done : Contest}
    {campaigns : List Campaign} :
    (q.enter f (q.storedDecision? storage f.key) done campaigns).Ensures p fun found p' =>
      q.Faithful storage p' ∧ found = (q.outlook storage p').enter f done campaigns := by
  induction campaigns generalizing p done with
  | nil => exact Ensures.pure ⟨h, by simp [Outlook.enter]⟩
  | cons c rest ih =>
      rw [enter]
      simp only [enter_cons]
      split
      · rename_i hStored
        refine (ih h).imp fun found p' h' => ⟨h'.1, ?_⟩
        rw [if_pos (show (q.outlook storage p').isStored f c = true from hStored)]
        exact h'.2
      · rename_i hStored
        refine (preSegmentation_faithful h f c).bind fun passed p₁ hAsked => ?_
        obtain ⟨hPassed, -, h₁, -⟩ := hAsked
        -- No outlook of the evaluation targets otherwise than the check does.
        have hAdmits : ∀ p', (q.outlook storage p').admits f c = (passed && c.isMember q.user.id) :=
          fun p' => by rw [hPassed]; rfl
        split
        · rename_i hIn
          refine (ih h₁).imp fun found p' h' => ⟨h'.1, ?_⟩
          rw [if_neg (show ¬(q.outlook storage p').isStored f c = true from hStored),
            if_pos ((hAdmits p').trans hIn)]
          exact h'.2
        · rename_i hOut
          refine (ih h₁).imp fun found p' h' => ⟨h'.1, ?_⟩
          rw [if_neg (show ¬(q.outlook storage p').isStored f c = true from hStored),
            if_neg (hAdmits p' ▸ hOut)]
          exact h'.2

theorem contest_faithful (hTidy : q.settings.Tidy) (hGuard : guard.Searches q busy storage)
    (h : q.Faithful storage p) {group : Group} {features : List Feature} {done : Contest}
    (hFeatures : ∀ f ∈ features, f ∈ q.settings.features)
    (hReachable : ∀ f ∈ features, (∃ e ∈ f.linked, e.kind ≠ .rollout ∧ group.contains e = true) →
      ∀ c ∈ f.rollouts, q.Reachable busy c) :
    (q.contest guard group done features).Ensures p fun found p' => q.Faithful storage p' ∧
      (q.outlook storage p').contest? group done features = some found := by
  induction features generalizing p done with
  | nil => exact Ensures.pure ⟨h, rfl⟩
  | cons f rest ih =>
      have hFeature := hFeatures f List.mem_cons_self
      have hRest := fun e he => hFeatures e (List.mem_cons_of_mem _ he)
      have hReachableRest := fun e he => hReachable e (List.mem_cons_of_mem _ he)
      rw [contest]
      split
      · rename_i hEmpty
        refine (ih h hRest hReachableRest).imp fun found p' h' => ⟨h'.1, ?_⟩
        rw [Outlook.contest?, if_pos hEmpty]
        exact h'.2
      · rename_i hListed
        have hCompetitors := competitors_faithful hTidy hGuard h hFeature
          (f.linked.filter group.contains) fun hSome => by
            obtain ⟨e, he, hKind⟩ := hSome
            obtain ⟨hLinked, hContains⟩ := List.mem_filter.mp he
            exact hReachable f List.mem_cons_self ⟨e, hLinked, hKind, hContains⟩
        refine hCompetitors.bind fun campaigns p₁ h₁ => Ensures.get_bind ?_
        rw [h₁.1.decisions f hFeature]
        refine ((enter_faithful h₁.1 f).and (enter_moves busy f _ (fun _ => True)
          (fun _ _ => trivial) fun _ _ => trivial)).bind fun done' p₂ hEntered => ?_
        obtain ⟨⟨h₂, hDone⟩, hMoves₂, -⟩ := hEntered
        refine ((ih h₂ hRest hReachableRest).and (contest_moves hGuard.follows group (fun _ => True)
          (fun _ _ => trivial) fun _ _ _ _ _ => trivial)).imp fun found p₃ h' => ?_
        obtain ⟨⟨h₃, hFound⟩, hMoves₃, -⟩ := h'
        refine ⟨h₃, ?_⟩
        have hKnown := (h₃.grows (hMoves₂.trans hMoves₃)).competitors? f _ _ h₁.2
        subst hDone
        rw [Outlook.contest?, if_neg hListed, hKnown]
        exact hFound

/-- Rollouts that are stored for the user are targeted. -/
def StoredTargeted (q : Inquiry) (storage : Option Storage) : Prop :=
  ∀ f ∈ q.settings.features, ∀ c ∈ f.rollouts,
    (q.storedDecision? storage f.key).any (isStoredFor · c) = true → q.targets storage f c = true

theorem variations_ne_nil_of_isStoredFor {d : StoredDecision} (h : isStoredFor d c = true) :
    c.variations ≠ [] := by
  intro hNone
  simp [isStoredFor, Campaign.variation?, hNone] at h

theorem variations_ne_nil_of_isMember {userId : String} (h : c.isMember userId = true)
    (hKind : c.kind = .rollout) : c.variations ≠ [] := by
  intro hNone
  simp [Campaign.isMember, hKind, CampaignKind.isSingleVariation, hNone] at h

theorem champion_targeted (hTidy : q.settings.Tidy) (hStored : q.StoredTargeted storage)
    {group : Group} {found : Contest}
    (hFound : (q.outlook storage p).contest? group {} q.settings.features = some found)
    (hCandidate : c ∈ found.candidates) :
    ∀ f ∈ q.settings.features, ∀ c' ∈ f.rollouts, c'.groupMember = c.groupMember →
      q.targets storage f c' = true := by
  intro f' hFeature' c' hRollout hMember
  have hKind : ∀ f ∈ q.settings.features, c ∈ f.linked → c.kind = .rollout := by
    intro f hFeature hLinked
    obtain ⟨hLinked', hKind'⟩ := List.mem_filter.mp hRollout
    have hId : c.id = c'.id := by simpa using congrArg GroupMember.campaignId hMember.symm
    obtain ⟨origin, -, hNarrow, hNarrow'⟩ :=
      hTidy.ready.same_origin hFeature hLinked hFeature' hLinked' hId
    exact hNarrow.kind_eq.trans (hNarrow'.kind_eq.symm.trans (eq_of_beq hKind'))
  obtain ⟨f, hFeature, hCompetes, hIn⟩ := Outlook.competes_of_candidate hFound hCandidate
  split at hIn
  · obtain ⟨hTargets, hMemberOf⟩ := Bool.and_eq_true_iff.mp hIn
    exact targets_alike hTidy hFeature hCompetes.linked hFeature' hRollout hMember.symm
      (variations_ne_nil_of_isMember hMemberOf (hKind f hFeature hCompetes.linked))
      fun _ => hTargets
  · obtain ⟨d, hDecision, hFor⟩ := (Option.any_eq_true ..).mp hIn
    refine targets_alike hTidy hFeature hCompetes.linked hFeature' hRollout hMember.symm
      (variations_ne_nil_of_isStoredFor hFor) fun hRolloutKind => ?_
    exact hStored f hFeature c (List.mem_filter.mpr ⟨hCompetes.linked, by simp [hRolloutKind]⟩) hIn

/-- The contest for a grounded group finds the winner that follows. -/
theorem contest_settles (hTidy : q.settings.Tidy) (hStored : q.StoredTargeted storage)
    (hGuard : guard.Searches q busy storage) (h : q.Faithful storage p) {group : Group}
    (hGroup : q.settings.group? g = some group) (hBusy : g ∈ busy)
    (hUnknown : p.winners.lookup g = none)
    (hAsked : ∀ k, q.settings.Asks g k → q.settings.Grounded k ∧ q.settings.Above busy k) :
    (q.contest guard group {} q.settings.features).Ensures p fun found p' =>
      q.Faithful storage p' ∧ p'.winners.lookup g = none ∧
        (q.outlook storage p').winner? g =
          some ((group.winner? g found.candidates q.user.id).map (·.groupMember)) ∧
        ∀ c, group.winner? g found.candidates q.user.id = some c → ∀ f ∈ q.settings.features,
          ∀ c' ∈ f.rollouts, c'.groupMember = c.groupMember → q.targets storage f c' = true := by
  -- The groups of the rollouts that the contest comes to are asked for by this group.
  have hReachable : ∀ f ∈ q.settings.features,
      (∃ e ∈ f.linked, e.kind ≠ .rollout ∧ group.contains e = true) →
      ∀ c ∈ f.rollouts, q.Reachable busy c := by
    rintro f hFeature ⟨e, hLinked, hKind, hContains⟩ c hRollout k hOf
    exact hAsked k
      ⟨group, f, e, c, hGroup, hFeature, hLinked, hKind, hContains, hRollout, hOf⟩
  refine ((contest_faithful hTidy hGuard h (fun _ hf => hf) hReachable).and
    (contest_moves hGuard.follows group (fun _ => True) (fun _ _ => trivial)
      fun _ _ _ _ _ => trivial)).imp fun found p' hContest => ?_
  obtain ⟨⟨h', hFound⟩, hMoves, -⟩ := hContest
  have hChampion : (q.outlook storage p').champion? g =
      some (group.winner? g found.candidates q.user.id) := by
    rw [Outlook.champion?]
    simp only [outlook] at hFound ⊢
    simp only [hGroup, hFound, Option.map_some]
  refine ⟨h', (hMoves.winners_busy hBusy).trans hUnknown, ?_, fun c hSomebody => ?_⟩
  · rw [Outlook.winner?, hChampion]
    rfl
  · exact champion_targeted hTidy hStored hFound (Group.winner?_mem hSomebody)

/-- Electing the winner that follows keeps a progress faithful. -/
theorem elect_faithful (h : q.Faithful storage p) (hGrounded : q.settings.Grounded g)
    (hUnknown : p.winners.lookup g = none) (hUnstored : q.storedWinner? storage g = none)
    {group : Group} {found : Contest}
    (hWinner : (q.outlook storage p).winner? g =
      some ((group.winner? g found.candidates q.user.id).map (·.groupMember)))
    (hTargeted : ∀ c, group.winner? g found.candidates q.user.id = some c →
      ∀ f ∈ q.settings.features, ∀ c' ∈ f.rollouts, c'.groupMember = c.groupMember →
        q.targets storage f c' = true) :
    (q.elect g group found).Ensures p fun winner p' =>
      q.Faithful storage { p' with winners := (g, winner) :: p'.winners } := by
  rw [elect]
  split
  · rename_i hNobody
    rw [hNobody] at hWinner
    exact Ensures.pure (h.settle hGrounded hUnknown hUnstored hWinner (by simp) .nobody)
  · rename_i c hSomebody
    rw [hSomebody] at hWinner
    refine Ensures.modify_bind (Ensures.pure (h.settle hGrounded hUnknown hUnstored hWinner ?_
      (.champion c)))
    rintro m ⟨⟩
    exact hTargeted c hSomebody

/-- Groups that are being resolved are defined, each once, so the depth always suffices for one
more. -/
theorem resolveGroup_searches (hTidy : q.settings.Tidy) (hStored : q.StoredTargeted storage)
    (depth : Nat) (busy : List Nat) (hNodup : busy.Nodup)
    (hDefined : ∀ b ∈ busy, b ∈ q.settings.groups.map (·.1))
    (hDepth : depth + busy.length = q.settings.groups.length + 1) :
    Guard.Searches ⟨pure busy, q.resolveGroup depth busy⟩ q busy storage := by
  induction depth generalizing busy with
  | zero =>
      have hLength := (List.subperm_of_subset hNodup hDefined).length_le
      simp only [List.length_map] at hLength
      omega
  | succ depth ih =>
      refine ⟨resolveGroup_follows _ _, fun g p h hGrounded hAbove hUnknown hUnstored => ?_⟩
      change (q.resolveGroup (depth + 1) busy g).Ensures p _
      rw [resolveGroup, winnerOf]
      split
      · rename_i hNone
        refine Ensures.pure (h.settle hGrounded hUnknown hUnstored ?_ (by simp) .nobody)
        simp [Outlook.winner?, Outlook.champion?, outlook, hNone]
      · rename_i group hGroup
        have hIn : g ∈ q.settings.groups.map (·.1) := by
          obtain ⟨before, after, hGroups, -⟩ := List.lookup_eq_some_iff.mp hGroup
          simp [hGroups]
        have hGuard := ih (g :: busy) (List.nodup_cons.mpr ⟨hGrounded.notMem hAbove, hNodup⟩)
          (List.forall_mem_cons.mpr ⟨hIn, hDefined⟩) (by rw [List.length_cons]; omega)
        refine (contest_settles hTidy hStored hGuard h hGroup List.mem_cons_self hUnknown
          fun k hAsks => ⟨hGrounded.asks hAsks, hAbove.cons hAsks⟩).bind
            fun found p₁ hSettled => ?_
        obtain ⟨h₁, hUnknown₁, hWinner, hTargeted⟩ := hSettled
        exact elect_faithful h₁ hGrounded hUnknown₁ hUnstored hWinner hTargeted

theorem outside_searches (hTidy : q.settings.Tidy) (hStored : q.StoredTargeted storage) :
    q.outside.Searches q [] storage :=
  resolveGroup_searches hTidy hStored _ _ List.nodup_nil (by simp) (by simp)

theorem whitelisting_faithful (h : q.Faithful storage p) (f : Feature) (c : Campaign) :
    (q.whitelisting f c).Ensures p fun _ p' => q.Faithful storage p' := by
  refine (whitelisting_truthful f c h.desk).imp fun forced p' hAsked => ?_
  obtain ⟨desk, hDesk, hSame⟩ := hAsked
  exact hSame ▸ h.ask hDesk

theorem experimentDecision_faithful (hTidy : q.settings.Tidy) (hStored : q.StoredTargeted storage)
    (h : q.Faithful storage p) (hFeature : f ∈ q.settings.features) {campaigns : List Campaign}
    (hReachable : ∀ c ∈ campaigns, q.Reachable [] c) :
    (q.experimentDecision f campaigns).Ensures p fun _ p' => q.Faithful storage p' := by
  induction campaigns generalizing p with
  | nil => exact Ensures.pure h
  | cons c rest ih =>
      rw [experimentDecision]
      refine (whitelisting_faithful h f c).bind fun forced p₁ h₁ => ?_
      split
      · exact Ensures.pure h₁
      · refine (passes_faithful (outside_searches hTidy hStored) h₁
          (hReachable c List.mem_cons_self) hFeature).bind fun answer p₂ h₂ => ?_
        split
        · exact Ensures.pure h₂.1
        · exact ih h₂.1 fun d hd => hReachable d (List.mem_cons_of_mem _ hd)

/-- An evaluation begins faithful, if the stored winners are targeted. -/
theorem faithful_progress {m : Memory} (hTruthful : m.cache.Truthful q.lists)
    (hApart : m.storage = none ∨ ∀ f ∈ q.settings.features, ∀ g, f.key ≠ groupFeatureKey g)
    (hWinners : ∀ g winner, q.storedWinner? m.storage g = some winner →
      ∀ f ∈ q.settings.features, ∀ c ∈ f.rollouts, c.groupMember = winner →
        q.targets m.storage f c = true) : q.Faithful m.storage m.progress := by
  refine ⟨hTruthful, hApart, fun _ _ => rfl, fun _ _ => rfl, ?_, ?_, fun g winner hKnown => ?_, ?_⟩
  · simp [Memory.progress]
  · simp [Memory.progress]
  · exact hWinners g winner (by simpa [outlook, Memory.progress] using hKnown)
  · simp [Memory.progress]

end Inquiry

namespace Evaluator

open Step

variable {q : Inquiry} {f : Feature} {stored : Option StoredDecision} {p : Progress}
  {storage : Option Storage}

/-- Trying the rollouts keeps a progress faithful. They are closed only where that follows, and a
rollout that is passed is targeted. -/
theorem rolloutStage_faithful (hTidy : q.settings.Tidy) (hTargeted : q.StoredTargeted storage)
    (h : q.Faithful storage p) (hFeature : f ∈ q.settings.features)
    (hReachable : ∀ c ∈ f.rollouts, q.Reachable [] c) (hNew : p.rollouts.lookup f.key = none)
    (hStored : stored.bind (storedRollout? q.settings) = none) :
    (rolloutStage q f stored).Ensures p fun stage p' => q.Faithful storage p' ∧
      (stage = .closed → (q.outlook storage p').isOpen? f = some false) ∧
      ∀ c v, stage = .passed (c, v) → q.targets storage f c = true := by
  rw [rolloutStage, hStored]
  dsimp only
  split
  · rename_i hRollout
    refine (Inquiry.rolloutDecision_faithful hTidy (Inquiry.outside_searches hTidy hTargeted) h
      hFeature hReachable).bind fun choice p' hDecided => ?_
    obtain ⟨h', hOpen, hTargets⟩ := hDecided
    rcases choice with _ | ⟨c, v⟩
    · exact Ensures.pure ⟨h', fun _ => hOpen hRollout, by simp⟩
    · refine Ensures.pure ⟨h', by simp, fun d w hPassed => ?_⟩
      obtain ⟨rfl, rfl⟩ : c = d ∧ v = w := by simpa using hPassed
      exact hTargets hNew c v rfl
  · exact Ensures.pure ⟨h, by simp, by simp⟩

/-- The rules of a feature whose groups are grounded keep a progress faithful. -/
theorem verdict_faithful (hTidy : q.settings.Tidy) (hTargeted : q.StoredTargeted storage)
    (h : q.Faithful storage p) (hFeature : f ∈ q.settings.features)
    (hReachable : ∀ c ∈ f.linked, q.Reachable [] c) (hNew : p.rollouts.lookup f.key = none)
    (hStored : stored.bind (storedRollout? q.settings) = none) :
    (verdict q f stored).Ensures p fun v p' => q.Faithful storage p' ∧
      ∀ c w, v.stage = .passed (c, w) → q.targets storage f c = true := by
  rw [verdict_eq]
  refine (rolloutStage_faithful hTidy hTargeted h hFeature
    (fun c hc => hReachable c (List.mem_of_mem_filter hc)) hNew hStored).bind
    fun stage p₁ hStage => ?_
  obtain ⟨h₁, -, hTargets⟩ := hStage
  split
  · exact Ensures.pure ⟨h₁, hTargets⟩
  · exact (Inquiry.experimentDecision_faithful hTidy hTargeted h₁ hFeature fun c hc =>
      hReachable c (List.mem_of_mem_filter hc)).bind fun _ _ h₂ => Ensures.pure ⟨h₂, hTargets⟩

theorem verdict_closed : (verdict q f stored).Ensures p fun v p' =>
    v.stage = .closed → (rolloutStage q f stored).run p = (.closed, p') := by
  have hRun : (rolloutStage q f stored).Ensures p fun stage p₁ =>
      (rolloutStage q f stored).run p = (stage, p₁) := rfl
  rw [verdict_eq]
  refine hRun.bind fun stage p₁ hRun => ?_
  split
  · exact Ensures.pure fun _ => hRun
  · rename_i hOpen
    have hAny : (q.experimentDecision f f.experiments).Ensures p₁ fun _ _ => True := trivial
    exact hAny.bind fun _ _ _ => Ensures.pure fun hClosed => absurd hClosed hOpen

theorem Decided.faithful {v : Verdict} {p' : Progress} (h : Decided q f stored p v p')
    (hTidy : q.settings.Tidy) (hTargeted : q.StoredTargeted storage) (hStart : q.Faithful storage p)
    (hFeature : f ∈ q.settings.features) (hReachable : ∀ c ∈ f.linked, q.Reachable [] c)
    (hNew : p.rollouts.lookup f.key = none)
    (hStored : stored.bind (storedRollout? q.settings) = none) :
    ∃ p₁, q.Moves [] p p₁ ∧ q.Faithful storage p₁ ∧ (∀ choice ∈ v.fresh, q.Wins [] p₁ choice.1) ∧
      (∀ c w, v.stage = .passed (c, w) → q.targets storage f c = true) ∧
      p' = if v.detail.result.isEnabled then Inquiry.recorded (v.decision f q.user.id) p₁
        else p₁ := by
  obtain ⟨p₁, hRun, hMoves, hWins, hAfter⟩ := h.moved
  have hFaithful := verdict_faithful hTidy hTargeted hStart hFeature hReachable hNew hStored
  rw [Step.Ensures, hRun] at hFaithful
  exact ⟨p₁, hMoves, hFaithful.1, hWins, hFaithful.2, hAfter⟩

theorem Decided.closed_faithful {v : Verdict} {p' : Progress} (h : Decided q f stored p v p')
    (hTidy : q.settings.Tidy) (hTargeted : q.StoredTargeted storage) (hStart : q.Faithful storage p)
    (hFeature : f ∈ q.settings.features) (hReachable : ∀ c ∈ f.rollouts, q.Reachable [] c)
    (hNew : p.rollouts.lookup f.key = none) (hClosed : v.stage = .closed) :
    ∃ p₁, q.Faithful storage p₁ ∧ (q.outlook storage p₁).isOpen? f = some false := by
  obtain ⟨p₁, hRun, -, -, -⟩ := h.moved
  have hStored : stored.bind (storedRollout? q.settings) = none := by
    rw [← h.stored, hClosed]
    rfl
  have hStage : (rolloutStage q f stored).run p = (.closed, p₁) := by
    have hEnds : (verdict q f stored).Ensures p _ := verdict_closed
    rw [Step.Ensures, hRun] at hEnds
    exact hEnds hClosed
  have hFaithful := rolloutStage_faithful hTidy hTargeted hStart hFeature hReachable hNew hStored
  rw [Step.Ensures, hStage] at hFaithful
  exact ⟨p₁, hFaithful.1, hFaithful.2.1 rfl⟩

end Evaluator

/-- The groups of all campaigns of the feature asked for are grounded. -/
def Request.Grounded (r : Request) : Prop :=
  ∀ f, r.settings.feature? r.featureKey = some f → ∀ c ∈ f.linked, ∀ g,
    r.settings.groupOf? c.groupMember = some g → r.settings.Grounded g

theorem Request.Grounded.reachable {r : Request} {f : Feature} (h : r.Grounded)
    (hKnown : r.settings.feature? r.featureKey = some f) :
    ∀ c ∈ f.linked, r.inquiry.Reachable [] c :=
  fun c hLinked g hOf => ⟨h f hKnown c hLinked g hOf, by simp [Settings.Above]⟩

end FlagDecision
