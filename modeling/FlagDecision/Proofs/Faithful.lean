import FlagDecision.Proofs.Outlook

/-! Faithful progress. The search knows of winners only what follows from the winners
it knows, and remembers of rollouts only what follows from them. As winners become
known one by one, what followed before goes on following. -/
namespace FlagDecision

open Storage StoredDecision

/-- Settings in which keys name features and a rollout has one variation at most. -/
structure Settings.Tidy (s : Settings) : Prop where
  ready : s.Ready
  featureKeys : (s.features.map (·.key)).Nodup
  single : ∀ c ∈ s.campaigns, c.kind = .rollout → c.variations.length ≤ 1

theorem Settings.rivals_tidy : Settings.rivals.Tidy :=
  ⟨rivals_ready, by decide +kernel, by decide +kernel⟩

/-- Settings with a rollout of two variations, which two features narrow to one each. Only the first
variation is ever targeted and has traffic. -/
def Settings.narrowed : Settings :=
  { accountId := 1
    campaigns := [
      { Campaign.small .rollout 1 with
        variations := [{ id := 1, weight := 100 }, { id := 2, segments := some (.disj []) }] },
      .small .rollout 2, .small .ab 3, .small .ab 4, .small .ab 5, .small .ab 6]
    features := [
      { Feature.small 1 "first" [] with
        rules := [{ campaignId := 1, variationId := some 1 }, { campaignId := 3 }] },
      { Feature.small 2 "second" [] with
        rules := [{ campaignId := 1, variationId := some 2 }, { campaignId := 2 },
          { campaignId := 4 }] },
      .small 3 "left" [5, 6], .small 4 "right" [6, 5]]
    groups := [(7, .small [1] []), (8, .small [3, 5] [3, 5]), (9, .small [4, 6] [4, 6])]
    campaignGroups := [(⟨1, none⟩, 7), (⟨3, none⟩, 8), (⟨5, none⟩, 8), (⟨4, none⟩, 9),
      (⟨6, none⟩, 9)] : Settings }.link

namespace Inquiry

variable {q : Inquiry} {storage : Option Storage} {p p' : Progress} {f f' : Feature}
  {c c' : Campaign} {g : Nat}

/-- A rollout that a feature links is targeted where the same rollout with its variation is
targeted for any feature. -/
theorem targets_alike (hTidy : q.settings.Tidy) (hFeature : f ∈ q.settings.features)
    (hLinked : c ∈ f.linked) (hFeature' : f' ∈ q.settings.features) (hRollout : c' ∈ f'.rollouts)
    (hMember : c.groupMember = c'.groupMember) (hVariations : c.variations ≠ [])
    (hTargets : c.kind = .rollout → q.targets storage f c = true) :
    q.targets storage f' c' = true := by
  have hId : c.id = c'.id := by simpa using congrArg GroupMember.campaignId hMember
  obtain ⟨hLinked', hKind'⟩ := List.mem_filter.mp hRollout
  obtain ⟨origin, hOrigin, hNarrow, hNarrow'⟩ :=
    hTidy.ready.same_origin hFeature hLinked hFeature' hLinked' hId
  have hKind : origin.kind = .rollout := hNarrow'.kind_eq ▸ eq_of_beq hKind'
  have hSingle := hTidy.single origin hOrigin hKind
  have hKind := hNarrow.kind_eq.trans hKind
  by_cases hNone : c'.variations = []
  · have hAbsent : c'.preSegmentation = none := by
      simp [Campaign.preSegmentation, eq_of_beq hKind', CampaignKind.isSingleVariation, hNone]
    rw [targets, hAbsent]
    rfl
  · have hAll : ∀ c : Campaign, c.NarrowedFrom origin → c.variations ≠ [] →
        c.variations = origin.variations := fun c hNarrow hSome =>
      hNarrow.sublist.eq_of_length_le (Nat.le_trans hSingle (List.length_pos_iff.mpr hSome))
    have hSame : c.variations = c'.variations :=
      (hAll c hNarrow hVariations).trans (hAll c' hNarrow' hNone).symm
    rw [← hTargets hKind]
    refine (targets_same ?_ ?_ fun _ _ _ _ => rfl).symm
    · rw [Campaign.preSegmentation, Campaign.preSegmentation, hKind, eq_of_beq hKind', hSame,
        hNarrow.segments_eq, hNarrow'.segments_eq]
    · rw [hNarrow.eq, hNarrow'.eq]

/-- What a progress knows: the winners found in the evaluation, and those stored before it. -/
def outlook (q : Inquiry) (storage : Option Storage) (p : Progress) : Outlook where
  inquiry := q
  storage
  winners g := (p.winners.lookup g).or ((q.storedWinner? storage g).map some)

/-- A progress is faithful to the storage that the evaluation began with. -/
structure Faithful (q : Inquiry) (storage : Option Storage) (p : Progress) : Prop where
  desk : p.desk.cache.Truthful q.lists
  apart : p.storage = none ∨ ∀ f ∈ q.settings.features, ∀ g, f.key ≠ groupFeatureKey g
  decisions : ∀ f ∈ q.settings.features,
    q.storedDecision? p.storage f.key = q.storedDecision? storage f.key
  groups : ∀ g, (∀ m, p.winners.lookup g ≠ some (some m)) →
    q.storedWinner? p.storage g = q.storedWinner? storage g
  grounded : ∀ g winner, p.winners.lookup g = some winner → q.settings.Grounded g
  settled : ∀ g winner, p.winners.lookup g = some winner →
    (q.storedWinner? storage g).map some = some winner ∨
      q.storedWinner? storage g = none ∧ (q.outlook storage p).winner? g = some winner
  targeted : ∀ g m, (q.outlook storage p).winners g = some (some m) →
    ∀ f ∈ q.settings.features, ∀ c ∈ f.rollouts, c.groupMember = m → q.targets storage f c = true
  memo : ∀ f ∈ q.settings.features, f.hasRollout = true → ∀ decided,
    p.rollouts.lookup f.key = some decided → (q.outlook storage p).isOpen? f =
      some (decided.bind fun ids => q.remembered? f ids.1 ids.2).isSome

/-- One progress knows all winners that another knows. -/
def Grows (q : Inquiry) (storage : Option Storage) (p p' : Progress) : Prop :=
  ∀ g, Extends ((q.outlook storage p).winners g) ((q.outlook storage p').winners g)

/-- Moves to a faithful progress keep what was known. -/
theorem Faithful.grows {busy : List Nat} (h : q.Faithful storage p') (hMoves : q.Moves busy p p') :
    q.Grows storage p p' := by
  intro g winner hKnown
  simp only [outlook] at hKnown ⊢
  cases hFound : p.winners.lookup g with
  | some found =>
      rw [hFound] at hKnown
      rw [hMoves.winners_kept hFound]
      exact hKnown
  | none =>
      have hStored : (q.storedWinner? storage g).map some = some winner := by
        simpa [hFound] using hKnown
      cases hFound' : p'.winners.lookup g with
      | none => exact hStored
      | some found =>
          rcases h.settled g found hFound' with hSame | ⟨hNone, -⟩
          · exact hSame.symm.trans hStored
          · simp [hNone] at hStored

theorem outlook_comparable (q : Inquiry) (storage : Option Storage) (p p' : Progress) :
    (q.outlook storage p).Comparable (q.outlook storage p') :=
  ⟨rfl, rfl⟩

namespace Grows

variable (h : q.Grows storage p p')

include h

theorem passes? (f : Feature) (c : Campaign) :
    Extends ((q.outlook storage p).passes? f c) ((q.outlook storage p').passes? f c) :=
  Outlook.passes_lifts extends_lifts (outlook_comparable ..) rfl fun g _ =>
    extends_lifts.map (h g) _

theorem isOpen? (f : Feature) :
    Extends ((q.outlook storage p).isOpen? f) ((q.outlook storage p').isOpen? f) :=
  Outlook.isOpen_lifts extends_lifts (outlook_comparable ..) fun c _ => h.passes? f c

theorem competitors? (f : Feature) (listed : List Campaign) :
    Extends ((q.outlook storage p).competitors? f listed)
      ((q.outlook storage p').competitors? f listed) :=
  Outlook.competitors_lifts extends_lifts (outlook_comparable ..) fun _ c _ => h.passes? f c

theorem winner? (g : Nat) :
    Extends ((q.outlook storage p).winner? g) ((q.outlook storage p').winner? g) :=
  extends_lifts.map (Outlook.champion_lifts extends_lifts (outlook_comparable q storage p p')
    (fun _ _ _ _ => rfl) (fun _ _ _ => rfl) fun g _ _ => extends_lifts.map (h g) _) _

end Grows

namespace Faithful

variable (h : q.Faithful storage p)

include h

theorem stuckAlike (ids : List Nat) : q.StuckAlike p.storage storage ids :=
  fun _ _ f hFeature => by rw [h.decisions f (List.mem_of_find?_eq_some hFeature)]

theorem recalls {m : GroupMember} (hStored : q.storedWinner? storage g = some m) :
    (q.outlook storage p).winners g = some (some m) := by
  simp only [outlook, hStored, Option.map_some]
  cases hFound : p.winners.lookup g with
  | none => rfl
  | some found =>
      rcases h.settled g found hFound with hSame | ⟨hNone, -⟩
      · simpa [hStored] using hSame.symm
      · simp [hStored] at hNone

/-- Where no winner is stored, the known one follows. -/
theorem follows (hStored : q.storedWinner? storage g = none) {winner : Option GroupMember}
    (hKnown : (q.outlook storage p).winners g = some winner) :
    (q.outlook storage p).winner? g = some winner := by
  simp only [outlook, hStored, Option.map_none, Option.or_none] at hKnown
  rcases h.settled g winner hKnown with hSame | ⟨-, hFollows⟩
  · simp [hStored] at hSame
  · exact hFollows

theorem ask {desk : ListDesk} (hDesk : desk.cache.Truthful q.lists) :
    q.Faithful storage { p with desk } :=
  ⟨hDesk, h.apart, h.decisions, h.groups, h.grounded, h.settled, h.targeted, h.memo⟩

theorem reuse {m : GroupMember} (hGrounded : q.settings.Grounded g)
    (hUnknown : p.winners.lookup g = none)
    (hStored : q.storedWinner? p.storage g = some m) :
    q.Faithful storage { p with winners := (g, some m) :: p.winners } := by
  rw [h.groups g (by simp [hUnknown])] at hStored
  have hSame : q.outlook storage { p with winners := (g, some m) :: p.winners } =
      q.outlook storage p := by
    simp only [outlook, Outlook.mk.injEq, true_and]
    funext g'
    by_cases hg : g' = g
    · subst hg
      simp [hUnknown, hStored]
    · rw [Table.lookup_cons_of_ne _ _ hg]
  refine ⟨h.desk, h.apart, h.decisions, fun g' hOther => ?_, fun g' winner hKnown => ?_,
    fun g' winner hKnown => ?_, ?_, ?_⟩
  · by_cases hg : g' = g
    · subst hg
      exact absurd (by simp) (hOther m)
    · exact h.groups g' fun m' => Table.lookup_cons_of_ne _ _ hg ▸ hOther m'
  · by_cases hg : g' = g
    · exact hg ▸ hGrounded
    · exact h.grounded g' winner ((Table.lookup_cons_of_ne _ _ hg).symm.trans hKnown)
  · by_cases hg : g' = g
    · subst hg
      obtain rfl : some m = winner := by simpa using hKnown
      exact Or.inl (by rw [hStored]; rfl)
    · rw [hSame]
      exact h.settled g' winner ((Table.lookup_cons_of_ne _ _ hg).symm.trans hKnown)
  · rw [hSame]
    exact h.targeted
  · rw [hSame]
    exact h.memo

theorem remember (hTidy : q.settings.Tidy) (hFeature : f ∈ q.settings.features)
    {decided : Option (Nat × Nat)} (hOpen : f.hasRollout = true → (q.outlook storage p).isOpen? f =
      some (decided.bind fun ids => q.remembered? f ids.1 ids.2).isSome) :
    q.Faithful storage { p with rollouts := (f.key, decided) :: p.rollouts } := by
  refine ⟨h.desk, h.apart, h.decisions, h.groups, h.grounded, h.settled, h.targeted, ?_⟩
  intro f' hFeature' hRollout decided' hKnown
  by_cases hKey : f'.key = f.key
  · obtain rfl : f' = f := List.inj_on_of_nodup_map hTidy.featureKeys hFeature' hFeature hKey
    obtain rfl : decided = decided' := by simpa using hKnown
    exact hOpen hRollout
  · exact h.memo f' hFeature' hRollout decided'
      ((Table.lookup_cons_of_ne _ _ hKey).symm.trans hKnown)

end Faithful

/-- What becomes of a progress when the winner of a group was looked for: nobody won, or a campaign
did and was recorded. -/
inductive Crowned (q : Inquiry) (g : Nat) (p : Progress) :
    Option GroupMember → Progress → Prop where
  | nobody : Crowned q g p none p
  | champion (c : Campaign) : Crowned q g p (some c.groupMember) (recorded (q.winnerRecord g c) p)

namespace Crowned

variable {winner : Option GroupMember} (h : q.Crowned g p winner p')

include h

theorem desk_eq : p'.desk = p.desk := by
  cases h <;> simp

theorem winners_eq : p'.winners = p.winners := by
  cases h <;> simp

theorem rollouts_eq : p'.rollouts = p.rollouts := by
  cases h <;> simp

theorem unstored (hNone : p.storage = none) : p'.storage = none := by
  cases h with
  | nobody => exact hNone
  | champion c =>
      rw [recorded_of_none _ hNone]
      exact hNone

theorem decisions (hFaithful : q.Faithful storage p) (hFeature : f ∈ q.settings.features) :
    q.storedDecision? p'.storage f.key = q.storedDecision? storage f.key := by
  rw [← hFaithful.decisions f hFeature]
  cases h with
  | nobody => rfl
  | champion c =>
      rcases hFaithful.apart with hNone | hApart
      · rw [recorded_of_none _ hNone]
      · exact storedDecision_recorded_of_ne rfl (hApart f hFeature g)

/-- The winners that are stored for groups without known member are left. -/
theorem groups (hFaithful : q.Faithful storage p) (hUnknown : p.winners.lookup g = none) {g' : Nat}
    (hFree : ∀ m, List.lookup g' ((g, winner) :: p.winners) ≠ some (some m)) :
    q.storedWinner? p'.storage g' = q.storedWinner? storage g' := by
  have hBefore : ∀ m, p.winners.lookup g' ≠ some (some m) := by
    intro m
    by_cases hg : g' = g
    · simp [hg, hUnknown]
    · exact Table.lookup_cons_of_ne p.winners _ hg ▸ hFree m
  rw [← hFaithful.groups g' hBefore]
  cases h with
  | nobody => rfl
  | champion c =>
      have hg : g' ≠ g := by
        rintro rfl
        exact absurd (by simp) (hFree c.groupMember)
      exact storedWinner_recorded_of_ne hg

end Crowned

/-- A winner that follows may become known, and be recorded if there is one. -/
theorem Faithful.settle {winner : Option GroupMember} (h : q.Faithful storage p)
    (hGrounded : q.settings.Grounded g) (hUnknown : p.winners.lookup g = none)
    (hUnstored : q.storedWinner? storage g = none)
    (hWinner : (q.outlook storage p).winner? g = some winner)
    (hTargeted : ∀ m, winner = some m → ∀ f ∈ q.settings.features, ∀ c ∈ f.rollouts,
      c.groupMember = m → q.targets storage f c = true) (hCrowned : q.Crowned g p winner p') :
    q.Faithful storage { p' with winners := (g, winner) :: p'.winners } := by
  have hOther : ∀ g' : Nat, g' ≠ g →
      (q.outlook storage { p' with winners := (g, winner) :: p'.winners }).winners g' =
        (q.outlook storage p).winners g' := by
    intro g' hg
    simp only [outlook, hCrowned.winners_eq]
    rw [Table.lookup_cons_of_ne _ _ hg]
  have hGrows : q.Grows storage p { p' with winners := (g, winner) :: p'.winners } := by
    intro g' winner' hKnown
    by_cases hg : g' = g
    · subst hg
      simp [outlook, hUnknown, hUnstored] at hKnown
    · rwa [hOther g' hg]
  refine ⟨hCrowned.desk_eq ▸ h.desk, h.apart.imp_left hCrowned.unstored,
    fun f hFeature => hCrowned.decisions h hFeature, fun g' hFree => ?_,
    fun g' winner' hKnown => ?_, fun g' winner' hKnown => ?_, fun g' m hKnown => ?_,
    fun f hFeature hRollout decided hKnown => ?_⟩
  · exact hCrowned.groups h hUnknown (hCrowned.winners_eq ▸ hFree)
  · by_cases hg : g' = g
    · exact hg ▸ hGrounded
    · rw [Table.lookup_cons_of_ne _ _ hg, hCrowned.winners_eq] at hKnown
      exact h.grounded g' winner' hKnown
  · by_cases hg : g' = g
    · subst hg
      obtain rfl : winner = winner' := by simpa using hKnown
      exact Or.inr ⟨hUnstored, hGrows.winner? g' _ hWinner⟩
    · rw [Table.lookup_cons_of_ne _ _ hg, hCrowned.winners_eq] at hKnown
      exact (h.settled g' winner' hKnown).imp_right fun hRight =>
        ⟨hRight.1, hGrows.winner? g' _ hRight.2⟩
  · by_cases hg : g' = g
    · subst hg
      refine hTargeted m ?_
      simpa [outlook] using hKnown
    · rw [hOther g' hg] at hKnown
      exact h.targeted g' m hKnown
  · exact hGrows.isOpen? f _ (h.memo f hFeature hRollout decided (hCrowned.rollouts_eq ▸ hKnown))

end Inquiry

end FlagDecision
