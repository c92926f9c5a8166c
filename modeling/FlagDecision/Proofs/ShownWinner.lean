import FlagDecision.Proofs.FaithfulRules
import FlagDecision.Proofs.Records

/-! What the next evaluation makes of a winner that was left. An evaluation that began
with an empty storage leaves the winners that it found and the record of its feature.
The next one finds the same rollouts open: it recalls a winner that was left, and the
record of the feature changes no contest that was left without winner in favour of a
rollout. So an experiment that won its group is not kept out by its rollouts. -/
namespace FlagDecision

open Inquiry Storage StoredDecision

namespace Outlook

variable {o o' : Outlook} {g : Nat} {group : Group} {features : List Feature}
  {done done' found found' : Contest}

theorem stored_of_contest (h : o.contest? group done features = some found) :
    done.stored <+: found.stored := by
  induction features generalizing done with
  | nil =>
      obtain rfl : done = found := Option.some.inj h
      exact List.prefix_refl _
  | cons f rest ih =>
      rw [contest?] at h
      split at h
      · exact ih h
      · obtain ⟨campaigns, -, hRest⟩ := Option.bind_eq_some_iff.mp h
        exact (List.prefix_append _ _).trans (ih hRest)

/-- Contests in which nobody is stored let in the same campaigns, where the outlooks agree about
what passes and who is admitted. -/
theorem eligible_of_contest (hSame : o.Comparable o')
    (hUnstored : ∀ f ∈ features, ∀ c, o.isStored f c = false)
    (hAdmits : ∀ f ∈ features, ∀ c ∈ f.linked, o.admits f c = o'.admits f c)
    (hPasses : ∀ f ∈ features, (∃ e ∈ f.linked, group.contains e ∧ e.kind ≠ .rollout) →
      ∀ c ∈ f.rollouts, Agrees (o.passes? f c) (o'.passes? f c))
    (hFound : o.contest? group done features = some found)
    (hFound' : o'.contest? group done' features = some found') (hNobody : found'.stored = [])
    (hDone : done.eligible = done'.eligible) : found.eligible = found'.eligible := by
  induction features generalizing done done' with
  | nil =>
      obtain rfl : done = found := Option.some.inj hFound
      obtain rfl : done' = found' := Option.some.inj hFound'
      exact hDone
  | cons f rest ih =>
      have hLater : ∀ {done done' : Contest}, o.contest? group done rest = some found →
          o'.contest? group done' rest = some found' → done.eligible = done'.eligible →
          found.eligible = found'.eligible :=
        ih (fun f hf => hUnstored f (List.mem_cons_of_mem _ hf))
          (fun f hf => hAdmits f (List.mem_cons_of_mem _ hf))
          fun f hf => hPasses f (List.mem_cons_of_mem _ hf)
      rw [contest?] at hFound hFound'
      split at hFound
      · rename_i hEmpty
        rw [if_pos hEmpty] at hFound'
        exact hLater hFound hFound' hDone
      · rename_i hListed
        rw [if_neg hListed] at hFound'
        obtain ⟨campaigns, hCampaigns, hRest⟩ := Option.bind_eq_some_iff.mp hFound
        obtain ⟨campaigns', hCampaigns', hRest'⟩ := Option.bind_eq_some_iff.mp hFound'
        obtain rfl : campaigns = campaigns' := by
          refine competitors_lifts agrees_lifts hSame (fun hSome => ?_) campaigns campaigns'
            hCampaigns hCampaigns'
          obtain ⟨e, he, hKind⟩ := hSome
          obtain ⟨hLinked, hContains⟩ := List.mem_filter.mp he
          exact hPasses f List.mem_cons_self ⟨e, hLinked, hContains, hKind⟩
        refine hLater hRest hRest' ?_
        have hNone : done'.stored ++ campaigns.filter (o'.isStored f) = [] :=
          List.prefix_nil.mp (hNobody ▸ stored_of_contest hRest')
        have hUnstored' : ∀ c ∈ campaigns, ¬o'.isStored f c = true :=
          List.filter_eq_nil_iff.mp (List.append_eq_nil_iff.mp hNone).2
        simp only [enter, hDone, List.append_cancel_left_eq]
        refine List.filter_congr fun c hc => ?_
        rw [hUnstored f List.mem_cons_self, eq_false_of_ne_true (hUnstored' c hc),
          hAdmits f List.mem_cons_self c (competes_of_competitors hCampaigns hc).linked]

end Outlook

namespace Settings

/-- No own segment asks whether a decision is stored for the feature of a key. -/
def Ignores (s : Settings) (featureKey : String) : Prop :=
  ∀ f ∈ s.features, ∀ c ∈ f.linked, ∀ id ∈ c.featureIds, ∀ other,
    s.featureById? id = some other → other.key ≠ featureKey

/-- Where keys name campaigns, linked rollouts of one key are one member. -/
theorem Ready.member_eq_of_key {s : Settings} {f f' : Feature} {c c' : Campaign} (h : s.Ready)
    (hKeys : (s.campaigns.map (·.key)).Nodup) (hFeature : f ∈ s.features)
    (hRollout : c ∈ f.rollouts) (hFeature' : f' ∈ s.features) (hRollout' : c' ∈ f'.rollouts)
    (hKey : c.key = c'.key) : c.groupMember = c'.groupMember := by
  obtain ⟨hLinked, hKind⟩ := List.mem_filter.mp hRollout
  obtain ⟨hLinked', hKind'⟩ := List.mem_filter.mp hRollout'
  obtain ⟨origin, -, hMem, hNarrow⟩ := h.origin hFeature hLinked
  obtain ⟨origin', -, hMem', hNarrow'⟩ := h.origin hFeature' hLinked'
  have hOrigin : origin = origin' := List.inj_on_of_nodup_map hKeys hMem hMem'
    (hNarrow.key_eq.symm.trans (hKey.trans hNarrow'.key_eq))
  have hId : c.id = c'.id := by rw [hNarrow.id_eq, hOrigin, hNarrow'.id_eq]
  simp [Campaign.groupMember, eq_of_beq hKind, eq_of_beq hKind', hId]

end Settings

namespace Inquiry

variable {q : Inquiry} {f₀ f : Feature} {v : Verdict} {p p' : Progress} {c : Campaign} {g now : Nat}
  {before after : Option Storage}

/-- What deciding a feature leaves of a storage that held nothing for the user: the winners that
were found, and the record of the feature. -/
structure Leaves (q : Inquiry) (f₀ : Feature) (v : Verdict) (p : Progress)
    (before after : Option Storage) : Prop where
  empty : ∀ key, q.storedDecision? before key = none
  faithful : q.Faithful before p
  feature : f₀ ∈ q.settings.features
  fresh : v.stage.stored? = none
  rollout : ∀ c w, v.stage = .passed (c, w) →
    c ∈ f₀.rollouts ∧ w ∈ c.variations ∧ q.Wins [] p c ∧ q.targets before f₀ c = true
  winners : ∀ g, q.storedWinner? after g = (p.winners.lookup g).join
  decisions : ∀ f ∈ q.settings.features, ∀ d, q.storedDecision? after f.key = some d →
    f = f₀ ∧ d = v.decision f₀ q.user.id

namespace Leaves

variable (h : q.Leaves f₀ v p before after)

include h

theorem unstored (g : Nat) : q.storedWinner? before g = none := by
  rw [storedWinner?, h.empty]
  rfl

/-- Targeting does not notice the record of the feature. -/
theorem targets_eq (hIgnores : q.settings.Ignores f₀.key) (hFeature : f ∈ q.settings.features)
    (hLinked : c ∈ f.linked) : q.targets before f c = q.targets after f c := by
  refine targets_same rfl rfl fun id hId other hOther => ?_
  rw [h.empty]
  cases hDecision : q.storedDecision? after other.key with
  | none => rfl
  | some d =>
      obtain ⟨rfl, -⟩ := h.decisions other (List.mem_of_find?_eq_some hOther) d hDecision
      exact absurd rfl (hIgnores f hFeature c hLinked id hId other hOther)

/-- A rollout that is stored then is the member that was passed. -/
theorem passed_of_isStored (hReady : q.settings.Ready)
    (hKeys : (q.settings.campaigns.map (·.key)).Nodup) (hFeature : f ∈ q.settings.features)
    (hRollout : c ∈ f.rollouts)
    (hStored : (q.storedDecision? after f.key).any (isStoredFor · c) = true) :
    ∃ c₀ w, v.stage = .passed (c₀, w) ∧ c₀.groupMember = c.groupMember := by
  obtain ⟨d, hDecision, hFor⟩ := (Option.any_eq_true ..).mp hStored
  obtain ⟨rfl, rfl⟩ := h.decisions f hFeature d hDecision
  have hKind : c.kind = .rollout := eq_of_beq (List.mem_filter.mp hRollout).2
  have hKey : v.stage.choice?.map (·.1.key) = some c.key := by
    simp only [isStoredFor, hKind, beq_self_eq_true, if_true, Bool.and_eq_true] at hFor
    exact eq_of_beq hFor.1
  have hFresh := h.fresh
  cases hStage : v.stage with
  | passed choice =>
      obtain ⟨c₀, w⟩ := choice
      refine ⟨c₀, w, rfl, hReady.member_eq_of_key hKeys h.feature (h.rollout c₀ w hStage).1
        h.feature hRollout ?_⟩
      simpa [hStage, RolloutStage.choice?] using hKey
  | stored => simp [hStage, RolloutStage.stored?] at hFresh
  | none | closed => simp [hStage, RolloutStage.choice?] at hKey

theorem storedTargeted (hTidy : q.settings.Tidy)
    (hKeys : (q.settings.campaigns.map (·.key)).Nodup) (hIgnores : q.settings.Ignores f₀.key) :
    q.StoredTargeted after := by
  intro f hFeature c hRollout hStored
  obtain ⟨c₀, w, hStage, hMember⟩ :=
    h.passed_of_isStored hTidy.ready hKeys hFeature hRollout hStored
  obtain ⟨hRollout₀, hVariation, -, hTargets⟩ := h.rollout c₀ w hStage
  rw [← h.targets_eq hIgnores hFeature (List.mem_of_mem_filter hRollout)]
  exact targets_alike hTidy h.feature (List.mem_of_mem_filter hRollout₀) hFeature hRollout hMember
    (List.ne_nil_of_mem hVariation) fun _ => hTargets

theorem next_progress (hIgnores : q.settings.Ignores f₀.key)
    (hApart : ∀ f ∈ q.settings.features, ∀ g, f.key ≠ groupFeatureKey g) {m : Memory}
    (hTruthful : m.cache.Truthful q.lists) (hStorage : m.storage = after) :
    { q with now }.Faithful after m.progress := by
  subst hStorage
  refine faithful_progress hTruthful (Or.inr hApart) fun g winner hStored f hFeature c hRollout
    hMember => ?_
  have hKnown : p.winners.lookup g = some (some winner) :=
    Option.join_eq_some_iff.mp ((h.winners g).symm.trans hStored)
  refine (h.targets_eq hIgnores hFeature (List.mem_of_mem_filter hRollout)).symm.trans ?_
  exact h.faithful.targeted g winner (by simp [outlook, hKnown]) f hFeature c hRollout hMember

theorem winner_of_isStored (hReady : q.settings.Ready)
    (hKeys : (q.settings.campaigns.map (·.key)).Nodup) (hFeature : f ∈ q.settings.features)
    (hRollout : c ∈ f.rollouts)
    (hStored : (q.storedDecision? after f.key).any (isStoredFor · c) = true)
    (hOf : q.settings.groupOf? c.groupMember = some g) :
    p.winners.lookup g = some (some c.groupMember) := by
  obtain ⟨c₀, w, hStage, hMember⟩ := h.passed_of_isStored hReady hKeys hFeature hRollout hStored
  obtain ⟨-, -, hWins, -⟩ := h.rollout c₀ w hStage
  rw [← hMember]
  exact hWins g (by rw [hMember, hOf]) List.not_mem_nil

/-- A champion where there was none is stored, if both evaluations agree about the rollouts that
the contest asks for. -/
theorem isStored_of_new_champion (hIgnores : q.settings.Ignores f₀.key)
    (hAsked : ∀ k, q.settings.Asks g k → ∀ f ∈ q.settings.features, ∀ c ∈ f.rollouts,
      q.settings.groupOf? c.groupMember = some k →
        Agrees (((q.outlook before p).winners k).map (· == some c.groupMember))
          ((({ q with now }.outlook after p').winners k).map (· == some c.groupMember)))
    (hNobody : (q.outlook before p).champion? g = some none)
    (hChampion : ({ q with now }.outlook after p').champion? g = some (some c)) :
    ∃ f ∈ q.settings.features, c ∈ f.linked ∧
      (q.storedDecision? after f.key).any (isStoredFor · c) = true := by
  have hSame : (q.outlook before p).Comparable ({ q with now }.outlook after p') := ⟨rfl, rfl⟩
  obtain ⟨group, hGroup⟩ := Outlook.group_of_champion hChampion
  obtain ⟨found, hFound, hPicked⟩ :=
    Outlook.contest_of_champion (o := q.outlook before p) hGroup hNobody
  obtain ⟨found', hFound', hPicked'⟩ := Outlook.contest_of_champion hGroup hChampion
  obtain ⟨f', hFeature', hCompetes, hIn⟩ :=
    Outlook.competes_of_candidate hFound' (Group.winner?_mem hPicked')
  split at hIn
  · -- Nobody is stored, so the same campaigns were let in, and the same campaign won.
    rename_i hEmpty
    have hUnstored : ∀ e ∈ q.settings.features, ∀ c, (q.outlook before p).isStored e c = false :=
      fun e _ c => congrArg (Option.any (isStoredFor · c)) (h.empty e.key)
    have hAdmits : ∀ e ∈ q.settings.features, ∀ c ∈ e.linked,
        (q.outlook before p).admits e c = ({ q with now }.outlook after p').admits e c :=
      fun e hFeature c hLinked =>
        congrArg (· && c.isMember q.user.id) (h.targets_eq hIgnores hFeature hLinked)
    have hPasses : ∀ e ∈ q.settings.features,
        (∃ x ∈ e.linked, group.contains x ∧ x.kind ≠ .rollout) → ∀ c ∈ e.rollouts,
        Agrees ((q.outlook before p).passes? e c)
          (({ q with now }.outlook after p').passes? e c) := by
      rintro e hFeature ⟨x, hLinked, hContains, hKind⟩ c hRollout
      refine Outlook.passes_lifts agrees_lifts hSame
        (h.targets_eq hIgnores hFeature (List.mem_of_mem_filter hRollout)) fun k hOf => ?_
      exact hAsked k
        ⟨group, e, x, c, hGroup, hFeature, hLinked, hKind, hContains, hRollout, hOf⟩ e hFeature c
        hRollout hOf
    have hEligible := Outlook.eligible_of_contest hSame hUnstored hAdmits hPasses hFound hFound'
      (List.isEmpty_iff.mp hEmpty) rfl
    have hStored : found.stored = [] := List.eq_nil_iff_forall_not_mem.mpr fun c hc => by
      obtain ⟨e, hFeature, -, hIs⟩ :=
        ((Outlook.competes_of_contest hFound).1 c hc).resolve_left (by simp)
      simp [hUnstored e hFeature c] at hIs
    have hCandidates : found.candidates = found'.candidates := by
      simp [Contest.candidates, hStored, List.isEmpty_iff.mp hEmpty, hEligible]
    rw [hCandidates] at hPicked
    exact absurd (hPicked.symm.trans hPicked') (by simp)
  · exact ⟨f', hFeature', hCompetes.linked, hIn⟩

/-- Both evaluations agree whether a rollout is the winner of its group. -/
theorem winners_agree (hTidy : q.settings.Tidy)
    (hKeys : (q.settings.campaigns.map (·.key)).Nodup) (hIgnores : q.settings.Ignores f₀.key)
    (hNext : { q with now }.Faithful after p') (hGrounded : q.settings.Grounded g)
    (hFeature : f ∈ q.settings.features) (hRollout : c ∈ f.rollouts)
    (hOf : q.settings.groupOf? c.groupMember = some g) :
    Agrees (((q.outlook before p).winners g).map (· == some c.groupMember))
      ((({ q with now }.outlook after p').winners g).map (· == some c.groupMember)) := by
  induction hGrounded generalizing f c with
  | intro g _ ih =>
      intro answer answer' hAnswer hAnswer'
      obtain ⟨winner, hWinner, rfl⟩ := Option.map_eq_some_iff.mp hAnswer
      obtain ⟨winner', hWinner', rfl⟩ := Option.map_eq_some_iff.mp hAnswer'
      have hKnown : p.winners.lookup g = some winner := by
        simpa [outlook, h.unstored] using hWinner
      have hLeft : { q with now }.storedWinner? after g = winner := by
        refine (h.winners g).trans ?_
        rw [hKnown]
        rfl
      cases winner with
      | some m =>
          -- The winner that was left is recalled.
          obtain rfl : some m = winner' := by
            simpa [hNext.recalls hLeft] using hWinner'
          rfl
      | none =>
          -- Nobody won the group then, and no rollout wins it now: it would be stored, so that it
          -- was passed then and had won.
          have hFollows := h.faithful.follows (h.unstored g) hWinner
          have hFollows' := hNext.follows hLeft hWinner'
          refine (beq_eq_false_iff_ne.mpr ?_).symm
          rintro rfl
          obtain ⟨champion, hChampion, hNobody⟩ := Option.map_eq_some_iff.mp hFollows
          obtain rfl : champion = none := by simpa using hNobody
          obtain ⟨champion', hChampion', hChosen⟩ := Option.map_eq_some_iff.mp hFollows'
          obtain ⟨d, rfl, hMember⟩ := Option.map_eq_some_iff.mp hChosen
          obtain ⟨f', hFeature', hLinked', hStored⟩ := h.isStored_of_new_champion hIgnores
            (fun k hAsks f hFeature c hRollout hOf => ih k hAsks hFeature hRollout hOf)
            hChampion hChampion'
          obtain ⟨hLinked, hKind⟩ := List.mem_filter.mp hRollout
          obtain ⟨origin, -, hNarrow, hNarrow'⟩ := hTidy.ready.same_origin hFeature hLinked
            hFeature' hLinked' (by simpa using congrArg GroupMember.campaignId hMember.symm)
          have hRollout' : d ∈ f'.rollouts := List.mem_filter.mpr ⟨hLinked', by
            simpa [hNarrow'.kind_eq, hNarrow.kind_eq] using hKind⟩
          have hWon := h.winner_of_isStored hTidy.ready hKeys hFeature' hRollout' hStored
            (by rw [hMember, hOf])
          simp [hKnown] at hWon

theorem isOpen_agrees (hTidy : q.settings.Tidy)
    (hKeys : (q.settings.campaigns.map (·.key)).Nodup) (hIgnores : q.settings.Ignores f₀.key)
    (hNext : { q with now }.Faithful after p') (hFeature : f ∈ q.settings.features)
    (hGrounded : ∀ c ∈ f.rollouts, ∀ g, q.settings.groupOf? c.groupMember = some g →
      q.settings.Grounded g) :
    Agrees ((q.outlook before p).isOpen? f) (({ q with now }.outlook after p').isOpen? f) := by
  have hSame : (q.outlook before p).Comparable ({ q with now }.outlook after p') := ⟨rfl, rfl⟩
  refine Outlook.isOpen_lifts agrees_lifts hSame fun c hRollout => ?_
  refine Outlook.passes_lifts agrees_lifts hSame
    (h.targets_eq hIgnores hFeature (List.mem_of_mem_filter hRollout)) fun g hOf => ?_
  exact h.winners_agree hTidy hKeys hIgnores hNext (hGrounded c hRollout g hOf) hFeature hRollout
    hOf

/-- An experiment that is known as a winner belongs to an open feature. -/
theorem open_of_winner {m : GroupMember} (hKnown : p.winners.lookup g = some (some m))
    (hKind : ∀ f ∈ q.settings.features, ∀ c ∈ f.linked, c.groupMember = m → c.kind ≠ .rollout) :
    ∃ f ∈ q.settings.features, (∃ c ∈ f.linked, c.groupMember = m) ∧
      (q.outlook before p).isOpen? f = some true ∧
      ∀ c ∈ f.rollouts, ∀ k, q.settings.groupOf? c.groupMember = some k →
        q.settings.Grounded k := by
  have hWinner : (q.outlook before p).winners g = some (some m) := by simp [outlook, hKnown]
  have hFollows := h.faithful.follows (h.unstored g) hWinner
  obtain ⟨champion, hChampion, hChosen⟩ := Option.map_eq_some_iff.mp hFollows
  obtain ⟨c, rfl, hMember⟩ := Option.map_eq_some_iff.mp hChosen
  obtain ⟨group, hGroup⟩ := Outlook.group_of_champion hChampion
  obtain ⟨found, hFound, hPicked⟩ := Outlook.contest_of_champion hGroup hChampion
  obtain ⟨f, hFeature, hCompetes, -⟩ :=
    Outlook.competes_of_candidate hFound (Group.winner?_mem hPicked)
  have hExperiment := hKind f hFeature c hCompetes.linked hMember
  refine ⟨f, hFeature, ⟨c, hCompetes.linked, hMember⟩, hCompetes.isOpen hExperiment,
    fun d hRollout k hOf => ?_⟩
  exact (h.faithful.grounded g _ hKnown).asks ⟨group, f, c, d, hGroup, hFeature, hCompetes.linked,
    hExperiment, hCompetes.contains, hRollout, hOf⟩

end Leaves

end Inquiry

namespace Settings

/-- Two features have one key, so that one of them is never evaluated. -/
def hidden : Settings :=
  { accountId := 1
    campaigns := [.small .ab 1, .closed 2, .small .ab 3]
    features := [.small 1 "left" [1], .small 2 "twice" [2], .small 3 "twice" [3]]
    groups := [(7, .small [1, 3] [3])]
    campaignGroups := [(⟨1, none⟩, 7), (⟨3, none⟩, 7)] : Settings }.link

/-- Two rollouts have one key, so that one that lets nobody in counts as stored with the other. -/
def confused : Settings :=
  { accountId := 1
    campaigns := [
      { Campaign.small .rollout 1 with key := "rollout" },
      { Campaign.small .rollout 2 with key := "rollout", variations := [{ id := 1 }] },
      .small .rollout 3, .small .ab 4, .small .ab 5]
    features := [.small 1 "left" [1, 2, 4], .small 2 "right" [2, 3, 5]]
    groups := [(7, .small [2] []), (8, .small [4, 5] [5])]
    campaignGroups := [(⟨2, none⟩, 7), (⟨4, none⟩, 8), (⟨5, none⟩, 8)] : Settings }.link

/-- A feature has the key of a group, so that its record takes the place of the winner. -/
def reserved : Settings :=
  { accountId := 1
    campaigns := [.small .ab 1, .small .ab 2, .small .rollout 3, .small .ab 4]
    features := [.small 1 (groupFeatureKey 7) [1, 2], .small 2 "right" [3, 4]]
    groups := [(7, .small [3] []), (8, .small [1, 4] [4])]
    campaignGroups := [(⟨3, none⟩, 7), (⟨1, none⟩, 8), (⟨4, none⟩, 8)] : Settings }.link

/-- A rollout targets users for whom the other feature is not stored. -/
def asking : Settings :=
  { accountId := 1
    campaigns := [.small .rollout 1, .small .ab 2,
      { Campaign.small .rollout 3 with
        variations := [{ id := 1, weight := 100, segments := some (.feature 1 false) }] },
      .small .ab 4]
    features := [.small 1 "left" [1, 2], .small 2 "right" [3, 4]]
    groups := [(7, .small [2, 4] [4])]
    campaignGroups := [(⟨2, none⟩, 7), (⟨4, none⟩, 7)] : Settings }.link

end Settings

theorem Verdict.closed_of_reason {v : Verdict} (h : v.detail.reason = .rolloutNotPassed) :
    v.stage = .closed := by
  obtain ⟨stage, _ | ⟨choice, _ | _⟩⟩ := v
  · cases stage <;> simp_all [detail, RolloutStage.detail, storedDetail]
  all_goals simp [detail] at h

theorem Inquiry.Faithful.winners_left {q : Inquiry} {p : Progress} {before : Option Storage}
    (h : q.Faithful before p) (hEmpty : ∀ g, q.storedWinner? before g = none)
    (hStored : q.WinnersStored p) (g : Nat) :
    q.storedWinner? p.storage g = (p.winners.lookup g).join := by
  rcases hKnown : p.winners.lookup g with _ | _ | winner
  · exact (h.groups g (by simp [hKnown])).trans (hEmpty g)
  · exact (h.groups g (by simp [hKnown])).trans (hEmpty g)
  · exact hStored g winner hKnown

namespace Request

variable {r : Request} {m : Memory} {answer : Outcome × Memory} {g : Nat}

/-- A working storage that holds nothing yet, and a cache that holds what is true. -/
structure Begins (r : Request) (m : Memory) : Prop where
  works : Works m.storage
  empty : ∀ key, recordOf m.storage key = none
  truthful : m.cache.Truthful r.evaluator.lists

namespace Begins

variable (h : r.Begins m)

include h

theorem decision?_eq_none (featureKey userId : String) : m.decision? featureKey userId = none := by
  rw [Memory.decision?_eq, h.empty]
  rfl

theorem storedDecision_eq_none (featureKey : String) :
    r.inquiry.storedDecision? m.storage featureKey = none :=
  h.decision?_eq_none featureKey r.user.id

theorem storedWinner_eq_none (g : Nat) : r.inquiry.storedWinner? m.storage g = none := by
  rw [Inquiry.storedWinner?, h.storedDecision_eq_none]
  rfl

theorem faithful (hApart : ∀ f ∈ r.settings.features, ∀ g, f.key ≠ groupFeatureKey g) :
    r.inquiry.Faithful m.storage m.progress :=
  Inquiry.faithful_progress h.truthful (Or.inr hApart) fun g winner hStored => by
    simp [h.storedWinner_eq_none] at hStored

theorem storedTargeted : r.inquiry.StoredTargeted m.storage := fun _ _ _ _ hStored => by
  simp [h.storedDecision_eq_none] at hStored

end Begins

/-- An answer from an empty storage touches nothing, or leaves what its verdict says. -/
theorem Answered.leaves (h : r.Answered m answer) (hBegins : r.Begins m) (hTidy : r.settings.Tidy)
    (hApart : ∀ f ∈ r.settings.features, ∀ g, f.key ≠ groupFeatureKey g) (hGrounded : r.Grounded) :
    answer.2 = m ∨ answer.2.cache.Truthful r.evaluator.lists ∧ ∃ f v p,
      f.key = r.featureKey ∧ r.inquiry.Leaves f v p m.storage answer.2.storage := by
  cases h with
  | refused | stored => exact Or.inl rfl
  | @decided f v p' _ known _ decided =>
      have hFeature := List.mem_of_find?_eq_some known
      have hNoDecision : (m.decision? r.featureKey r.user.id).bind
          (Evaluator.storedRollout? r.settings) = none := by
        rw [hBegins.decision?_eq_none]
        rfl
      obtain ⟨p₁, hMoves, hFaithful, hWins, hTargets, hAfter⟩ := decided.faithful hTidy
        hBegins.storedTargeted (hBegins.faithful hApart) hFeature (hGrounded.reachable known) rfl
        hNoDecision
      have hDesk : p'.desk = p₁.desk := by
        rw [hAfter]
        split
        · exact Inquiry.recorded_desk _ _
        · rfl
      -- The record that is written at last is that of the feature.
      have hOther : ∀ key, key ≠ f.key →
          r.inquiry.storedDecision? p'.storage key = r.inquiry.storedDecision? p₁.storage key := by
        intro key hKey
        rw [hAfter]
        exact Inquiry.storedDecision_recorded_if_of_ne rfl hKey _
      have hWinners : r.inquiry.WinnersStored p₁ := hMoves.winnersStored hTidy.ready hBegins.works
        (by simp [Memory.progress, Inquiry.WinnersStored])
      refine Or.inr ⟨hDesk ▸ hFaithful.desk, f, v, p₁, key_eq known, hBegins.storedDecision_eq_none,
        hFaithful, hFeature, decided.stored.trans hNoDecision, fun c w hStage => ?_, fun g => ?_,
        fun f' hFeature' d hDecision => ?_⟩
      · obtain ⟨hRollout, hVariation⟩ := decided.rollout c w hStage
        refine ⟨hRollout, hVariation, hWins (c, w) ?_, hTargets c w hStage⟩
        simp [Verdict.fresh, hStage, RolloutStage.passed?]
      · refine Eq.trans ?_ (hFaithful.winners_left hBegins.storedWinner_eq_none hWinners g)
        exact congrArg (Option.bind · winner?) (hOther _ (hApart f hFeature g).symm)
      · have hKey : f'.key = f.key := by
          by_contra hKey
          have hNone := (hOther f'.key hKey).trans (hFaithful.decisions f' hFeature')
          simp [hNone, hBegins.storedDecision_eq_none] at hDecision
        obtain rfl : f' = f := List.inj_on_of_nodup_map hTidy.featureKeys hFeature' hFeature hKey
        exact ⟨rfl, decided.decision_left hTidy.ready hFeature hBegins.works hAfter
          ((hFaithful.decisions f' hFeature').trans (hBegins.storedDecision_eq_none _)) hDecision⟩

/-- What an evaluation left does not close rollouts that were open. -/
theorem Answered.not_closed {f₀ f : Feature} {v : Verdict} {p : Progress} {before : Option Storage}
    {now : Nat} (h : { r with now, featureKey := f.key }.Answered m answer)
    (hLeaves : r.inquiry.Leaves f₀ v p before m.storage)
    (hTruthful : m.cache.Truthful r.evaluator.lists) (hTidy : r.settings.Tidy)
    (hKeys : (r.settings.campaigns.map (·.key)).Nodup)
    (hApart : ∀ f ∈ r.settings.features, ∀ g, f.key ≠ groupFeatureKey g)
    (hIgnores : r.settings.Ignores f₀.key) (hFeature : f ∈ r.settings.features)
    (hOpen : (r.inquiry.outlook before p).isOpen? f = some true)
    (hGrounded : ∀ c ∈ f.rollouts, ∀ g, r.settings.groupOf? c.groupMember = some g →
      r.settings.Grounded g) :
    answer.1.detail.reason ≠ .rolloutNotPassed := by
  cases h with
  | refused => simp
  | stored => simp [storedDetail]
  | @decided f' v' p' _ known _ decided =>
      obtain rfl : f' = f := List.inj_on_of_nodup_map hTidy.featureKeys
        (List.mem_of_find?_eq_some known) hFeature (key_eq known)
      intro hReason
      obtain ⟨p₁, hFaithful, hClosed⟩ := decided.closed_faithful hTidy
        (hLeaves.storedTargeted hTidy hKeys hIgnores)
        (hLeaves.next_progress hIgnores hApart hTruthful rfl) hFeature
        (fun c hRollout g hOf => ⟨hGrounded c hRollout g hOf, by simp [Settings.Above]⟩) rfl
        (Verdict.closed_of_reason hReason)
      have hAgrees := hLeaves.isOpen_agrees hTidy hKeys hIgnores hFaithful hFeature hGrounded
      exact absurd (hAgrees true false hOpen hClosed) (by simp)

/-- An experiment that an evaluation leaves as the winner of a group is not kept out by the rollouts
of its feature, when that is evaluated next. Keys name features and campaigns, a rollout has one
variation at most, the groups of the feature that is evaluated are grounded, and no own segment asks
about that feature. -/
theorem winner_not_kept_out {winner : GroupMember} {origin : Campaign} (hBegins : r.Begins m)
    (hTidy : r.settings.Tidy) (hKeys : (r.settings.campaigns.map (·.key)).Nodup)
    (hApart : ∀ f ∈ r.settings.features, ∀ g, f.key ≠ groupFeatureKey g)
    (hIgnores : r.settings.Ignores r.featureKey) (hGrounded : r.Grounded)
    (hWinner : (r.answer m).2.groupWinner? g r.user.id = some winner)
    (hOrigin : r.settings.campaign? winner.campaignId = some origin)
    (hKind : origin.kind ≠ .rollout) :
    ∃ f ∈ r.settings.features, (∃ c ∈ f.linked, c.groupMember = winner) ∧ ∀ now,
      ({ r with now, featureKey := f.key }.answer (r.answer m).2).1.detail.reason ≠
        .rolloutNotPassed := by
  rcases (r.answered m).leaves hBegins hTidy hApart hGrounded with hSame |
    ⟨hTruthful, f₀, v, p, hKey, hLeaves⟩
  · rw [hSame, Memory.groupWinner?, hBegins.decision?_eq_none] at hWinner
    simp at hWinner
  · have hKnown : p.winners.lookup g = some (some winner) :=
      Option.join_eq_some_iff.mp ((hLeaves.winners g).symm.trans hWinner)
    have hExperiment : ∀ f ∈ r.settings.features, ∀ c ∈ f.linked, c.groupMember = winner →
        c.kind ≠ .rollout := by
      rintro f hFeature c hLinked rfl
      obtain ⟨origin', hFind, -, hNarrow⟩ := hTidy.ready.origin hFeature hLinked
      rw [Campaign.groupMember_campaignId, hFind] at hOrigin
      obtain rfl := Option.some.inj hOrigin
      exact hNarrow.kind_eq ▸ hKind
    obtain ⟨f, hFeature, hMember, hOpen, hGroups⟩ := hLeaves.open_of_winner hKnown hExperiment
    exact ⟨f, hFeature, hMember, fun now => (answered _ _).not_closed hLeaves hTruthful hTidy hKeys
      hApart (hKey ▸ hIgnores) hFeature hOpen hGroups⟩

/-- The feature that loses leaves the rival as the winner, which is not kept out then. -/
theorem rival_not_kept_out :
    ((small .rivals "left").answer ⟨some {}, ⟨0, 0, []⟩⟩).2.groupWinner? 7 "u" = some ⟨2, none⟩ ∧
      ∃ f ∈ Settings.rivals.features, (∃ c ∈ f.linked, c.groupMember = ⟨2, none⟩) ∧ ∀ now,
        ({ small .rivals f.key with now }.answer
          ((small .rivals "left").answer ⟨some {}, ⟨0, 0, []⟩⟩).2).1.detail.reason ≠
            .rolloutNotPassed := by
  have hWinner : ((small .rivals "left").answer ⟨some {}, ⟨0, 0, []⟩⟩).2.groupWinner? 7 "u" =
      some ⟨2, none⟩ := by decide +kernel
  have hPlain : ∀ f ∈ Settings.rivals.features, IsPlainKey f.key := by decide +kernel
  have hSilent : ∀ f ∈ Settings.rivals.features, ∀ c ∈ f.linked, c.featureIds = [] := by
    decide +kernel
  have hOrigin : Settings.rivals.campaign? 2 = some (Campaign.small .ab 2).withRanges := rfl
  refine ⟨hWinner, winner_not_kept_out (r := small .rivals "left")
    ⟨⟨_, rfl, rfl, rfl⟩, fun _ => rfl, Inquiry.empty_truthful _⟩ Settings.rivals_tidy
    (by decide +kernel) (fun f hFeature g => (hPlain f hFeature).ne_groupFeatureKey g) ?_
    (fun _ _ _ _ g _ => Settings.rivals_grounded g) hWinner hOrigin (by decide)⟩
  intro f hFeature c hLinked id hId
  simp [hSilent f hFeature c hLinked] at hId

/-- A request leaves an experiment as the winner of a group that no feature shows next: all that
link it are kept out by their rollouts. -/
def KeepsOut (r : Request) (g : Nat) (winner : GroupMember) : Prop :=
  (r.answer ⟨some {}, ⟨0, 0, []⟩⟩).2.groupWinner? g r.user.id = some winner ∧
    (∃ f ∈ r.settings.features, ∃ c ∈ f.linked, c.groupMember = winner) ∧
    ∀ f ∈ r.settings.features, ∀ c ∈ f.linked, c.groupMember = winner → c.kind ≠ .rollout ∧
      ({ r with featureKey := f.key }.answer
        (r.answer ⟨some {}, ⟨0, 0, []⟩⟩).2).1.detail.reason = .rolloutNotPassed

instance (r : Request) (g : Nat) (winner : GroupMember) : Decidable (KeepsOut r g winner) :=
  inferInstanceAs (Decidable (_ ∧ _))

/-- Without ground, be it between two groups or within one, with narrowed rollouts, with a repeated
key of features or of campaigns, with a feature under the key of a group, or where a rollout asks
about the feature that was evaluated, a winner may be kept out. -/
theorem keeps_winner_out :
    KeepsOut (small .crossed "middle") 8 ⟨5, none⟩ ∧
      KeepsOut (small .inward "left") 7 ⟨2, none⟩ ∧
      KeepsOut (small .narrowed "right") 9 ⟨4, none⟩ ∧
      KeepsOut (small .hidden "left") 7 ⟨3, none⟩ ∧
      KeepsOut (small .confused "left") 8 ⟨5, none⟩ ∧
      KeepsOut (small .reserved "_vwo_meta_meg_7") 8 ⟨4, none⟩ ∧
      KeepsOut (small .asking "left") 7 ⟨4, none⟩ := by
  decide +kernel

end Request

end FlagDecision
