import FlagDecision.Proofs.Decided
import FlagDecision.Proofs.Targeting

/-! Two searches side by side. The rules look at few things only: at what is known in
this evaluation, at stored winners of groups that are not known yet, at whether a
stored decision names a campaign, and at answers to segments. Where two searches share
those, each function of the rules gives both the same answer and they share them after
it, and so requests are answered alike. Of some groups they may share no more than
whether their campaigns pass. What is shared, and why it stays so, is left to the
relation between the two. -/
namespace FlagDecision

/-- Two steps give the same answer, and end as demanded of it. -/
def Step.Together {α : Type} (x x' : Step α) (p p' : Progress)
    (post : α → Progress → Progress → Prop) : Prop :=
  (x'.run p').1 = (x.run p).1 ∧ post (x.run p).1 (x.run p).2 (x'.run p').2

namespace Step.Together

variable {α β : Type} {x x' : Step α} {p p' : Progress} {post : α → Progress → Progress → Prop}

theorem pure {a : α} (h : post a p p') : Together (Pure.pure a) (Pure.pure a) p p' post := ⟨rfl, h⟩

theorem bind {f f' : α → Step β} {after : β → Progress → Progress → Prop}
    (hx : x.Together x' p p' post)
    (hf : ∀ a p₁ p₁', post a p₁ p₁' → (f a).Together (f' a) p₁ p₁' after) :
    Together (x >>= f) (x' >>= f') p p' after := by
  obtain ⟨hAnswer, hPost⟩ := hx
  have hRun : (x' >>= f').run p' = (f' (x.run p).1).run (x'.run p').2 := by
    rw [← hAnswer]
    rfl
  rw [Together, hRun]
  exact hf _ _ _ hPost

theorem pure_bind {a : α} {f f' : α → Step β} {after : β → Progress → Progress → Prop}
    (h : (f a).Together (f' a) p p' after) :
    Together (Pure.pure a >>= f) (Pure.pure a >>= f') p p' after := h

theorem get_bind {f f' : Progress → Step α} (h : (f p).Together (f' p') p p' post) :
    Together (get >>= f) (get >>= f') p p' post := h

theorem modify_bind {g g' : Progress → Progress} {f f' : PUnit → Step α}
    (h : (f ⟨⟩).Together (f' ⟨⟩) (g p) (g' p') post) :
    Together (modify g >>= f) (modify g' >>= f') p p' post := h

theorem imp {post' : α → Progress → Progress → Prop} (hx : x.Together x' p p' post)
    (h : ∀ a p₁ p₁', post a p₁ p₁' → post' a p₁ p₁') : x.Together x' p p' post' :=
  ⟨hx.1, h _ _ _ hx.2⟩

/-- Steps go together that ensure the same answer each on its own. -/
theorem of_ensures {after after' : α → Progress → Prop} (hx : x.Ensures p after)
    (hx' : x'.Ensures p' after')
    (h : ∀ a a' p₁ p₁', after a p₁ → after' a' p₁' → a' = a ∧ post a p₁ p₁') :
    x.Together x' p p' post :=
  h _ _ _ _ hx hx'

/-- What is the same step goes together with itself, from one progress. -/
theorem of_eq (h : x' = x) : x.Together x' p p fun _ p₁ p₁' => p₁' = p₁ := by
  subst h
  exact ⟨rfl, rfl⟩

/-- Choosing from a list by checks that go together goes together. -/
theorem filterM {R : Progress → Progress → Prop} {check check' : α → Step Bool} (as : List α)
    (hCheck : ∀ a ∈ as, ∀ p p', R p p' → (check a).Together (check' a) p p' fun _ => R)
    (hR : R p p') : Together (as.filterM check) (as.filterM check') p p' fun _ => R := by
  have hAux : ∀ (rest done : List α) (p p' : Progress), (∀ a ∈ rest, a ∈ as) → R p p' →
      Together (rest.filterAuxM check done) (rest.filterAuxM check' done) p p' fun _ => R := by
    intro rest
    induction rest with
    | nil => exact fun done p p' _ hR => pure hR
    | cons a rest ih =>
        intro done p p' hSub hR
        refine (hCheck a (hSub a List.mem_cons_self) p p' hR).bind fun answer p₁ p₁' hR₁ => ?_
        exact ih _ p₁ p₁' (fun b hb => hSub b (List.mem_cons_of_mem _ hb)) hR₁
  exact (hAux as [] p p' (fun _ ha => ha) hR).bind fun chosen p₁ p₁' hR₁ => pure hR₁

end Step.Together

namespace Progress

/-- The progress with a rollout decision remembered. -/
def remembering (p : Progress) (key : String) (decided : Option (Nat × Nat)) : Progress :=
  { p with rollouts := (key, decided) :: p.rollouts }

end Progress

namespace Settings

/-- Settings are the same but for what some groups are. -/
structure SameApart (s s' : Settings) (apart : Nat → Prop) : Prop where
  eq : s' = { s with groups := s'.groups }
  length : s'.groups.length = s.groups.length
  group? : ∀ g, ¬apart g → s'.group? g = s.group? g

namespace SameApart

variable {s s' : Settings} {apart : Nat → Prop}

theorem refl (s : Settings) : s.SameApart s apart := ⟨rfl, rfl, fun _ _ => rfl⟩

/-- What does not look at the groups is the same. -/
theorem congr {α : Type} (h : s.SameApart s' apart) (look : Settings → α)
    (hLook : ∀ groups, look { s with groups } = look s) : look s' = look s :=
  (congrArg look h.eq).trans (hLook _)

theorem features_eq (h : s.SameApart s' apart) : s'.features = s.features :=
  h.congr Settings.features fun _ => rfl

theorem accountId_eq (h : s.SameApart s' apart) : s'.accountId = s.accountId :=
  h.congr Settings.accountId fun _ => rfl

theorem feature?_eq (h : s.SameApart s' apart) : s'.feature? = s.feature? :=
  h.congr Settings.feature? fun _ => rfl

theorem campaign?_eq (h : s.SameApart s' apart) : s'.campaign? = s.campaign? :=
  h.congr Settings.campaign? fun _ => rfl

theorem groupOf?_eq (h : s.SameApart s' apart) : s'.groupOf? = s.groupOf? :=
  h.congr Settings.groupOf? fun _ => rfl

theorem storedExperiment?_eq (h : s.SameApart s' apart) :
    Evaluator.storedExperiment? s' = Evaluator.storedExperiment? s :=
  h.congr Evaluator.storedExperiment? fun _ => rfl

theorem storedRollout?_eq (h : s.SameApart s' apart) :
    Evaluator.storedRollout? s' = Evaluator.storedRollout? s :=
  h.congr Evaluator.storedRollout? fun _ => rfl

end SameApart

end Settings

namespace Inquiry

open Step

/-- What two searches share as long as a relation holds between how far they are, some groups apart:
the settings and the id of the user, what is known, what the storage says where it is asked, and the
answers to the own segments of campaigns. Of a group apart they share only whether its campaigns
pass. The relation is kept by all that the rules do. -/
structure MirrorApart (q q' : Inquiry) (apart : Nat → Prop) (R : Progress → Progress → Prop) :
    Prop where
  settings : q.settings.SameApart q'.settings apart
  userId : q'.user.id = q.user.id
  winners : ∀ {p p'}, R p p' → ∀ g, ¬apart g → p'.winners.lookup g = p.winners.lookup g
  rollouts : ∀ {p p'}, R p p' → p'.rollouts = p.rollouts
  storedWinner : ∀ {p p'}, R p p' → ∀ g, ¬apart g → p.winners.lookup g = none →
    q'.storedWinner? p'.storage g = q.storedWinner? p.storage g
  isStored : ∀ {p p'}, R p p' → ∀ f ∈ q.settings.features, ∀ c ∈ f.linked,
    (q'.storedDecision? p'.storage f.key).any (isStoredFor · c) =
      (q.storedDecision? p.storage f.key).any (isStoredFor · c)
  preSegmentation : ∀ {p p'}, R p p' → ∀ f ∈ q.settings.features, ∀ c ∈ f.linked,
    (q.preSegmentation f c).Together (q'.preSegmentation f c) p p' fun _ => R
  know : ∀ {p p'}, R p p' → ∀ g, ¬apart g → ∀ winner,
    R (p.knowing g winner) (p'.knowing g winner)
  remember : ∀ {p p'}, R p p' → ∀ key decided,
    R (p.remembering key decided) (p'.remembering key decided)
  crown : ∀ {p p'}, R p p' → ∀ g, ¬apart g → ∀ c,
    R ((recorded (q.winnerRecord g c) p).knowing g c.groupMember)
      ((recorded (q'.winnerRecord g c) p').knowing g c.groupMember)
  isWinner : ∀ {p p'}, R p p' → ∀ depth busy, (∀ g ∈ busy, ¬apart g) → ∀ g, apart g →
    ∀ f ∈ q.settings.features, ∀ c ∈ f.linked, q.settings.groupOf? c.groupMember = some g →
      (q.isWinner ⟨pure busy, q.resolveGroup depth busy⟩ f c g).Together
        (q'.isWinner ⟨pure busy, q'.resolveGroup depth busy⟩ f c g) p p' fun _ => R

/-- Two guards keep the same groups and find the same winners, some groups apart. Of those,
campaigns pass alike. -/
structure Guard.MirrorApart (guard guard' : Guard Step) (q q' : Inquiry) (apart : Nat → Prop)
    (R : Progress → Progress → Prop) : Prop where
  busy : ∃ busy, guard.busy = pure busy ∧ guard'.busy = pure busy
  resolve : ∀ g, ¬apart g → ∀ p p', R p p' → (guard.resolve g).Together (guard'.resolve g) p p'
    fun winner p₁ p₁' => R (p₁.knowing g winner) (p₁'.knowing g winner)
  isWinner : ∀ g, apart g → ∀ p p', R p p' → ∀ f ∈ q.settings.features, ∀ c ∈ f.linked,
    q.settings.groupOf? c.groupMember = some g →
      (q.isWinner guard f c g).Together (q'.isWinner guard' f c g) p p' fun _ => R

variable {q q' : Inquiry} {apart : Nat → Prop} {R : Progress → Progress → Prop}
  {p p' : Progress} {f : Feature} {c : Campaign} {guard guard' : Guard Step}

namespace MirrorApart

theorem isWinner_known (h : q.MirrorApart q' apart R)
    (hGuard : guard.MirrorApart guard' q q' apart R) (hR : R p p')
    (hFeature : f ∈ q.settings.features) (hLinked : c ∈ f.linked) {g : Nat} (hShared : ¬apart g) :
    (q.isWinner guard f c g).Together (q'.isWinner guard' f c g) p p' fun _ => R := by
  refine Together.get_bind ?_
  obtain ⟨busy, hBusy, hBusy'⟩ := hGuard.busy
  rw [h.winners hR g hShared, hBusy, hBusy']
  cases hKnown : p.winners.lookup g with
  | some winner => exact Together.pure hR
  | none =>
      rw [h.storedWinner hR g hShared hKnown]
      refine Together.pure_bind ?_
      split
      · exact h.preSegmentation hR f hFeature c hLinked
      · split
        · rename_i winner _
          exact Together.modify_bind (Together.pure (h.know hR g hShared (some winner)))
        · refine (h.preSegmentation hR f hFeature c hLinked).bind fun passed p₁ p₁' hR₁ => ?_
          split
          · refine (hGuard.resolve g hShared p₁ p₁' hR₁).bind fun winner p₂ p₂' hR₂ => ?_
            exact Together.modify_bind (Together.pure hR₂)
          · exact Together.pure hR₁

theorem passes (h : q.MirrorApart q' apart R) (hGuard : guard.MirrorApart guard' q q' apart R)
    (hR : R p p') (hFeature : f ∈ q.settings.features) (hLinked : c ∈ f.linked) :
    (q.passes guard f c).Together (q'.passes guard' f c) p p' fun _ => R := by
  rw [Inquiry.passes, Inquiry.passes, h.settings.groupOf?_eq]
  split
  · rename_i g hGroup
    by_cases hApart : apart g
    · exact hGuard.isWinner g hApart p p' hR f hFeature c hLinked hGroup
    · exact h.isWinner_known hGuard hR hFeature hLinked hApart
  · exact h.preSegmentation hR f hFeature c hLinked

theorem firstPassing (h : q.MirrorApart q' apart R)
    (hGuard : guard.MirrorApart guard' q q' apart R) (hR : R p p')
    (hFeature : f ∈ q.settings.features) {campaigns : List Campaign}
    (hLinked : ∀ c ∈ campaigns, c ∈ f.linked) :
    (q.firstPassing guard f campaigns).Together (q'.firstPassing guard' f campaigns) p p'
      fun _ => R := by
  induction campaigns generalizing p p' with
  | nil => exact Together.pure hR
  | cons c rest ih =>
      have hRest := fun d hd => hLinked d (List.mem_cons_of_mem _ hd)
      refine (h.passes hGuard hR hFeature (hLinked c List.mem_cons_self)).bind
        fun passed p₁ p₁' hR₁ => ?_
      split
      · exact Together.pure hR₁
      · exact ih hR₁ hRest

theorem remembered?_eq (h : q.MirrorApart q' apart R) (f : Feature)
    (campaignId variationId : Nat) :
    q'.remembered? f campaignId variationId = q.remembered? f campaignId variationId := by
  rw [remembered?, remembered?, h.settings.campaign?_eq]

theorem rolloutDecision (h : q.MirrorApart q' apart R)
    (hGuard : guard.MirrorApart guard' q q' apart R) (hR : R p p')
    (hFeature : f ∈ q.settings.features) :
    (q.rolloutDecision guard f).Together (q'.rolloutDecision guard' f) p p' fun _ => R := by
  refine Together.get_bind ?_
  rw [h.rollouts hR]
  split
  · simp only [h.remembered?_eq]
    exact Together.pure hR
  · refine (h.firstPassing hGuard hR hFeature fun c => List.mem_of_mem_filter).bind
      fun passing p₁ p₁' hR₁ => ?_
    rw [h.settings.accountId_eq, h.userId]
    exact Together.modify_bind (Together.pure (h.remember hR₁ f.key _))

theorem enter (h : q.MirrorApart q' apart R) (hR : R p p') (hFeature : f ∈ q.settings.features)
    {stored stored' : Option StoredDecision} {campaigns : List Campaign} {done : Contest}
    (hLinked : ∀ c ∈ campaigns, c ∈ f.linked)
    (hStored : ∀ c ∈ campaigns, stored'.any (isStoredFor · c) = stored.any (isStoredFor · c)) :
    (q.enter f stored done campaigns).Together (q'.enter f stored' done campaigns) p p'
      fun _ => R := by
  induction campaigns generalizing p p' done with
  | nil => exact Together.pure hR
  | cons c rest ih =>
      have hLater := fun d hd => hLinked d (List.mem_cons_of_mem _ hd)
      have hStoredLater := fun d hd => hStored d (List.mem_cons_of_mem _ hd)
      rw [Inquiry.enter, Inquiry.enter, hStored c List.mem_cons_self]
      split
      · exact ih hR hLater hStoredLater
      · refine (h.preSegmentation hR f hFeature c (hLinked c List.mem_cons_self)).bind
          fun passed p₁ p₁' hR₁ => ?_
        rw [h.userId]
        split
        · exact ih hR₁ hLater hStoredLater
        · exact ih hR₁ hLater hStoredLater

theorem isClosed (h : q.MirrorApart q' apart R) (hGuard : guard.MirrorApart guard' q q' apart R)
    (hR : R p p') (hFeature : f ∈ q.settings.features) :
    (q.isClosed guard f).Together (q'.isClosed guard' f) p p' fun _ => R := by
  rw [Inquiry.isClosed, Inquiry.isClosed]
  split
  · exact (h.rolloutDecision hGuard hR hFeature).bind fun _ _ _ hR₁ => Together.pure hR₁
  · exact Together.pure hR

theorem competitors (h : q.MirrorApart q' apart R)
    (hGuard : guard.MirrorApart guard' q q' apart R) (hR : R p p')
    (hFeature : f ∈ q.settings.features) (listed : List Campaign) :
    (q.competitors guard f listed).Together (q'.competitors guard' f listed) p p'
      fun found p₁ p₁' => R p₁ p₁' ∧ ∀ c ∈ found, c ∈ listed := by
  rw [Inquiry.competitors, Inquiry.competitors]
  split
  · exact Together.pure ⟨hR, fun _ => List.mem_of_mem_filter⟩
  · refine (h.isClosed hGuard hR hFeature).bind fun closed p₁ p₁' hR₁ => ?_
    split
    · exact Together.pure ⟨hR₁, fun _ => List.mem_of_mem_filter⟩
    · refine Together.pure ⟨hR₁, fun c hc => ?_⟩
      exact (List.mem_append.mp hc).elim List.mem_of_mem_filter List.mem_of_mem_filter

theorem contest (h : q.MirrorApart q' apart R) (hGuard : guard.MirrorApart guard' q q' apart R)
    (hR : R p p') (g : Group) {features : List Feature} {done : Contest}
    (hFeatures : ∀ f ∈ features, f ∈ q.settings.features) :
    (q.contest guard g done features).Together (q'.contest guard' g done features) p p'
      fun _ => R := by
  induction features generalizing p p' done with
  | nil => exact Together.pure hR
  | cons f rest ih =>
      have hFeature := hFeatures f List.mem_cons_self
      have hRest := fun e he => hFeatures e (List.mem_cons_of_mem _ he)
      rw [Inquiry.contest, Inquiry.contest]
      split
      · exact ih hR hRest
      · refine (h.competitors hGuard hR hFeature _).bind fun campaigns p₁ p₁' hFound =>
          Together.get_bind ?_
        obtain ⟨hR₁, hListed⟩ := hFound
        have hLinked : ∀ c ∈ campaigns, c ∈ f.linked := fun c hc =>
          List.mem_of_mem_filter (hListed c hc)
        refine (h.enter hR₁ hFeature hLinked fun c hc =>
          h.isStored hR₁ f hFeature c (hLinked c hc)).bind fun _ p₂ p₂' hR₂ => ih hR₂ hRest

theorem elect (h : q.MirrorApart q' apart R) (hR : R p p') {g : Nat} (hShared : ¬apart g)
    (group : Group) (found : Contest) :
    (q.elect g group found).Together (q'.elect g group found) p p'
      fun winner p₁ p₁' => R (p₁.knowing g winner) (p₁'.knowing g winner) := by
  rw [Inquiry.elect, Inquiry.elect, h.userId]
  split
  · exact Together.pure (h.know hR g hShared none)
  · exact Together.modify_bind (Together.pure (h.crown hR g hShared _))

/-- A group apart is never being resolved, so that its campaigns pass alike at any depth. -/
theorem resolveGroup (h : q.MirrorApart q' apart R) (depth : Nat) {busy : List Nat}
    (hBusy : ∀ g ∈ busy, ¬apart g) :
    Guard.MirrorApart ⟨pure busy, q.resolveGroup depth busy⟩ ⟨pure busy, q'.resolveGroup depth busy⟩
      q q' apart R := by
  induction depth generalizing busy with
  | zero =>
      exact ⟨⟨busy, rfl, rfl⟩, fun g hShared p p' hR => Together.pure (h.know hR g hShared none),
        fun g hApart p p' hR => h.isWinner hR 0 busy hBusy g hApart⟩
  | succ depth ih =>
      refine ⟨⟨busy, rfl, rfl⟩, fun g hShared p p' hR => ?_,
        fun g hApart p p' hR => h.isWinner hR (depth + 1) busy hBusy g hApart⟩
      change (q.resolveGroup (depth + 1) busy g).Together (q'.resolveGroup (depth + 1) busy g) p p'
        fun winner p₁ p₁' => R (p₁.knowing g winner) (p₁'.knowing g winner)
      rw [Inquiry.resolveGroup, Inquiry.resolveGroup, winnerOf, winnerOf,
        h.settings.group? g hShared, h.settings.features_eq]
      split
      · exact Together.pure (h.know hR g hShared none)
      · have hInside := ih (List.forall_mem_cons.mpr ⟨hShared, hBusy⟩)
        exact (h.contest hInside hR _ fun _ hf => hf).bind fun found p₁ p₁' hR₁ =>
          h.elect hR₁ hShared _ found

theorem outside (h : q.MirrorApart q' apart R) :
    q.outside.MirrorApart q'.outside q q' apart R := by
  rw [Inquiry.outside, Inquiry.outside, h.settings.length]
  exact h.resolveGroup _ (by simp)

theorem experimentDecision (h : q.MirrorApart q' apart R) (hR : R p p')
    (hFeature : f ∈ q.settings.features) {campaigns : List Campaign}
    (hLinked : ∀ c ∈ campaigns, c ∈ f.linked)
    (hForced : ∀ {p p'}, R p p' → ∀ c ∈ campaigns,
      (q.whitelisting f c).Together (q'.whitelisting f c) p p' fun _ => R) :
    (q.experimentDecision f campaigns).Together (q'.experimentDecision f campaigns) p p'
      fun _ => R := by
  induction campaigns generalizing p p' with
  | nil => exact Together.pure hR
  | cons c rest ih =>
      have hLater := fun d hd => hLinked d (List.mem_cons_of_mem _ hd)
      refine (hForced hR c List.mem_cons_self).bind fun forced p₁ p₁' hR₁ => ?_
      split
      · exact Together.pure hR₁
      · refine (h.passes h.outside hR₁ hFeature (hLinked c List.mem_cons_self)).bind
          fun passed p₂ p₂' hR₂ => ?_
        rw [h.settings.accountId_eq, h.userId]
        split
        · exact Together.pure hR₂
        · exact ih hR₂ hLater fun hR d hd => hForced hR d (List.mem_cons_of_mem _ hd)

end MirrorApart

/-- What two searches share where no group is apart. -/
structure Mirror (q q' : Inquiry) (R : Progress → Progress → Prop) : Prop where
  settings : q'.settings = q.settings
  userId : q'.user.id = q.user.id
  winners : ∀ {p p'}, R p p' → p'.winners = p.winners
  rollouts : ∀ {p p'}, R p p' → p'.rollouts = p.rollouts
  storedWinner : ∀ {p p'}, R p p' → ∀ g, p.winners.lookup g = none →
    q'.storedWinner? p'.storage g = q.storedWinner? p.storage g
  isStored : ∀ {p p'}, R p p' → ∀ f ∈ q.settings.features, ∀ c ∈ f.linked,
    (q'.storedDecision? p'.storage f.key).any (isStoredFor · c) =
      (q.storedDecision? p.storage f.key).any (isStoredFor · c)
  preSegmentation : ∀ {p p'}, R p p' → ∀ f ∈ q.settings.features, ∀ c ∈ f.linked,
    (q.preSegmentation f c).Together (q'.preSegmentation f c) p p' fun _ => R
  know : ∀ {p p'}, R p p' → ∀ g winner, R (p.knowing g winner) (p'.knowing g winner)
  remember : ∀ {p p'}, R p p' → ∀ key decided,
    R (p.remembering key decided) (p'.remembering key decided)
  crown : ∀ {p p'}, R p p' → ∀ g c, R ((recorded (q.winnerRecord g c) p).knowing g c.groupMember)
    ((recorded (q'.winnerRecord g c) p').knowing g c.groupMember)

theorem Mirror.nothing_apart (h : q.Mirror q' R) : q.MirrorApart q' (fun _ => False) R where
  settings := h.settings ▸ .refl _
  userId := h.userId
  winners hR g _ := by rw [h.winners hR]
  rollouts := h.rollouts
  storedWinner hR g _ := h.storedWinner hR g
  isStored := h.isStored
  preSegmentation := h.preSegmentation
  know hR g _ := h.know hR g
  remember := h.remember
  crown hR g _ := h.crown hR g
  isWinner _ _ _ _ _ hApart := hApart.elim

/-- Checks from truthful desks go together where the segment means the same on both sides. -/
theorem holds_together {attributes attributes' : Attributes} {s : Option Segment}
    (hMeans : s.all (Segment.meaning (q'.setting p'.storage f) attributes') =
      s.all (Segment.meaning (q.setting p.storage f) attributes))
    (hDesk : p.desk.cache.Truthful q.lists) (hDesk' : p'.desk.cache.Truthful q'.lists)
    (hR : ∀ desk desk' : ListDesk, desk.cache.Truthful q.lists → desk'.cache.Truthful q'.lists →
      R { p with desk } { p' with desk := desk' }) :
    (q.holds f attributes s).Together (q'.holds f attributes' s) p p' fun _ => R := by
  refine .of_ensures (holds_means f attributes s hDesk) (holds_means f attributes' s hDesk') ?_
  rintro answer answer' p₁ p₁' ⟨rfl, desk, hLeft, rfl⟩ ⟨rfl, desk', hLeft', rfl⟩
  exact ⟨hMeans, hR desk desk' hLeft hLeft'⟩

/-- Whitelisting goes together where the segments of the variations do. -/
theorem whitelisting_together (hUser : q'.user.id = q.user.id)
    (hHolds : ∀ {p p'}, R p p' → ∀ v ∈ c.variations,
      (q.holds f (q.withUserId c q.user.targeting) v.segments).Together
        (q'.holds f (q'.withUserId c q'.user.targeting) v.segments) p p' fun _ => R)
    (hR : R p p') :
    (q.whitelisting f c).Together (q'.whitelisting f c) p p' fun _ => R := by
  rw [whitelisting, whitelisting]
  split
  · refine (Together.filterM _ (fun v hv p p' hR => ?_) hR).bind fun _ _ _ hR₁ => ?_
    · exact hHolds hR v (List.mem_of_mem_filter hv)
    · rw [hUser]
      exact Together.pure hR₁
  · exact Together.pure hR

end Inquiry

namespace Evaluator

open Step Inquiry

variable {q q' : Inquiry} {apart : Nat → Prop} {R : Progress → Progress → Prop}
  {p p' : Progress} {f : Feature} {stored stored' : Option StoredDecision}

theorem rolloutStage_mirror (h : q.MirrorApart q' apart R) (hR : R p p')
    (hFeature : f ∈ q.settings.features)
    (hStored : stored'.bind (storedRollout? q.settings) =
      stored.bind (storedRollout? q.settings)) :
    (rolloutStage q f stored).Together (rolloutStage q' f stored') p p' fun _ => R := by
  rw [rolloutStage, rolloutStage, h.settings.storedRollout?_eq, hStored]
  split
  · exact Together.modify_bind (Together.pure (h.remember hR f.key _))
  · split
    · refine (h.rolloutDecision h.outside hR hFeature).bind fun choice p₁ p₁' hR₁ => ?_
      cases choice with
      | none | some => exact Together.pure hR₁
    · exact Together.pure hR

/-- Two searches that share what the rules look at come to the same verdict. -/
theorem verdict_mirror (h : q.MirrorApart q' apart R) (hR : R p p')
    (hFeature : f ∈ q.settings.features)
    (hStored : stored'.bind (storedRollout? q.settings) = stored.bind (storedRollout? q.settings))
    (hForced : ∀ {p p'}, R p p' → ∀ c ∈ f.experiments,
      (q.whitelisting f c).Together (q'.whitelisting f c) p p' fun _ => R) :
    (verdict q f stored).Together (verdict q' f stored') p p' fun _ => R := by
  rw [verdict_eq, verdict_eq]
  refine (rolloutStage_mirror h hR hFeature hStored).bind fun stage p₁ p₁' hR₁ => ?_
  split
  · exact Together.pure hR₁
  · exact (h.experimentDecision hR₁ hFeature (fun c => List.mem_of_mem_filter) hForced).bind
      fun _ _ _ hR₂ => Together.pure hR₂

/-- Deciding is what the rules come to, and after it a flag that is on is recorded. -/
theorem decide_run (q : Inquiry) (f : Feature) (stored : Option StoredDecision) (p : Progress) :
    (decide q f stored).run p =
      let (v, p₁) := (verdict q f stored).run p
      (v, if v.detail.result.isEnabled then recorded (v.decision f q.user.id) p₁ else p₁) := by
  have hRun : (verdict q f stored).Ensures p fun v p₁ => (verdict q f stored).run p = (v, p₁) := rfl
  have hDecide : (decide q f stored).Ensures p fun v p' => (v, p') =
      let (v, p₁) := (verdict q f stored).run p
      (v, if v.detail.result.isEnabled then recorded (v.decision f q.user.id) p₁ else p₁) := by
    refine hRun.bind fun v p₁ hRun => ?_
    rw [hRun]
    dsimp only
    split
    · exact Ensures.modify_bind (Ensures.pure rfl)
    · exact Ensures.pure rfl
  exact hDecide

end Evaluator

namespace Request

open Step

/-- What a request comes to where the rules end with a verdict. A flag that is on is recorded. -/
def ending (r : Request) (f : Feature) (v : Verdict) (p : Progress) : Outcome × Memory :=
  let p := if v.detail.result.isEnabled then Inquiry.recorded (v.decision f r.user.id) p else p
  ({ detail := v.detail, verdict := some v, writes := p.writes,
     impressions := r.impressions v f, listCalls := p.desk.calls }, ⟨p.storage, p.desk.cache⟩)

theorem answer_ending {r : Request} {m : Memory} {f : Feature} (hNamed : r.user.isBlank = false)
    (hKnown : r.settings.feature? r.featureKey = some f)
    (hFresh : (m.decision? r.featureKey r.user.id).bind
      (Evaluator.storedExperiment? r.settings) = none) :
    r.answer m = r.ending f
      ((Evaluator.verdict r.inquiry f (m.decision? r.featureKey r.user.id)).run m.progress).1
      ((Evaluator.verdict r.inquiry f (m.decision? r.featureKey r.user.id)).run m.progress).2 := by
  rw [answer_decided hNamed hKnown hFresh, Evaluator.decide_run]
  rfl

/-- Two requests are answered alike: both are refused, or answered by the same stored experiment, or
the rules come to the same verdict and end as related. -/
inductive AnsweredAlike (r r' : Request) (R : Progress → Progress → Prop) (m m' : Memory) :
    Outcome × Memory → Outcome × Memory → Prop where
  | refused (cause : FlagError) : AnsweredAlike r r' R m m'
      ({ detail := ⟨.disabled, .error cause⟩ }, m) ({ detail := ⟨.disabled, .error cause⟩ }, m')
  | stored {choice : Choice}
      (found : (m.decision? r.featureKey r.user.id).bind
        (Evaluator.storedExperiment? r.settings) = some choice) :
      AnsweredAlike r r' R m m' ({ detail := storedDetail choice }, m)
        ({ detail := storedDetail choice }, m')
  | decided {f : Feature} {v : Verdict} {p p' : Progress}
      (known : r.settings.feature? r.featureKey = some f) (ends : R p p') :
      AnsweredAlike r r' R m m' (r.ending f v p) (r'.ending f v p')

variable {r r' : Request} {m m' : Memory} {apart : Nat → Prop} {R : Progress → Progress → Prop}

/-- From memories with the same stored experiment, requests for the same flag are answered alike if
the rules come to the same verdict where they are asked. -/
theorem answer_alike_of_verdict (hSettings : r.settings.SameApart r'.settings apart)
    (hUser : r'.user.id = r.user.id) (hKey : r'.featureKey = r.featureKey)
    (hExperiment : (m'.decision? r.featureKey r.user.id).bind
        (Evaluator.storedExperiment? r.settings) =
      (m.decision? r.featureKey r.user.id).bind (Evaluator.storedExperiment? r.settings))
    (hVerdict : ∀ f, r.settings.feature? r.featureKey = some f →
      r.answer m = r.ending f
        ((Evaluator.verdict r.inquiry f (m.decision? r.featureKey r.user.id)).run m.progress).1
        ((Evaluator.verdict r.inquiry f (m.decision? r.featureKey r.user.id)).run m.progress).2 →
      r'.answer m' = r'.ending f
        ((Evaluator.verdict r'.inquiry f (m'.decision? r.featureKey r.user.id)).run m'.progress).1
        ((Evaluator.verdict r'.inquiry f (m'.decision? r.featureKey r.user.id)).run m'.progress).2 →
      (Evaluator.verdict r.inquiry f (m.decision? r.featureKey r.user.id)).Together
        (Evaluator.verdict r'.inquiry f (m'.decision? r.featureKey r.user.id))
        m.progress m'.progress fun _ => R) :
    AnsweredAlike r r' R m m' (r.answer m) (r'.answer m') := by
  have hBlank : r'.user.isBlank = r.user.isBlank := by
    rw [UserContext.isBlank, UserContext.isBlank, hUser]
  cases hNamed : r.user.isBlank with
  | true =>
      simp only [answer, Evaluator.evaluate, Evaluator.opening, hNamed, hBlank]
      exact .refused _
  | false =>
      rw [hNamed] at hBlank
      cases hKnown : r.settings.feature? r.featureKey with
      | none =>
          simp only [answer, Evaluator.evaluate, Evaluator.opening, hNamed, hBlank, hKey,
            hSettings.feature?_eq, hKnown]
          exact .refused _
      | some f =>
          have hKnown' : r'.settings.feature? r'.featureKey = some f := by
            rw [hKey, hSettings.feature?_eq, hKnown]
          have hExperiment' : (m'.decision? r'.featureKey r'.user.id).bind
              (Evaluator.storedExperiment? r'.settings) =
              (m.decision? r.featureKey r.user.id).bind
                (Evaluator.storedExperiment? r.settings) := by
            rw [hKey, hUser, hSettings.storedExperiment?_eq, hExperiment]
          cases hFound : (m.decision? r.featureKey r.user.id).bind
              (Evaluator.storedExperiment? r.settings) with
          | some choice =>
              rw [answer_stored hNamed hKnown hFound,
                answer_stored hBlank hKnown' (hExperiment'.trans hFound)]
              exact .stored hFound
          | none =>
              have hEnding := answer_ending hNamed hKnown hFound
              have hEnding' := answer_ending hBlank hKnown' (hExperiment'.trans hFound)
              rw [hKey, hUser] at hEnding'
              obtain ⟨hSame, hEnd⟩ := hVerdict f hKnown hEnding hEnding'
              rw [hEnding, hEnding', hSame]
              exact .decided hKnown hEnd

/-- From memories that two searches cannot tell apart, requests for the same flag are answered
alike. -/
theorem answer_alike (h : r.inquiry.MirrorApart r'.inquiry apart R)
    (hStart : R m.progress m'.progress) (hKey : r'.featureKey = r.featureKey)
    (hExperiment : (m'.decision? r.featureKey r.user.id).bind
        (Evaluator.storedExperiment? r.settings) =
      (m.decision? r.featureKey r.user.id).bind (Evaluator.storedExperiment? r.settings))
    (hRollout : (m'.decision? r.featureKey r.user.id).bind
        (Evaluator.storedRollout? r.settings) =
      (m.decision? r.featureKey r.user.id).bind (Evaluator.storedRollout? r.settings))
    (hForced : ∀ {p p'}, R p p' → ∀ f ∈ r.settings.features, ∀ c ∈ f.experiments,
      (r.inquiry.whitelisting f c).Together (r'.inquiry.whitelisting f c) p p' fun _ => R) :
    AnsweredAlike r r' R m m' (r.answer m) (r'.answer m') :=
  answer_alike_of_verdict h.settings h.userId hKey hExperiment fun f hKnown _ _ =>
    Evaluator.verdict_mirror h hStart (List.mem_of_find?_eq_some hKnown) hRollout
      fun hR => hForced hR f (List.mem_of_find?_eq_some hKnown)

/-- What is shown and sent to two requests that are answered alike, and what was asked of the list
service. -/
theorem AnsweredAlike.looks {answer answer' : Outcome × Memory}
    (h : AnsweredAlike r r' R m m' answer answer') (hUser : r'.user.id = r.user.id)
    (hSends : (r'.evaluator.hasSink && r'.evaluator.config.impressionsEnabled) =
      (r.evaluator.hasSink && r.evaluator.config.impressionsEnabled))
    (hStart : R m.progress m'.progress) :
    answer'.1.detail = answer.1.detail ∧ answer'.1.impressions = answer.1.impressions ∧
      ∃ p p', R p p' ∧ answer.1.listCalls = p.desk.calls ∧
        answer'.1.listCalls = p'.desk.calls := by
  cases h with
  | refused | stored => exact ⟨rfl, rfl, _, _, hStart, rfl, rfl⟩
  | @decided f v p p' _ ends =>
      refine ⟨rfl, ?_, p, p', ends, ?_, ?_⟩
      · simp only [ending, impressions, hUser, hSends]
      · simp only [ending]
        split <;> simp
      · simp only [ending]
        split <;> simp

end Request

end FlagDecision
