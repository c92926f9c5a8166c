import FlagDecision.Proofs.CheckedData
import FlagDecision.Proofs.Linking
import FlagDecision.Proofs.Mirror
import FlagDecision.Proofs.Uncached

/-! How attributes of a user act. Targeting looks at the custom attributes and puts the id
of the user over whatever was given for it, and whitelisting alone looks at the targeting
attributes. Whitelisting that comes to nothing leaves no more than list answers, which
are true. So where nobody is whitelisted, the targeting attributes and a given id do not
change anything. -/
namespace FlagDecision

open Step Segment

/-- A provider tells the same of two users with one id, whose custom attributes are the same except
for the attribute that the evaluation sets itself. The targeting attributes may differ. -/
structure UserContext.Resembles (provider : AttributeProvider) (u u' : UserContext) : Prop where
  id : u'.id = u.id
  location : provider.location u' = provider.location u
  userAgent : provider.userAgent u' = provider.userAgent u
  agentInfo : provider.agentInfo u' = provider.agentInfo u
  device : provider.device u' = provider.device u
  custom : ∀ name, name ≠ userIdAttribute → u'.custom.lookup name = u.custom.lookup name

/-- What a user carries is all that is told of the user by default. -/
theorem UserContext.resembles_ofUser {u u' : UserContext} (hId : u'.id = u.id)
    (hLocation : u'.location = u.location) (hAgent : u'.userAgent = u.userAgent)
    (hInfo : u'.agentInfo = u.agentInfo)
    (hDevice : ∀ property, u'.device.lookup property = u.device.lookup property)
    (hCustom : ∀ name, name ≠ userIdAttribute → u'.custom.lookup name = u.custom.lookup name) :
    u.Resembles .ofUser u' :=
  ⟨hId, hLocation, hAgent, hInfo, funext hDevice, hCustom⟩

/-- Two steps go together, unless one of them gives an answer that is excepted. -/
def Step.TogetherUnless {α : Type} (excepted : α → Prop) (x x' : Step α) (p p' : Progress)
    (post : α → Progress → Progress → Prop) : Prop :=
  ¬excepted (x.run p).1 → ¬excepted (x'.run p').1 → x.Together x' p p' post

namespace Step.TogetherUnless

variable {α β : Type} {x x' : Step α} {p p' : Progress} {post : α → Progress → Progress → Prop}
  {excepted : α → Prop}

theorem of_together (h : x.Together x' p p' post) : TogetherUnless excepted x x' p p' post :=
  fun _ _ => h

theorem bind {f f' : α → Step β} {excepted : β → Prop} {after : β → Progress → Progress → Prop}
    (hx : x.Together x' p p' post)
    (hf : ∀ a p₁ p₁', post a p₁ p₁' → TogetherUnless excepted (f a) (f' a) p₁ p₁' after) :
    TogetherUnless excepted (x >>= f) (x' >>= f') p p' after := by
  obtain ⟨hAnswer, hPost⟩ := hx
  have hRun : (x' >>= f').run p' = (f' (x.run p).1).run (x'.run p').2 := by
    rw [← hAnswer]
    rfl
  rw [TogetherUnless, Together, hRun]
  exact hf _ _ _ hPost

/-- What is made of an answer is excepted where the answer is. -/
theorem map {excepted' : β → Prop} {after : β → Progress → Progress → Prop} (k : α → β)
    (hx : TogetherUnless excepted x x' p p' post) (hk : ∀ a, excepted a → excepted' (k a))
    (hPost : ∀ a p₁ p₁', post a p₁ p₁' → after (k a) p₁ p₁') :
    TogetherUnless excepted' (x >>= fun a => Pure.pure (k a)) (x' >>= fun a => Pure.pure (k a)) p p'
      after := by
  intro hFree hFree'
  have hBoth := hx (fun hBad => hFree (hk _ hBad)) (fun hBad => hFree' (hk _ hBad))
  exact hBoth.bind fun a p₁ p₁' h => Together.pure (hPost a p₁ p₁' h)

/-- Where finding something is excepted, both steps go on from finding nothing. -/
theorem after_found {x x' : Step (Option β)} {f f' : Option β → Step α}
    (hFound : ∀ b p, excepted ((f (some b)).run p).1)
    (hFound' : ∀ b p, excepted ((f' (some b)).run p).1)
    (hNone : TogetherUnless excepted (f none) (f' none) (x.run p).2 (x'.run p').2 post) :
    TogetherUnless excepted (x >>= f) (x' >>= f') p p' post := by
  rcases hRun : x.run p with ⟨found, p₁⟩
  rcases hRun' : x'.run p' with ⟨found', p₁'⟩
  rw [hRun, hRun'] at hNone
  rw [TogetherUnless, Together, Step.run_bind_of hRun, Step.run_bind_of hRun']
  intro hFree hFree'
  cases found with
  | some b => exact absurd (hFound b p₁) hFree
  | none =>
      cases found' with
      | some b => exact absurd (hFound' b p₁') hFree'
      | none => exact hNone hFree hFree'

end Step.TogetherUnless

namespace Inquiry

variable {q : Inquiry} {p p' : Progress} {user : UserContext}

/-- The search for a decision about another user. -/
def about (q : Inquiry) (user : UserContext) : Inquiry := { q with user }

/-- Two searches came equally far. Only their desks differ, and each says what the service says. -/
structure Level (lists : Option ListService) (p p' : Progress) : Prop where
  eq : p' = { p with desk := p'.desk }
  truthful : p.desk.cache.Truthful lists
  truthful' : p'.desk.cache.Truthful lists

theorem recorded_with_desk (d : StoredDecision) (p : Progress) (desk : ListDesk) :
    recorded d { p with desk } = { recorded d p with desk } := by
  unfold recorded
  dsimp only
  split <;> rfl

namespace Level

variable {lists : Option ListService} (h : Level lists p p')

include h

theorem desk {desk desk' : ListDesk} (hDesk : desk.cache.Truthful lists)
    (hDesk' : desk'.cache.Truthful lists) : Level lists { p with desk } { p' with desk := desk' } :=
  ⟨by rw [h.eq], hDesk, hDesk'⟩

theorem know (g : Nat) (winner : Option GroupMember) :
    Level lists (p.knowing g winner) (p'.knowing g winner) :=
  ⟨by rw [h.eq]; rfl, h.truthful, h.truthful'⟩

theorem remember (key : String) (decided : Option (Nat × Nat)) :
    Level lists (p.remembering key decided) (p'.remembering key decided) :=
  ⟨by rw [h.eq]; rfl, h.truthful, h.truthful'⟩

theorem record (d : StoredDecision) : Level lists (recorded d p) (recorded d p') := by
  refine ⟨?_, by simpa using h.truthful, by simpa using h.truthful'⟩
  rw [h.eq, recorded_with_desk]

end Level

/-- The id that the evaluation sets hides the one that was given. -/
theorem withUserId_lookup (hSame : q.user.Resembles q.provider user) (c : Campaign)
    (name : String) :
    ((q.about user).withUserId c user.custom).lookup name =
      (q.withUserId c q.user.custom).lookup name := by
  rw [withUserId, withUserId, about, hSame.id]
  by_cases hName : name = userIdAttribute
  · rw [hName, Table.lookup_put_self, Table.lookup_put_self]
  · rw [Table.lookup_put_of_ne _ _ hName, Table.lookup_put_of_ne _ _ hName]
    exact hSame.custom name hName

theorem setting_findsAlike (hSame : q.user.Resembles q.provider user) (storage : Option Storage)
    (f : Feature) (c : Campaign) :
    (q.setting storage f).FindsAlike ((q.about user).setting storage f)
      (q.withUserId c q.user.custom) ((q.about user).withUserId c user.custom) where
  featureKey := rfl
  userId := hSame.id
  lists := rfl
  isStuck := by simp only [setting, storedDecision?, about, hSame.id]
  now := rfl
  device := hSame.device
  attributes := withUserId_lookup hSame c

theorem preSegmentation_level (hSame : q.user.Resembles q.provider user) (f : Feature)
    (c : Campaign) (h : Level q.lists p p') :
    (q.preSegmentation f c).Together ((q.about user).preSegmentation f c) p p'
      fun _ => Level q.lists := by
  refine holds_together ?_ h.truthful h.truthful' fun _ _ => h.desk
  have hStorage : p'.storage = p.storage := by rw [h.eq]
  rw [hStorage]
  cases c.preSegmentation with
  | none => rfl
  | some s =>
      exact meaning_alike (setting_findsAlike hSame p.storage f c) s
        fun _ => ⟨hSame.location, hSame.userAgent, hSame.agentInfo⟩

/-- Searches about users that resemble each other mirror each other. -/
theorem about_mirror (hSame : q.user.Resembles q.provider user) :
    q.Mirror (q.about user) (Level q.lists) where
  settings := rfl
  userId := hSame.id
  winners h := by rw [h.eq]
  rollouts h := by rw [h.eq]
  storedWinner h g _ := by
    rw [h.eq]
    simp only [storedWinner?, storedDecision?, about, hSame.id]
  isStored h f _ c _ := by
    rw [h.eq]
    simp only [storedDecision?, about, hSame.id]
  preSegmentation h f _ c _ := preSegmentation_level hSame f c h
  know h := h.know
  remember h := h.remember
  crown h g c := by
    have hRecord : (q.about user).winnerRecord g c = q.winnerRecord g c := by
      simp only [winnerRecord, about, hSame.id]
    rw [hRecord]
    exact (h.record _).know g c.groupMember

/-- An experiment was found by whitelisting. -/
def IsForced (found : Option (Choice × Path)) : Prop :=
  ∃ choice, found = some (choice, .whitelisted)

/-- Experiments are decided together unless one is forced, if whitelisting keeps what is shared. -/
theorem MirrorApart.experimentDecision_unforced {q' : Inquiry} {apart : Nat → Prop}
    {R : Progress → Progress → Prop} (h : q.MirrorApart q' apart R) (hR : R p p') {f : Feature}
    (hFeature : f ∈ q.settings.features) {campaigns : List Campaign}
    (hLinked : ∀ c ∈ campaigns, c ∈ f.linked)
    (hTried : ∀ {p p'}, R p p' → ∀ c,
      R ((q.whitelisting f c).run p).2 ((q'.whitelisting f c).run p').2) :
    (q.experimentDecision f campaigns).TogetherUnless IsForced (q'.experimentDecision f campaigns)
      p p' fun _ => R := by
  induction campaigns generalizing p p' with
  | nil => exact .of_together (Together.pure hR)
  | cons c rest ih =>
      have hLater := fun d hd => hLinked d (List.mem_cons_of_mem _ hd)
      rw [Inquiry.experimentDecision, Inquiry.experimentDecision]
      refine .after_found (fun v _ => ⟨(c, v), rfl⟩) (fun v _ => ⟨(c, v), rfl⟩) ?_
      refine .bind (h.passes h.outside (hTried hR c) hFeature (hLinked c List.mem_cons_self))
        fun passed p₂ p₂' hR₂ => ?_
      rw [h.settings.accountId_eq, h.userId]
      split
      · exact .of_together (Together.pure hR₂)
      · exact ih hR₂ hLater

theorem whitelisting_level (user : UserContext) (h : Level q.lists p p') (f : Feature)
    (c : Campaign) :
    Level q.lists ((q.whitelisting f c).run p).2 (((q.about user).whitelisting f c).run p').2 := by
  obtain ⟨desk, hDesk, hLeft⟩ := whitelisting_truthful f c h.truthful
  obtain ⟨desk', hDesk', hLeft'⟩ :=
    whitelisting_truthful (q := q.about user) f c h.truthful'
  rw [hLeft, hLeft']
  exact h.desk hDesk hDesk'

end Inquiry

namespace Verdict

/-- The flag is on because the user is whitelisted. -/
def IsForced (v : Verdict) : Prop := Inquiry.IsForced v.experiment

theorem IsForced.reason {v : Verdict} (h : v.IsForced) :
    ∃ campaignId variationId, v.detail.reason = .whitelisted campaignId variationId := by
  obtain ⟨⟨c, w⟩, hFound⟩ := h
  exact ⟨c.id, w.id, by simp [detail, hFound]⟩

end Verdict

namespace Evaluator

open Inquiry

variable {q : Inquiry} {p p' : Progress} {user : UserContext} {f : Feature}
  {stored stored' : Option StoredDecision}

/-- About users that resemble each other, the rules come to the same verdict unless one is
whitelisted. -/
theorem verdict_unforced (hSame : q.user.Resembles q.provider user) (h : Level q.lists p p')
    (hFeature : f ∈ q.settings.features)
    (hStored : stored'.bind (storedRollout? q.settings) =
      stored.bind (storedRollout? q.settings)) :
    (verdict q f stored).TogetherUnless Verdict.IsForced (verdict (q.about user) f stored') p p'
      fun _ => Level q.lists := by
  have hMirror := (about_mirror hSame).nothing_apart
  refine .bind (rolloutStage_mirror hMirror h hFeature hStored) fun stage p₁ p₁' h₁ => ?_
  split
  · exact .of_together (Together.pure h₁)
  · refine .map _ (hMirror.experimentDecision_unforced h₁ hFeature
      (fun c => List.mem_of_mem_filter) fun h c => ?_) (fun _ hForced => hForced) fun _ _ _ h => h
    exact whitelisting_level user h f c

end Evaluator

namespace Request

variable {r : Request} {m m' : Memory} {user : UserContext}

/-- The request, made about another user. -/
def about (r : Request) (user : UserContext) : Request := { r with user }

/-- Attributes have no other channels. Two users who resemble each other are shown the same, for the
same reason, with the same impressions and the same storage left, whatever their targeting
attributes and the ids given among their custom attributes, as long as neither is whitelisted. -/
theorem answer_by_channels (hSame : r.user.Resembles r.evaluator.provider user)
    (hStorage : m'.storage = m.storage) (hCache : m.cache.Truthful r.evaluator.lists)
    (hCache' : m'.cache.Truthful r.evaluator.lists)
    (hFree : ∀ campaignId variationId,
      (r.answer m).1.detail.reason ≠ .whitelisted campaignId variationId)
    (hFree' : ∀ campaignId variationId,
      ((r.about user).answer m').1.detail.reason ≠ .whitelisted campaignId variationId) :
    ((r.about user).turn m').effects = (r.turn m).effects := by
  have hUser : user.id = r.user.id := hSame.id
  have hStored : m'.decision? r.featureKey r.user.id = m.decision? r.featureKey r.user.id :=
    congrArg (·.bind (·.decision? r.featureKey r.user.id)) hStorage
  have hStart : Inquiry.Level r.inquiry.lists m.progress m'.progress :=
    ⟨by simp [Memory.progress, hStorage], hCache, hCache'⟩
  have hSettings : r.settings.SameApart (r.about user).settings fun _ => False := .refl _
  have hAlike : AnsweredAlike r (r.about user) (Inquiry.Level r.inquiry.lists) m m' (r.answer m)
      ((r.about user).answer m') := by
    refine answer_alike_of_verdict hSettings hUser rfl (by rw [hStored])
      fun f hKnown hEnding hEnding' => ?_
    rw [hEnding] at hFree
    rw [hEnding'] at hFree'
    refine Evaluator.verdict_unforced (q := r.inquiry) hSame hStart
      (List.mem_of_find?_eq_some hKnown) (by rw [hStored]) (fun hForced => ?_) fun hForced => ?_
    · obtain ⟨campaignId, variationId, hReason⟩ := hForced.reason
      exact hFree campaignId variationId hReason
    · obtain ⟨campaignId, variationId, hReason⟩ := hForced.reason
      exact hFree' campaignId variationId hReason
  rw [turn, turn]
  generalize r.answer m = answer at hAlike ⊢
  generalize (r.about user).answer m' = answer' at hAlike ⊢
  cases hAlike with
  | refused | stored => simp [Turn.effects, hStorage]
  | @decided f v p p' _ ends =>
      have hLeft : Inquiry.Level r.inquiry.lists
          (if v.detail.result.isEnabled then Inquiry.recorded (v.decision f r.user.id) p else p)
          (if v.detail.result.isEnabled then Inquiry.recorded (v.decision f r.user.id) p'
            else p') := by
        split
        · exact ends.record _
        · exact ends
      simp only [Turn.effects, ending, impressions, about, hUser]
      rw [hLeft.eq]

end Request

/-- Settings with an experiment for one user only, which forces its variation on testers. -/
def Settings.screened : Settings :=
  { accountId := 1
    campaigns := [
      { Campaign.small .ab 1 with
        segments := some (.user (.equals "u"))
        isForcedVariationEnabled := true
        variations := [{ id := 1, weight := 100,
                         segments := some (.customVariable "tester" (.equals "yes")) }] }]
    features := [.small 1 "f" [1]] : Settings }.link

namespace Request

/-- The user takes part although another id is given, and by traffic although the tester attribute
is there; the right value of it would force the variation. -/
theorem screened_by_channels :
    let r := small .screened "f"
    let m : Memory := ⟨some {}, ⟨0, 0, []⟩⟩
    let user : UserContext :=
      { id := "u"
        custom := [(userIdAttribute, .string "v")]
        targeting := [("tester", .string "no")] }
    let tester : UserContext := { id := "u", targeting := [("tester", .string "yes")] }
    r.user.Resembles r.evaluator.provider user ∧ m.cache.Truthful r.evaluator.lists ∧
      (r.answer m).1.detail.reason = .experiment 1 1 ∧
      ((r.about user).turn m).effects = (r.turn m).effects ∧
      ((r.about tester).answer m).1.detail.reason = .whitelisted 1 1 := by
  intro r m user tester
  have hSame : r.user.Resembles r.evaluator.provider user := by
    refine UserContext.resembles_ofUser rfl rfl rfl rfl (fun _ => rfl) fun name hName => ?_
    exact Table.lookup_cons_of_ne _ _ hName
  have hCache : m.cache.Truthful r.evaluator.lists := Inquiry.empty_truthful _
  have hReason : (r.answer m).1.detail.reason = .experiment 1 1 := by decide +kernel
  have hReason' : ((r.about user).answer m).1.detail.reason = .experiment 1 1 := by decide +kernel
  exact ⟨hSame, hCache, hReason,
    answer_by_channels hSame rfl hCache hCache (by simp [hReason]) (by simp [hReason']),
    by decide +kernel⟩

end Request

end FlagDecision
