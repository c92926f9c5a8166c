import FlagDecision.Proofs.CheckedData
import FlagDecision.Proofs.Linking
import FlagDecision.Proofs.Mirror
import FlagDecision.Proofs.Pipeline

/-! What the mark for the gateway says of a feature. Linking reads the segments that come
before the traffic of the linked campaigns. A feature without mark, whose campaigns
belong to no group, is therefore targeted alike by all providers that agree on the
device. The segments by which a variation is forced are not read, so a feature without
mark may still be answered by what the gateway supplies, and it is answered alike where
those segments do not need it. -/
namespace FlagDecision

open Step Segment

namespace Campaign

/-- Whom the campaign targets does not depend on a gateway. -/
def TargetsUnaided (c : Campaign) : Prop := c.preSegmentation.any (·.requiresGateway) = false

/-- On whom the campaign forces its variations does not depend on a gateway. -/
def ForcesUnaided (c : Campaign) : Prop :=
  c.isForcedVariationEnabled = true →
    ∀ v ∈ c.variations, v.segments.any (·.requiresGateway) = false

instance (c : Campaign) : Decidable c.ForcesUnaided :=
  inferInstanceAs (Decidable (_ → _))

end Campaign

/-- Linking marks a feature exactly if a campaign that it links targets with the help of the
gateway. -/
theorem Settings.Ready.needsGateway_iff {s : Settings} (hReady : s.Ready) {f : Feature}
    (hFeature : f ∈ s.features) :
    f.needsGateway = false ↔ ∀ c ∈ f.linked, c.TargetsUnaided := by
  obtain ⟨raw, rfl⟩ := hReady.ruled hFeature
  simp only [Feature.link, List.any_eq_false, Bool.not_eq_true, Campaign.TargetsUnaided]

namespace Inquiry

variable {q : Inquiry} {provider : AttributeProvider} {guard guard' : Guard Step} {f : Feature}
  {c : Campaign}

/-- The search with another provider of attributes. -/
def served (q : Inquiry) (provider : AttributeProvider) : Inquiry := { q with provider }

section SameDevice

variable (hDevice : provider.device q.user = q.provider.device q.user)

include hDevice

/-- Segments that need no gateway are checked alike, down to the calls of list services. -/
theorem holds_served (f : Feature) (attributes : Attributes) {s : Option Segment}
    (hUnaided : s.any (·.requiresGateway) = false) :
    (q.served provider).holds f attributes s = q.holds f attributes s := by
  funext p
  have hAlike : (q.setting p.storage f).FindsAlike ((q.served provider).setting p.storage f)
      attributes attributes := ⟨rfl, rfl, rfl, rfl, rfl, hDevice, fun _ => rfl⟩
  rw [holds, holds, holdsOrAbsent_alike hAlike s (by simp [hUnaided])]

theorem passes_served (hAlone : q.settings.groupOf? c.groupMember = none)
    (hTargets : c.TargetsUnaided) :
    (q.served provider).passes guard' f c = q.passes guard f c := by
  have hAlone' : (q.served provider).settings.groupOf? c.groupMember = none := hAlone
  simp only [passes, hAlone, hAlone']
  exact holds_served hDevice f _ hTargets

theorem firstPassing_served {campaigns : List Campaign} (hAlone : q.Ungrouped campaigns)
    (hTargets : ∀ c ∈ campaigns, c.TargetsUnaided) :
    (q.served provider).firstPassing guard' f campaigns = q.firstPassing guard f campaigns := by
  induction campaigns with
  | nil => rfl
  | cons c rest ih =>
      have hFirst : (q.served provider).passes guard' f c = q.passes guard f c :=
        passes_served hDevice (hAlone c List.mem_cons_self) (hTargets c List.mem_cons_self)
      have hRest := ih (fun d hd => hAlone d (List.mem_cons_of_mem _ hd))
        fun d hd => hTargets d (List.mem_cons_of_mem _ hd)
      rw [firstPassing, firstPassing, hFirst, hRest]

theorem rolloutDecision_served (hAlone : q.Ungrouped f.rollouts)
    (hTargets : ∀ c ∈ f.rollouts, c.TargetsUnaided) :
    (q.served provider).rolloutDecision guard' f = q.rolloutDecision guard f := by
  have hPassing : (q.served provider).firstPassing guard' f f.rollouts =
      q.firstPassing guard f f.rollouts := firstPassing_served hDevice hAlone hTargets
  rw [rolloutDecision, rolloutDecision, hPassing]
  rfl

theorem whitelisting_served (hForces : c.ForcesUnaided) :
    (q.served provider).whitelisting f c = q.whitelisting f c := by
  cases hForced : c.isForcedVariationEnabled with
  | false => simp [whitelisting, hForced]
  | true =>
      funext p
      have hBoth : (q.whitelisting f c).Together ((q.served provider).whitelisting f c) p p
          fun _ p₁ p₁' => p₁' = p₁ := by
        refine whitelisting_together rfl (fun {p p'} hSame v hv => ?_) rfl
        rw [hSame]
        exact .of_eq (holds_served hDevice f _ (hForces hForced v hv))
      exact Prod.ext hBoth.1 hBoth.2

theorem experimentDecision_served {campaigns : List Campaign} (hAlone : q.Ungrouped campaigns)
    (hTargets : ∀ c ∈ campaigns, c.TargetsUnaided) (hForces : ∀ c ∈ campaigns, c.ForcesUnaided) :
    (q.served provider).experimentDecision f campaigns = q.experimentDecision f campaigns := by
  induction campaigns with
  | nil => rfl
  | cons c rest ih =>
      have hForced := whitelisting_served (f := f) hDevice (hForces c List.mem_cons_self)
      have hFirst : (q.served provider).passes (q.served provider).outside f c =
          q.passes q.outside f c :=
        passes_served hDevice (hAlone c List.mem_cons_self) (hTargets c List.mem_cons_self)
      have hRest := ih (fun d hd => hAlone d (List.mem_cons_of_mem _ hd))
        (fun d hd => hTargets d (List.mem_cons_of_mem _ hd))
        fun d hd => hForces d (List.mem_cons_of_mem _ hd)
      rw [experimentDecision, experimentDecision, hForced, hFirst, hRest]
      rfl

theorem verdict_served (hAlone : q.Ungrouped f.linked) (hTargets : ∀ c ∈ f.linked, c.TargetsUnaided)
    (hForces : ∀ c ∈ f.experiments, c.ForcesUnaided) (stored : Option StoredDecision) :
    Evaluator.verdict (q.served provider) f stored = Evaluator.verdict q f stored := by
  have hRollouts : (q.served provider).rolloutDecision (q.served provider).outside f =
      q.rolloutDecision q.outside f :=
    rolloutDecision_served hDevice (fun c hc => hAlone c (List.mem_of_mem_filter hc))
      fun c hc => hTargets c (List.mem_of_mem_filter hc)
  have hExperiments : (q.served provider).experimentDecision f f.experiments =
      q.experimentDecision f f.experiments :=
    experimentDecision_served hDevice (fun c hc => hAlone c (List.mem_of_mem_filter hc))
      (fun c hc => hTargets c (List.mem_of_mem_filter hc)) hForces
  rw [Evaluator.verdict_eq, Evaluator.verdict_eq, Evaluator.rolloutStage, Evaluator.rolloutStage,
    hRollouts, hExperiments]
  rfl

end SameDevice

end Inquiry

namespace Request

variable {r : Request} {m : Memory} {provider : AttributeProvider} {f : Feature}

/-- The request, answered with another provider of attributes. -/
def served (r : Request) (provider : AttributeProvider) : Request :=
  { r with evaluator := { r.evaluator with provider } }

/-- A feature that needs no gateway is answered without one. Providers that agree on the device of
the user give the same answer, storage and list calls included, wherever they place the user and
whatever user agent they report. No campaign of the feature belongs to a group, and none of its
experiments forces a variation by what a gateway supplies. -/
theorem answer_served (hReady : r.settings.Ready)
    (hKnown : r.settings.feature? r.featureKey = some f) (hNeeds : f.needsGateway = false)
    (hAlone : r.inquiry.Ungrouped f.linked) (hForces : ∀ c ∈ f.experiments, c.ForcesUnaided)
    (hDevice : provider.device r.user = r.evaluator.provider.device r.user) (m : Memory) :
    (r.served provider).answer m = r.answer m := by
  have hTargets := (hReady.needsGateway_iff (List.mem_of_find?_eq_some hKnown)).mp hNeeds
  have hSettings : r.settings.SameApart (r.served provider).settings fun _ => False := .refl _
  have hAlike : AnsweredAlike r (r.served provider) (fun p p' => p' = p) m m (r.answer m)
      ((r.served provider).answer m) := by
    refine answer_alike_of_verdict hSettings rfl rfl rfl fun f' hKnown' _ _ => .of_eq ?_
    obtain rfl : f = f' := Option.some.inj (hKnown.symm.trans hKnown')
    exact Inquiry.verdict_served (q := r.inquiry) hDevice hAlone hTargets hForces _
  generalize r.answer m = answer at hAlike ⊢
  generalize (r.served provider).answer m = answer' at hAlike ⊢
  cases hAlike with
  | refused | stored => rfl
  | decided _ ends =>
      rw [ends]
      rfl

end Request

/-- Settings, not linked yet, with an experiment for English devices, which forces its variation on
some users. -/
def Settings.forcing (whom : Segment) : Settings :=
  { accountId := 1
    campaigns := [
      { Campaign.small .ab 1 with
        segments := some (.device .locale (.equals "en"))
        isForcedVariationEnabled := true
        variations := [{ id := 1, weight := 100, segments := some whom }] }]
    features := [.small 1 "f" [1]] }

/-- Settings in which testers are forced, by an attribute of theirs. -/
def Settings.forcingTesters : Settings :=
  (forcing (.customVariable "tester" (.equals "yes"))).link

/-- Settings in which users in India are forced. -/
def Settings.forcingIndia : Settings := (forcing (.location .country "IN")).link

/-- Every user is in India, with a phone. -/
def AttributeProvider.inIndia : AttributeProvider :=
  { AttributeProvider.ofUser with
    location := fun _ => some { country := some "IN" }
    userAgent := fun _ => some "Mobile"
    agentInfo := fun _ => some { deviceType := some "mobile" } }

namespace Request

/-- A request of an English user for the feature of the experiment. -/
def english (settings : Settings) : Request :=
  { small settings "f" with user := { id := "u", device := [(.locale, "en")] } }

/-- The user takes part in India as elsewhere where the variation is forced on testers. -/
theorem forcing_served :
    let r := english .forcingTesters
    let m : Memory := ⟨some {}, ⟨0, 0, []⟩⟩
    r.settings.Ready ∧ (∃ f, r.settings.feature? r.featureKey = some f ∧ f.needsGateway = false ∧
        r.inquiry.Ungrouped f.linked ∧ ∀ c ∈ f.experiments, c.ForcesUnaided) ∧
      AttributeProvider.inIndia.device r.user = r.evaluator.provider.device r.user ∧
      (r.answer m).1.detail.reason = .experiment 1 1 ∧
      (r.served .inIndia).answer m = r.answer m := by
  intro r m
  obtain ⟨f, hKnown⟩ : ∃ f, r.settings.feature? r.featureKey = some f :=
    Option.isSome_iff_exists.mp (by decide +kernel)
  have hFeature : f ∈ r.settings.features := List.mem_of_find?_eq_some hKnown
  have hReady : Settings.forcingTesters.Ready := ⟨⟨_, rfl, rfl⟩, by decide +kernel⟩
  have hNeeds : ∀ f ∈ r.settings.features, f.needsGateway = false := by decide +kernel
  have hAlone : ∀ f ∈ r.settings.features, ∀ c ∈ f.linked,
      r.settings.groupOf? c.groupMember = none := by decide +kernel
  have hForces : ∀ f ∈ r.settings.features, ∀ c ∈ f.experiments, c.ForcesUnaided := by
    decide +kernel
  have hDevice : AttributeProvider.inIndia.device r.user = r.evaluator.provider.device r.user := rfl
  have hServed : (r.served .inIndia).answer m = r.answer m :=
    answer_served hReady hKnown (hNeeds f hFeature) (hAlone f hFeature) (hForces f hFeature)
      hDevice m
  exact ⟨hReady, ⟨f, hKnown, hNeeds f hFeature, hAlone f hFeature, hForces f hFeature⟩, hDevice,
    by decide +kernel, hServed⟩

/-- Where the variation is forced on users in India, a feature without mark is answered by where the
user is. -/
theorem forcing_in_india :
    let r := english .forcingIndia
    let m : Memory := ⟨some {}, ⟨0, 0, []⟩⟩
    r.settings.Ready ∧ (∀ f ∈ r.settings.features, f.needsGateway = false ∧
        ∀ c ∈ f.linked, r.settings.groupOf? c.groupMember = none) ∧
      AttributeProvider.inIndia.device r.user = r.evaluator.provider.device r.user ∧
      (r.answer m).1.detail.reason = .experiment 1 1 ∧
      ((r.served .inIndia).answer m).1.detail.reason = .whitelisted 1 1 :=
  have hReady : Settings.forcingIndia.Ready := ⟨⟨_, rfl, rfl⟩, by decide +kernel⟩
  ⟨hReady, by decide +kernel, rfl, by decide +kernel, by decide +kernel⟩

end Request

end FlagDecision
