import FlagDecision.Proofs.Linking
import FlagDecision.Proofs.Targeting

/-! The rules as a matter of what is known. Once the winners of some groups are known,
whether a rollout passes, who competes for a group and who wins it either follow or
are open. The search follows them step by step, but they do not say in which order
the groups were searched. -/
namespace FlagDecision

open Inquiry

/-- What the rules can be judged by: an inquiry, the storage that it begins with, and the winners
of groups as far as they are known. -/
structure Outlook where
  inquiry : Inquiry
  storage : Option Storage
  winners : Nat → Option (Option GroupMember)

namespace Outlook

/-- A campaign passes. This is open where its own segment holds while the winner of its group is
not known. -/
def passes? (o : Outlook) (f : Feature) (c : Campaign) : Option Bool :=
  match o.inquiry.settings.groupOf? c.groupMember with
  | some g =>
    if o.inquiry.targets o.storage f c then (o.winners g).map (· == some c.groupMember)
    else some false
  | none => some (o.inquiry.targets o.storage f c)

/-- The first of some campaigns that passes. -/
def firstPassing? (o : Outlook) (f : Feature) : List Campaign → Option (Option Campaign)
  | [] => some none
  | c :: rest => (o.passes? f c).bind fun passed =>
    if passed then some (some c) else o.firstPassing? f rest

/-- What traffic makes of the rollout that passes. -/
def allotted? (o : Outlook) (passing : Option Campaign) : Option Choice :=
  passing.bind fun c =>
    (c.allot? o.inquiry.settings.accountId o.inquiry.user.id).map (c, ·)

/-- The rollouts of a feature let the user through. -/
def isOpen? (o : Outlook) (f : Feature) : Option Bool :=
  if f.hasRollout then (o.firstPassing? f f.rollouts).map fun found => (o.allotted? found).isSome
  else some true

/-- Those listed campaigns of a feature that compete. -/
def competitors? (o : Outlook) (f : Feature) (listed : List Campaign) : Option (List Campaign) :=
  let rollouts := listed.filter (·.kind == .rollout)
  let experiments := listed.filter (·.kind != .rollout)
  if experiments.isEmpty then some rollouts
  else (o.isOpen? f).map fun isOpen => if isOpen then rollouts ++ experiments else rollouts

/-- The decision stored for a feature names a campaign. -/
def isStored (o : Outlook) (f : Feature) (c : Campaign) : Bool :=
  (o.inquiry.storedDecision? o.storage f.key).any (isStoredFor · c)

/-- A campaign lets the user in: by its own segment and its traffic. -/
def admits (o : Outlook) (f : Feature) (c : Campaign) : Bool :=
  o.inquiry.targets o.storage f c && c.isMember o.inquiry.user.id

/-- Some campaigns of a feature enter the contest. -/
def enter (o : Outlook) (f : Feature) (done : Contest) (campaigns : List Campaign) : Contest where
  stored := done.stored ++ campaigns.filter (o.isStored f)
  eligible := done.eligible ++ campaigns.filter fun c => !o.isStored f c && o.admits f c

/-- The contest for a group over some features. -/
def contest? (o : Outlook) (g : Group) : Contest → List Feature → Option Contest
  | done, [] => some done
  | done, f :: rest =>
    let listed := f.linked.filter g.contains
    if listed.isEmpty then o.contest? g done rest
    else (o.competitors? f listed).bind fun campaigns =>
      o.contest? g (o.enter f done campaigns) rest

/-- The campaign that wins a group; none does where the group is not defined. -/
def champion? (o : Outlook) (groupId : Nat) : Option (Option Campaign) :=
  match o.inquiry.settings.group? groupId with
  | none => some none
  | some g => (o.contest? g {} o.inquiry.settings.features).map fun found =>
    g.winner? groupId found.candidates o.inquiry.user.id

/-- The winner of a group. -/
def winner? (o : Outlook) (groupId : Nat) : Option (Option GroupMember) :=
  (o.champion? groupId).map (·.map (·.groupMember))

end Outlook

namespace Outlook

variable {o : Outlook} {f : Feature} {c : Campaign}

theorem targets_of_passes (h : o.passes? f c = some true) :
    o.inquiry.targets o.storage f c = true := by
  rw [passes?] at h
  split at h
  · split at h
    · assumption
    · simp at h
  · exact Option.some.inj h

theorem targets_of_firstPassing {campaigns : List Campaign}
    (h : o.firstPassing? f campaigns = some (some c)) : o.inquiry.targets o.storage f c = true := by
  induction campaigns with
  | nil => simp [firstPassing?] at h
  | cons d rest ih =>
      obtain ⟨passed, hPassed, hRest⟩ := Option.bind_eq_some_iff.mp h
      cases passed with
      | false => exact ih hRest
      | true =>
          obtain rfl : d = c := by simpa using hRest
          exact targets_of_passes hPassed

/-- A campaign competes for a group: it is linked and listed, and an experiment has open rollouts
before it. -/
structure Competes (o : Outlook) (g : Group) (f : Feature) (c : Campaign) : Prop where
  linked : c ∈ f.linked
  contains : g.contains c = true
  isOpen : c.kind ≠ .rollout → o.isOpen? f = some true

theorem competes_of_competitors {g : Group} {campaigns : List Campaign}
    (h : o.competitors? f (f.linked.filter g.contains) = some campaigns) (hc : c ∈ campaigns) :
    o.Competes g f c := by
  have hRollouts : ∀ c ∈ (f.linked.filter g.contains).filter (·.kind == .rollout),
      o.Competes g f c := by
    intro c hc
    obtain ⟨hListed, hKind⟩ := List.mem_filter.mp hc
    obtain ⟨hLinked, hContains⟩ := List.mem_filter.mp hListed
    exact ⟨hLinked, hContains, fun hOther => absurd (eq_of_beq hKind) hOther⟩
  rw [competitors?] at h
  split at h
  · exact hRollouts c (Option.some.inj h ▸ hc)
  · obtain ⟨isOpen, hOpen, rfl⟩ := Option.map_eq_some_iff.mp h
    split at hc
    · rename_i hOn
      rcases List.mem_append.mp hc with hc | hc
      · exact hRollouts c hc
      · obtain ⟨hLinked, hContains⟩ := List.mem_filter.mp (List.mem_of_mem_filter hc)
        exact ⟨hLinked, hContains, fun _ => hOn ▸ hOpen⟩
    · exact hRollouts c hc

/-- Who is found in a contest competes, and is stored or admitted. -/
theorem competes_of_contest {g : Group} {features : List Feature} {done found : Contest}
    (h : o.contest? g done features = some found) :
    (∀ c ∈ found.stored, c ∈ done.stored ∨
      ∃ f ∈ features, o.Competes g f c ∧ o.isStored f c = true) ∧
    (∀ c ∈ found.eligible, c ∈ done.eligible ∨
      ∃ f ∈ features, o.Competes g f c ∧ o.admits f c = true) := by
  induction features generalizing done with
  | nil =>
      obtain rfl : done = found := Option.some.inj h
      exact ⟨fun c hc => Or.inl hc, fun c hc => Or.inl hc⟩
  | cons f rest ih =>
      have hLater : ∀ {P : Feature → Prop}, (∃ e ∈ rest, P e) → ∃ e ∈ f :: rest, P e := by
        rintro P ⟨e, he, hP⟩
        exact ⟨e, List.mem_cons_of_mem _ he, hP⟩
      rw [contest?] at h
      split at h
      · exact ⟨fun c hc => ((ih h).1 c hc).imp_right hLater,
          fun c hc => ((ih h).2 c hc).imp_right hLater⟩
      · obtain ⟨campaigns, hCampaigns, hRest⟩ := Option.bind_eq_some_iff.mp h
        obtain ⟨hStored, hEligible⟩ := ih hRest
        refine ⟨fun c hc => ?_, fun c hc => ?_⟩
        · rcases hStored c hc with hNow | hAfter
          · rcases List.mem_append.mp hNow with hBefore | hNew
            · exact Or.inl hBefore
            · obtain ⟨hIn, hIs⟩ := List.mem_filter.mp hNew
              exact Or.inr ⟨f, List.mem_cons_self, competes_of_competitors hCampaigns hIn, hIs⟩
          · exact Or.inr (hLater hAfter)
        · rcases hEligible c hc with hNow | hAfter
          · rcases List.mem_append.mp hNow with hBefore | hNew
            · exact Or.inl hBefore
            · obtain ⟨hIn, hIs⟩ := List.mem_filter.mp hNew
              refine Or.inr ⟨f, List.mem_cons_self, competes_of_competitors hCampaigns hIn, ?_⟩
              exact (Bool.and_eq_true_iff.mp hIs).2
          · exact Or.inr (hLater hAfter)

/-- Who stands for election competes: stored, or admitted where nobody is stored. -/
theorem competes_of_candidate {g : Group} {features : List Feature} {found : Contest}
    (h : o.contest? g {} features = some found) (hc : c ∈ found.candidates) :
    ∃ f ∈ features, o.Competes g f c ∧
      (if found.stored.isEmpty then o.admits f c else o.isStored f c) = true := by
  obtain ⟨hStored, hEligible⟩ := competes_of_contest h
  rw [Contest.candidates] at hc
  split at hc
  · rename_i hEmpty
    simp only [if_pos hEmpty]
    exact (hEligible c hc).resolve_left (by simp)
  · rename_i hSome
    simp only [if_neg hSome]
    exact (hStored c hc).resolve_left (by simp)

theorem contest_of_champion {groupId : Nat} {g : Group} {winner : Option Campaign}
    (hGroup : o.inquiry.settings.group? groupId = some g) (h : o.champion? groupId = some winner) :
    ∃ found, o.contest? g {} o.inquiry.settings.features = some found ∧
      g.winner? groupId found.candidates o.inquiry.user.id = winner := by
  rw [champion?] at h
  simp only [hGroup] at h
  exact Option.map_eq_some_iff.mp h

theorem group_of_champion {groupId : Nat} (h : o.champion? groupId = some (some c)) :
    ∃ g, o.inquiry.settings.group? groupId = some g := by
  rw [champion?] at h
  split at h
  · simp at h
  · exact ⟨_, by assumption⟩

end Outlook

/-- A relation between partial answers that sees only through them: answers that are there are
related to themselves, and what follows from related answers is related. -/
structure Lifts (R : ∀ {α : Type}, Option α → Option α → Prop) : Prop where
  known : ∀ {α : Type} (a : α), R (some a) (some a)
  bind : ∀ {α β : Type} {x x' : Option α} {k k' : α → Option β}, R x x' →
    (∀ a, R (k a) (k' a)) → R (x.bind k) (x'.bind k')

/-- What one answer says the other says too. -/
def Extends {α : Type} (x x' : Option α) : Prop := ∀ a, x = some a → x' = some a

/-- Two answers do not contradict each other. -/
def Agrees {α : Type} (x x' : Option α) : Prop := ∀ a a', x = some a → x' = some a' → a = a'

theorem extends_lifts : Lifts Extends := by
  refine ⟨fun _ _ h => h, fun hx hk b h => ?_⟩
  obtain ⟨a, ha, hb⟩ := Option.bind_eq_some_iff.mp h
  exact Option.bind_eq_some_iff.mpr ⟨a, hx a ha, hk a b hb⟩

theorem agrees_lifts : Lifts Agrees := by
  refine ⟨fun _ _ _ h h' => Option.some.inj (h.symm.trans h'), fun hx hk b b' h h' => ?_⟩
  obtain ⟨a, ha, hb⟩ := Option.bind_eq_some_iff.mp h
  obtain ⟨a', ha', hb'⟩ := Option.bind_eq_some_iff.mp h'
  obtain rfl := hx a a' ha ha'
  exact hk a b b' hb hb'

theorem Lifts.map {R : ∀ {α : Type}, Option α → Option α → Prop} (hR : Lifts R) {α β : Type}
    {x x' : Option α} (hx : R x x') (k : α → β) : R (x.map k) (x'.map k) := by
  rw [Option.map_eq_bind, Option.map_eq_bind]
  exact hR.bind hx fun a => hR.known (k a)

namespace Outlook

section Lifts

variable {R : ∀ {α : Type}, Option α → Option α → Prop} {o o' : Outlook} {f : Feature}

/-- Two outlooks for one user under the same settings. -/
structure Comparable (o o' : Outlook) : Prop where
  settings : o.inquiry.settings = o'.inquiry.settings
  user : o.inquiry.user = o'.inquiry.user

theorem firstPassing_lifts (hR : Lifts R) {campaigns : List Campaign}
    (hPasses : ∀ c ∈ campaigns, R (o.passes? f c) (o'.passes? f c)) :
    R (o.firstPassing? f campaigns) (o'.firstPassing? f campaigns) := by
  induction campaigns with
  | nil => exact hR.known none
  | cons c rest ih =>
      refine hR.bind (hPasses c List.mem_cons_self) fun passed => ?_
      split
      · exact hR.known (some c)
      · exact ih fun d hd => hPasses d (List.mem_cons_of_mem _ hd)

theorem isOpen_lifts (hR : Lifts R) (hSame : o.Comparable o')
    (hPasses : ∀ c ∈ f.rollouts, R (o.passes? f c) (o'.passes? f c)) :
    R (o.isOpen? f) (o'.isOpen? f) := by
  rw [isOpen?, isOpen?]
  split
  · have hAllot : o.allotted? = o'.allotted? := by
      funext passing
      rw [allotted?, allotted?, hSame.settings, hSame.user]
    rw [hAllot]
    exact hR.map (firstPassing_lifts hR hPasses) _
  · exact hR.known true

theorem competitors_lifts (hR : Lifts R) (hSame : o.Comparable o') {listed : List Campaign}
    (hPasses : (∃ e ∈ listed, e.kind ≠ .rollout) →
      ∀ c ∈ f.rollouts, R (o.passes? f c) (o'.passes? f c)) :
    R (o.competitors? f listed) (o'.competitors? f listed) := by
  rw [competitors?, competitors?]
  split
  · exact hR.known _
  · rename_i hSome
    exact hR.map (isOpen_lifts hR hSame (hPasses (by simpa using hSome))) _

theorem passes_lifts (hR : Lifts R) (hSame : o.Comparable o') {c : Campaign}
    (hTargets : o.inquiry.targets o.storage f c = o'.inquiry.targets o'.storage f c)
    (hWinner : ∀ g, o.inquiry.settings.groupOf? c.groupMember = some g →
      R ((o.winners g).map (· == some c.groupMember))
        ((o'.winners g).map (· == some c.groupMember))) :
    R (o.passes? f c) (o'.passes? f c) := by
  rw [passes?, passes?, ← hSame.settings, ← hTargets]
  split
  · rename_i g hGroup
    split
    · exact hWinner g hGroup
    · exact hR.known false
  · exact hR.known _

theorem contest_lifts (hR : Lifts R) (hSame : o.Comparable o') {g : Group} {done : Contest}
    (hEnter : ∀ f done campaigns, o.enter f done campaigns = o'.enter f done campaigns)
    {features : List Feature}
    (hPasses : ∀ f ∈ features, (∃ e ∈ f.linked, g.contains e ∧ e.kind ≠ .rollout) →
      ∀ c ∈ f.rollouts, R (o.passes? f c) (o'.passes? f c)) :
    R (o.contest? g done features) (o'.contest? g done features) := by
  induction features generalizing done with
  | nil => exact hR.known done
  | cons f rest ih =>
      have hRest := fun e he => hPasses e (List.mem_cons_of_mem _ he)
      rw [contest?, contest?]
      split
      · exact ih hRest
      · refine hR.bind (competitors_lifts hR hSame fun hSome => ?_) fun campaigns => ?_
        · obtain ⟨e, he, hKind⟩ := hSome
          obtain ⟨hLinked, hContains⟩ := List.mem_filter.mp he
          exact hPasses f List.mem_cons_self ⟨e, hLinked, hContains, hKind⟩
        · rw [hEnter]
          exact ih hRest

end Lifts

end Outlook

/-- Looking for the winner of `g` asks for the winner of `h`: some feature has an experiment in `g`
and a rollout that belongs to `h`, which may be `g` itself. -/
def Settings.Asks (s : Settings) (g h : Nat) : Prop :=
  ∃ group f e c, s.group? g = some group ∧ f ∈ s.features ∧ e ∈ f.linked ∧ e.kind ≠ .rollout ∧
    group.contains e ∧ c ∈ f.rollouts ∧ s.groupOf? c.groupMember = some h

/-- Asking for winners on from a group comes to an end: it never comes back to a group that it has
met. A group that asks for itself is not grounded. -/
def Settings.Grounded (s : Settings) (g : Nat) : Prop := Acc (fun h g => s.Asks g h) g

theorem Settings.rivals_grounded (g : Nat) : Settings.rivals.Grounded g := by
  have hRollouts : ∀ f ∈ rivals.features, ∀ c ∈ f.rollouts,
      rivals.groupOf? c.groupMember = some 9 := by decide +kernel
  have hListed : ∀ group ∈ rivals.group? 9, ∀ f ∈ rivals.features, ∀ e ∈ f.linked,
      group.contains e → e.kind = .rollout := by decide +kernel
  have hEnd : rivals.Grounded 9 := by
    refine ⟨_, fun h ⟨group, f, e, _, hGroup, hFeature, hLinked, hKind, hContains, _⟩ => ?_⟩
    exact absurd (hListed group hGroup f hFeature e hLinked hContains) hKind
  refine ⟨_, fun h ⟨_, f, _, c, _, hFeature, _, _, _, hRollout, hOf⟩ => ?_⟩
  obtain rfl := Option.some.inj ((hRollouts f hFeature c hRollout).symm.trans hOf)
  exact hEnd

/-- Settings without ground: each of two groups has a rollout in it that comes before an experiment
in the other. -/
def Settings.crossed : Settings :=
  { accountId := 1
    campaigns := [.small .rollout 1, .small .ab 2, .small .ab 3, .small .rollout 4, .small .ab 5]
    features := [.small 1 "left" [1, 2], .small 2 "middle" [3], .small 3 "right" [4, 5]]
    groups := [(7, .small [2, 3, 4] [2, 3]), (8, .small [1, 5] [5])]
    campaignGroups := [(⟨2, none⟩, 7), (⟨3, none⟩, 7), (⟨4, none⟩, 7), (⟨1, none⟩, 8),
      (⟨5, none⟩, 8)] : Settings }.link

/-- Settings with a group that asks for itself: a rollout in it comes before an experiment in it. -/
def Settings.inward : Settings :=
  { accountId := 1
    campaigns := [.small .rollout 1, .small .ab 2, .small .ab 3, .small .ab 4, .small .ab 5,
      .small .ab 6]
    features := [.small 1 "inner" [1, 2, 3], .small 2 "left" [4, 5], .small 3 "right" [6]]
    groups := [(7, .small [1, 2, 4] [2]), (13, { Group.small [3, 5, 6] [] with algorithm := 1 })]
    campaignGroups := [(⟨1, none⟩, 7), (⟨2, none⟩, 7), (⟨4, none⟩, 7), (⟨3, none⟩, 13),
      (⟨5, none⟩, 13), (⟨6, none⟩, 13)] : Settings }.link

namespace Outlook

section Lifts

variable {R : ∀ {α : Type}, Option α → Option α → Prop} {o o' : Outlook}

/-- Who wins a group depends on the winners of the groups that it asks for. -/
theorem champion_lifts (hR : Lifts R) (hSame : o.Comparable o')
    (hTargets : ∀ f ∈ o.inquiry.settings.features, ∀ c ∈ f.rollouts,
      o.inquiry.targets o.storage f c = o'.inquiry.targets o'.storage f c)
    (hEnter : ∀ f done campaigns, o.enter f done campaigns = o'.enter f done campaigns) {g : Nat}
    (hWinners : ∀ h, o.inquiry.settings.Asks g h → ∀ m : GroupMember,
      R ((o.winners h).map (· == some m)) ((o'.winners h).map (· == some m))) :
    R (o.champion? g) (o'.champion? g) := by
  rw [champion?, champion?, ← hSame.settings, ← hSame.user]
  split
  · exact hR.known none
  · rename_i group hGroup
    refine hR.map (contest_lifts hR hSame hEnter
      fun f hFeature ⟨e, hLinked, hContains, hKind⟩ c hc =>
        passes_lifts hR hSame (hTargets f hFeature c hc) fun h hOf => ?_) _
    exact hWinners h ⟨group, f, e, c, hGroup, hFeature, hLinked, hKind, hContains, hc, hOf⟩ _

end Lifts

end Outlook

end FlagDecision
