import FlagDecision.Proofs.Writes

/-! The contest for a group. The features have their turns one after the other, and in the
turn of a feature the campaigns are heard that the group lists, experiments only if the
rollouts of the feature let the user through just then. From all who are heard the
winner is picked: those stored for the user come before those whom segment and traffic
let in, one who stands alone wins, and where priorities count the earliest one that
names anybody decides. That holds whatever happens in between, where asking for rollouts
may resolve further groups. -/
namespace FlagDecision

open Step Storage StoredDecision

/-- An entry of the priorities names a campaign, by its variation or as a whole. -/
def Campaign.isNamedBy (c : Campaign) (entry : GroupMember) : Bool :=
  entry == c.groupMember || entry == c.groupMember.plain

namespace Group

variable {g : Group} {groupId : Nat} {candidates : List Campaign} {userId : String}
  {entry : GroupMember}

/-- The earliest entry that names a candidate picks one that it names. -/
theorem prioritized?_of_earliest {priority : List GroupMember}
    (hEarliest : priority.find? (fun entry => candidates.any (·.isNamedBy entry)) = some entry) :
    ∃ c ∈ candidates, c.isNamedBy entry ∧ prioritized? priority candidates = some c := by
  obtain ⟨hAny, before, after, rfl, hBefore⟩ := List.find?_eq_some_iff_append.mp hEarliest
  obtain ⟨c, hFind⟩ : ∃ c, candidates.find? (·.isNamedBy entry) = some c :=
    Option.isSome_iff_exists.mp (List.find?_isSome.mpr (List.any_eq_true.mp hAny))
  refine ⟨c, List.mem_of_find?_eq_some hFind, (List.find?_eq_some_iff_append.mp hFind).1, ?_⟩
  refine List.findSome?_eq_some_iff.mpr ⟨before, entry, after, rfl, hFind, fun earlier hMem => ?_⟩
  have hNone : candidates.any (·.isNamedBy earlier) = false := by simpa using hBefore earlier hMem
  exact List.find?_eq_none.mpr fun d hd hNamed => List.any_eq_false.mp hNone d hd hNamed

/-- Among several candidates of a group that is not random, priorities come first. -/
theorem winner?_of_prioritized {c : Campaign} (hRandom : g.isRandom = false)
    (hSeveral : 2 ≤ candidates.length) (hFirst : prioritized? g.priority candidates = some c) :
    g.winner? groupId candidates userId = some c := by
  match candidates with
  | first :: second :: rest => simp [winner?, hRandom, hFirst]

end Group

/-- A campaign that is heard in a contest, with its feature and the progress in which it is
heard. -/
structure Candidacy where
  feature : Feature
  campaign : Campaign
  heardAt : Progress

namespace Candidacy

/-- The record of the feature names the campaign and one of its variations, in the part for its
kind. -/
def isStored (q : Inquiry) (e : Candidacy) : Bool :=
  (q.storedDecision? e.heardAt.storage e.feature.key).any (Inquiry.isStoredFor · e.campaign)

/-- The own segment of the campaign and its traffic let the user in. -/
def isEligible (q : Inquiry) (e : Candidacy) : Bool :=
  ((q.preSegmentation e.feature e.campaign).run e.heardAt).1 && e.campaign.isMember q.user.id

end Candidacy

namespace Inquiry

variable {q : Inquiry} {p : Progress} {guard : Guard Step} {f : Feature} {g : Group}

/-- At some progress the rollouts of a feature decide for the user, or it has none. -/
def letsThrough (q : Inquiry) (guard : Guard Step) (f : Feature) (p : Progress) : Bool :=
  !f.hasRollout || ((q.rolloutDecision guard f).run p).1.isSome

/-- The campaigns of a feature that compete for a group, where its turn comes at some progress: the
rollouts that the group lists, and the experiments if the feature lets the user through then. -/
def calledUp (q : Inquiry) (guard : Guard Step) (g : Group) (f : Feature) (p : Progress) :
    List Campaign :=
  let listed := f.linked.filter g.contains
  listed.filter (·.kind == .rollout) ++
    if q.letsThrough guard f p then listed.filter (·.kind != .rollout) else []

/-- Campaigns of a feature that are heard one after the other, from some progress on. -/
def hearing (q : Inquiry) (f : Feature) : List Campaign → Progress → List Candidacy
  | [], _ => []
  | c :: rest, p =>
    let stored := q.storedDecision? p.storage f.key
    ⟨f, c, p⟩ :: q.hearing f rest ((q.enter f stored {} [c]).run p).2

/-- Those heard in the turn of a feature, after its rollouts were asked for. -/
def turn (q : Inquiry) (guard : Guard Step) (g : Group) (f : Feature) (p : Progress) :
    List Candidacy :=
  let listed := f.linked.filter g.contains
  q.hearing f (q.calledUp guard g f p) ((q.competitors guard f listed).run p).2

/-- Those heard in a contest. The turn of each feature comes at the progress in which the contest
over the features before it ends. -/
def heard (q : Inquiry) (guard : Guard Step) (g : Group) : List Feature → Progress → List Candidacy
  | [], _ => []
  | f :: rest, p =>
    q.turn guard g f p ++ q.heard guard g rest ((q.contest guard g {} [f]).run p).2

/-- Those among whom the winner is picked: who is stored, or else who is eligible. -/
def standing (q : Inquiry) (heard : List Candidacy) : List Candidacy :=
  if heard.any (·.isStored q) then heard.filter (·.isStored q)
  else heard.filter (·.isEligible q)

/-- A contest after some more were heard. -/
def Contest.after (q : Inquiry) (done : Contest) (heard : List Candidacy) : Contest where
  stored := done.stored ++ (heard.filter (·.isStored q)).map (·.campaign)
  eligible := done.eligible ++
    (heard.filter fun e => !e.isStored q && e.isEligible q).map (·.campaign)

section After

variable (q) (done : Contest) (heard heard' : List Candidacy) {e : Candidacy}

@[simp] theorem Contest.after_nil : done.after q [] = done := by
  simp [Contest.after]

theorem Contest.after_append :
    done.after q (heard ++ heard') = (done.after q heard).after q heard' := by
  simp [Contest.after]

theorem Contest.after_stored (hStored : e.isStored q = true) :
    done.after q (e :: heard) =
      Contest.after q { done with stored := done.stored ++ [e.campaign] } heard := by
  simp [Contest.after, hStored]

theorem Contest.after_eligible (hStored : e.isStored q = false)
    (hEligible : e.isEligible q = true) :
    done.after q (e :: heard) =
      Contest.after q { done with eligible := done.eligible ++ [e.campaign] } heard := by
  simp [Contest.after, hStored, hEligible]

theorem Contest.after_excluded (hStored : e.isStored q = false)
    (hEligible : e.isEligible q = false) : done.after q (e :: heard) = done.after q heard := by
  simp [Contest.after, hStored, hEligible]

end After

/-- The winner is picked among those who stand. -/
theorem Contest.candidates_after (q : Inquiry) (heard : List Candidacy) :
    (Contest.after q {} heard).candidates = (q.standing heard).map (·.campaign) := by
  rw [Contest.candidates, standing]
  cases hAny : heard.any (·.isStored q) with
  | true =>
      obtain ⟨e, hMem, hStored⟩ := List.any_eq_true.mp hAny
      have hSome : (heard.filter (·.isStored q)).isEmpty = false := by
        simpa using ⟨e, hMem, hStored⟩
      simp [Contest.after, hSome]
  | false =>
      have hNone : ∀ e ∈ heard, e.isStored q = false := by simpa using hAny
      have hEligible : heard.filter (fun e => !e.isStored q && e.isEligible q) =
          heard.filter (·.isEligible q) :=
        List.filter_congr fun e hMem => by simp [hNone e hMem]
      have hStored : heard.filter (·.isStored q) = [] := by simpa using hNone
      simp [Contest.after, hEligible, hStored]

theorem enter_then (stored : Option StoredDecision) (done : Contest) (c : Campaign)
    (rest : List Campaign) :
    q.enter f stored done (c :: rest) =
      q.enter f stored done [c] >>= fun done => q.enter f stored done rest := by
  rw [enter, enter]
  split
  · rw [enter, pure_bind]
  · rw [bind_assoc]
    refine bind_congr fun passed => ?_
    split
    · rw [enter, pure_bind]
    · rw [enter, pure_bind]

/-- A campaign that enters a contest is heard in it. How the contest stands does not matter for what
happens then. -/
theorem enter_single (f : Feature) (c : Campaign) (p : Progress) :
    ∃ p', p'.storage = p.storage ∧ ∀ done,
      (q.enter f (q.storedDecision? p.storage f.key) done [c]).run p =
        (done.after q [⟨f, c, p⟩], p') := by
  have hKept : (q.storedDecision? p.storage f.key).any (isStoredFor · c) =
      Candidacy.isStored q ⟨f, c, p⟩ := rfl
  cases hStored : Candidacy.isStored q ⟨f, c, p⟩ with
  | true =>
      refine ⟨p, rfl, fun done => ?_⟩
      rw [enter, hKept, if_pos hStored, Contest.after_stored q done [] hStored,
        Contest.after_nil, enter]
      rfl
  | false =>
      rcases hAsked : (q.preSegmentation f c).run p with ⟨passed, p₁⟩
      have hEligible : Candidacy.isEligible q ⟨f, c, p⟩ = (passed && c.isMember q.user.id) := by
        rw [Candidacy.isEligible, hAsked]
      have hStorage : ((q.preSegmentation f c).run p).2.storage = p.storage := rfl
      rw [hAsked] at hStorage
      refine ⟨p₁, hStorage, fun done => ?_⟩
      rw [enter, hKept, if_neg (Bool.eq_false_iff.mp hStored), Step.run_bind_of hAsked,
        ← hEligible]
      split
      · rename_i hIn
        rw [Contest.after_eligible q done [] hStored hIn, Contest.after_nil, enter]
        rfl
      · rename_i hOut
        rw [Contest.after_excluded q done [] hStored (Bool.eq_false_iff.mpr hOut),
          Contest.after_nil, enter]
        rfl

/-- Checks do not touch the storage, so the record of the feature says the same of all its
campaigns. -/
theorem enter_hearing (f : Feature) (campaigns : List Campaign) (p : Progress) :
    ∃ p', ∀ done, (q.enter f (q.storedDecision? p.storage f.key) done campaigns).run p =
      (done.after q (q.hearing f campaigns p), p') := by
  induction campaigns generalizing p with
  | nil => exact ⟨p, fun done => by rw [hearing, Contest.after_nil, enter]; rfl⟩
  | cons c rest ih =>
      obtain ⟨p₁, hStorage, hFirst⟩ := enter_single (q := q) f c p
      obtain ⟨p', hRest⟩ := ih p₁
      rw [hStorage] at hRest
      refine ⟨p', fun done => ?_⟩
      rw [enter_then, Step.run_bind_of (hFirst done), hRest, ← Contest.after_append, hearing,
        hFirst]
      rfl

theorem isClosed_letsThrough (guard : Guard Step) (f : Feature) (p : Progress) :
    (q.isClosed guard f).Ensures p fun closed _ => closed = !q.letsThrough guard f p := by
  rw [isClosed, letsThrough]
  cases f.hasRollout with
  | false => exact Ensures.pure rfl
  | true =>
      have hAsked : (q.rolloutDecision guard f).Ensures p fun choice _ =>
          ((q.rolloutDecision guard f).run p).1 = choice := rfl
      exact hAsked.bind fun choice p₁ hChoice => Ensures.pure (by simp [hChoice])

/-- Rollouts that are listed always compete, experiments exactly if the feature lets the user
through. -/
theorem competitors_calledUp (guard : Guard Step) (g : Group) (f : Feature) (p : Progress) :
    ((q.competitors guard f (f.linked.filter g.contains)).run p).1 = q.calledUp guard g f p := by
  have hCompete : (q.competitors guard f (f.linked.filter g.contains)).Ensures p fun found _ =>
      found = q.calledUp guard g f p := by
    rw [competitors, calledUp]
    split
    · rename_i hNone
      exact Ensures.pure (by simp [List.isEmpty_iff.mp hNone])
    · refine (isClosed_letsThrough guard f p).bind fun closed p₁ hClosed => ?_
      rw [hClosed]
      cases q.letsThrough guard f p with
      | true => exact Ensures.pure rfl
      | false => exact Ensures.pure (by simp)
  exact hCompete

theorem contest_then (guard : Guard Step) (g : Group) (done : Contest) (f : Feature)
    (rest : List Feature) :
    q.contest guard g done (f :: rest) =
      q.contest guard g done [f] >>= fun done => q.contest guard g done rest := by
  rw [contest, contest]
  split
  · rw [contest, pure_bind]
  · simp only [bind_assoc, contest, pure_bind]

/-- The turn of a feature in a contest. How the contest stands does not matter for what happens. -/
theorem contest_turn (guard : Guard Step) (g : Group) (f : Feature) (p : Progress) :
    ∃ p', ∀ done, (q.contest guard g done [f]).run p =
      (done.after q (q.turn guard g f p), p') := by
  cases hListed : (f.linked.filter g.contains).isEmpty with
  | true =>
      have hNone : f.linked.filter g.contains = [] := List.isEmpty_iff.mp hListed
      refine ⟨p, fun done => ?_⟩
      have hNobody : q.calledUp guard g f p = [] := by simp [calledUp, hNone]
      rw [contest, if_pos hListed, turn, hNobody, hearing, Contest.after_nil, contest]
      rfl
  | false =>
      rcases hCalled : (q.competitors guard f (f.linked.filter g.contains)).run p with
        ⟨campaigns, p₁⟩
      obtain ⟨p', hHeard⟩ := enter_hearing (q := q) f campaigns p₁
      refine ⟨p', fun done => ?_⟩
      have hKnows : (get : Step Progress).run p₁ = (p₁, p₁) := rfl
      rw [contest, if_neg (by simp [hListed]), Step.run_bind_of hCalled, Step.liftM_eq,
        Step.run_bind_of hKnows, Step.liftM_eq, Step.run_bind_of (hHeard done), turn,
        ← competitors_calledUp, hCalled, contest]
      rfl

theorem contest_heard (guard : Guard Step) (g : Group) (features : List Feature) (p : Progress) :
    ∃ p', ∀ done, (q.contest guard g done features).run p =
      (done.after q (q.heard guard g features p), p') := by
  induction features generalizing p with
  | nil => exact ⟨p, fun done => by rw [heard, Contest.after_nil, contest]; rfl⟩
  | cons f rest ih =>
      obtain ⟨p₁, hTurn⟩ := contest_turn (q := q) guard g f p
      obtain ⟨p', hRest⟩ := ih p₁
      refine ⟨p', fun done => ?_⟩
      rw [contest_then, Step.run_bind_of (hTurn done), hRest, ← Contest.after_append, heard, hTurn]

/-- Those heard in the search for the winner of a group; a group that is not defined has none. -/
def heardFor (q : Inquiry) (depth : Nat) (busy : List Nat) (groupId : Nat) (p : Progress) :
    List Candidacy :=
  match q.settings.group? groupId with
  | none => []
  | some g =>
    let guard : Guard Step := ⟨pure (groupId :: busy), q.resolveGroup depth (groupId :: busy)⟩
    q.heard guard g q.settings.features p

variable {heard : List Candidacy}

/-- What the search for the winner of a group comes to, where some candidates are heard. -/
structure Fair (q : Inquiry) (groupId : Nat) (heard : List Candidacy) (p : Progress)
    (winner : Option GroupMember) (p' : Progress) : Prop where
  valid : ∀ m, winner = some m →
    ∃ e ∈ heard, e.campaign.groupMember = m ∧ (e.isStored q ∨ e.isEligible q)
  storedFirst : ∀ m, winner = some m → (∃ e ∈ heard, e.isStored q) →
    ∃ e ∈ heard, e.campaign.groupMember = m ∧ e.isStored q
  alone : ∀ e, q.standing heard = [e] → winner = some e.campaign.groupMember
  prioritized : ∀ g, q.settings.group? groupId = some g → g.isRandom = false →
    2 ≤ (q.standing heard).length → ∀ entry,
      g.priority.find? (fun entry => (q.standing heard).any (·.campaign.isNamedBy entry)) =
        some entry →
      ∃ e ∈ q.standing heard, e.campaign.isNamedBy entry ∧ winner = some e.campaign.groupMember
  nobody : (∀ e ∈ heard, e.isStored q = false ∧ e.isEligible q = false) → winner = none
  unrecorded : winner = none →
    recordOf p'.storage (groupKey groupId q.user.id) =
      recordOf p.storage (groupKey groupId q.user.id) ∧
    ∃ new, p'.writes = p.writes ++ new ∧ ∀ write ∈ new, write.1 ≠ groupKey groupId q.user.id

theorem mem_standing {e : Candidacy} (h : e ∈ q.standing heard) :
    e ∈ heard ∧ (e.isStored q ∨ e.isEligible q) ∧
      ((∃ e ∈ heard, e.isStored q) → e.isStored q) := by
  rw [standing] at h
  split at h
  · have hKept := List.mem_filter.mp h
    exact ⟨hKept.1, Or.inl hKept.2, fun _ => hKept.2⟩
  · rename_i hNone
    have hKept := List.mem_filter.mp h
    refine ⟨hKept.1, Or.inr hKept.2, fun hSome => ?_⟩
    exact absurd (List.any_eq_true.mpr hSome) hNone

theorem standing_nil (h : ∀ e ∈ heard, e.isStored q = false ∧ e.isEligible q = false) :
    q.standing heard = [] := by
  refine List.eq_nil_iff_forall_not_mem.mpr fun e he => ?_
  obtain ⟨hMem, hStands, -⟩ := mem_standing he
  simp [h e hMem] at hStands

/-- A search that finds nobody writes no record for its group. -/
theorem Searched.unrecorded {busy : List Nat} {groupId : Nat} {p' : Progress}
    (h : q.Searched busy groupId p none p') :
    recordOf p'.storage (groupKey groupId q.user.id) =
        recordOf p.storage (groupKey groupId q.user.id) ∧
      ∃ new, p'.writes = p.writes ++ new ∧ ∀ write ∈ new, write.1 ≠ groupKey groupId q.user.id := by
  obtain ⟨search⟩ := h
  obtain ⟨won, hWon⟩ := search.exists_won
  refine ⟨search.recordOf_eq fun g hKey => Or.inl ?_, _, hWon.writes, fun write hWrite hKey => ?_⟩
  · obtain ⟨rfl, -⟩ := groupKey_inj hKey
    exact List.mem_cons_self
  · obtain ⟨⟨g, c⟩, hMem, rfl⟩ := List.mem_map.mp hWrite
    obtain ⟨rfl, -⟩ := groupKey_inj hKey
    exact (hWon.unsettled g c hMem).notBusy List.mem_cons_self

/-- The winner is picked by the group among those who stand. -/
theorem resolveGroup_picks (q : Inquiry) (depth : Nat) (busy : List Nat) (groupId : Nat)
    (p : Progress) :
    (q.resolveGroup (depth + 1) busy groupId).Ensures p fun winner _ =>
      winner = (q.settings.group? groupId).bind fun g =>
        (g.winner? groupId ((q.standing (q.heardFor depth busy groupId p)).map (·.campaign))
          q.user.id).map (·.groupMember) := by
  rw [resolveGroup, winnerOf, heardFor]
  cases q.settings.group? groupId with
  | none => exact Ensures.pure rfl
  | some g =>
      obtain ⟨p', hHeard⟩ := contest_heard (q := q)
        ⟨pure (groupId :: busy), q.resolveGroup depth (groupId :: busy)⟩ g q.settings.features p
      dsimp only
      rw [Step.Ensures, Step.run_bind_of (hHeard {}), Step.liftM_eq, elect,
        Contest.candidates_after, Option.bind_some]
      split
      · rename_i hNobody
        rw [hNobody]
        rfl
      · rename_i c hWinner
        rw [hWinner]
        rfl

/-- A winner that the group picks among those who stand is found fairly. -/
theorem Searched.fair {busy : List Nat} {groupId : Nat} {winner : Option GroupMember}
    {p' : Progress} (h : q.Searched busy groupId p winner p')
    (hDefined : q.settings.group? groupId = none → heard = [])
    (hPicks : winner = (q.settings.group? groupId).bind fun g =>
      (g.winner? groupId ((q.standing heard).map (·.campaign)) q.user.id).map (·.groupMember)) :
    q.Fair groupId heard p winner p' := by
  have hStands : ∀ m, winner = some m → ∃ e ∈ q.standing heard, e.campaign.groupMember = m := by
    intro m hWinner
    rw [hPicks] at hWinner
    obtain ⟨g, -, hGiven⟩ := Option.bind_eq_some_iff.mp hWinner
    obtain ⟨c, hPicked, rfl⟩ := Option.map_eq_some_iff.mp hGiven
    obtain ⟨e, he, rfl⟩ := List.mem_map.mp (Group.winner?_mem hPicked)
    exact ⟨e, he, rfl⟩
  constructor
  case valid =>
    intro m hWinner
    obtain ⟨e, he, hMember⟩ := hStands m hWinner
    exact ⟨e, (mem_standing he).1, hMember, (mem_standing he).2.1⟩
  case storedFirst =>
    intro m hWinner hSome
    obtain ⟨e, he, hMember⟩ := hStands m hWinner
    exact ⟨e, (mem_standing he).1, hMember, (mem_standing he).2.2 hSome⟩
  case alone =>
    intro e hAlone
    rw [hPicks, hAlone]
    cases hGroup : q.settings.group? groupId with
    | none => simp [hDefined hGroup, standing] at hAlone
    | some g => rfl
  case prioritized =>
    intro g hGroup hRandom hSeveral entry hEarliest
    have hNames : g.priority.find? (fun entry =>
        ((q.standing heard).map (·.campaign)).any (·.isNamedBy entry)) = some entry := by
      simpa [List.any_map, Function.comp_def] using hEarliest
    obtain ⟨c, hMem, hNamed, hPicked⟩ := Group.prioritized?_of_earliest hNames
    obtain ⟨e, he, rfl⟩ := List.mem_map.mp hMem
    refine ⟨e, he, hNamed, ?_⟩
    rw [hPicks, hGroup, Option.bind_some,
      Group.winner?_of_prioritized hRandom (by simpa using hSeveral) hPicked, Option.map_some]
  case nobody =>
    intro hNone
    rw [hPicks, standing_nil hNone]
    cases q.settings.group? groupId <;> rfl
  case unrecorded =>
    rintro rfl
    exact h.unrecorded

/-- The winner of a group is found fairly among the campaigns that are heard for it, whatever is
stored, whichever groups are being resolved around it, and whatever is found out about other groups
on the way. -/
theorem resolveGroup_fair (q : Inquiry) (depth : Nat) (busy : List Nat) (groupId : Nat)
    (p : Progress) :
    (q.resolveGroup (depth + 1) busy groupId).Ensures p
      (q.Fair groupId (q.heardFor depth busy groupId p) p) := by
  have hSearched : (q.resolveGroup (depth + 1) busy groupId).Ensures p
      (q.Searched busy groupId p) := (resolveGroup_follows (depth + 1) busy).searched groupId p
  refine (hSearched.and (resolveGroup_picks q depth busy groupId p)).imp fun winner p' h => ?_
  exact h.1.fair (fun hUndefined => by simp only [heardFor, hUndefined]) h.2

end Inquiry

end FlagDecision
