import FlagDecision.Proofs.Linking
import FlagDecision.Proofs.Mirror

/-! What a failing storage changes for the user who asks. While a request is answered,
only winners of groups are written before its own decision. No plainly named feature is
stored where a group is, and a winner that was found is known from then on, so it is not
read again. So no answer reads what it has written, and it does not depend on whether
anything was. -/
namespace FlagDecision

open Step Storage StoredDecision

namespace Storage

/-- The storage with every write failing. -/
def withoutWrites (s : Storage) : Storage := { s with refusesWrites := true }

/-- The storage with every read failing. -/
def withoutReads (s : Storage) : Storage := { s with refusesReads := true }

end Storage

namespace Inquiry

variable {q : Inquiry} {p p' : Progress} {f : Feature} {g : Nat}

/-- What can still be read on both sides is the same: the decisions of features, and the winners of
groups that are not known yet. All else is the same but the storage and what was written to it. -/
structure ReadsAlike (q : Inquiry) (p p' : Progress) : Prop where
  desk : p'.desk = p.desk
  winners : p'.winners = p.winners
  rollouts : p'.rollouts = p.rollouts
  decisions : ∀ f ∈ q.settings.features,
    q.storedDecision? p'.storage f.key = q.storedDecision? p.storage f.key
  groups : ∀ g, p.winners.lookup g = none →
    q.storedWinner? p'.storage g = q.storedWinner? p.storage g

namespace ReadsAlike

theorem setting_eq (h : q.ReadsAlike p p') (f : Feature) :
    q.setting p'.storage f = q.setting p.storage f := by
  have hStuck : ∀ id, (q.settings.featureById? id).map (fun other =>
        (q.storedDecision? p'.storage other.key).isSome) =
      (q.settings.featureById? id).map fun other =>
        (q.storedDecision? p.storage other.key).isSome := by
    intro id
    cases hFound : q.settings.featureById? id with
    | none => rfl
    | some other => simp [h.decisions other (List.mem_of_find?_eq_some hFound)]
  simp only [setting, hStuck]

theorem holds (h : q.ReadsAlike p p') (f : Feature) (attributes : Attributes)
    (s : Option Segment) :
    (q.holds f attributes s).Together (q.holds f attributes s) p p' fun _ => q.ReadsAlike := by
  have hRun : (q.holds f attributes s).run p' =
      let checked := (Segment.holdsOrAbsent (q.setting p'.storage f) attributes s).run p'.desk
      (checked.1, { p' with desk := checked.2 }) := rfl
  rw [h.setting_eq f, h.desk] at hRun
  rw [Together, hRun]
  exact ⟨rfl, rfl, h.winners, h.rollouts, h.decisions, h.groups⟩

theorem know (h : q.ReadsAlike p p') (g : Nat) (winner : Option GroupMember) :
    q.ReadsAlike (p.knowing g winner) (p'.knowing g winner) := by
  refine ⟨h.desk, congrArg ((g, winner) :: ·) h.winners, h.rollouts, h.decisions, ?_⟩
  intro k hUnknown
  apply h.groups
  by_cases hSame : k = g
  · simp [Progress.knowing, hSame] at hUnknown
  · rwa [Progress.knowing, Table.lookup_cons_of_ne _ _ hSame] at hUnknown

/-- A winner is written where no feature is stored, for a group that is known from then on. -/
theorem crown (h : q.ReadsAlike p p') (hPlain : ∀ f ∈ q.settings.features, IsPlainKey f.key)
    (g : Nat) (c : Campaign) :
    q.ReadsAlike ((recorded (q.winnerRecord g c) p).knowing g c.groupMember)
      ((recorded (q.winnerRecord g c) p').knowing g c.groupMember) := by
  constructor
  · simp [Progress.knowing, h.desk]
  · simp [Progress.knowing, h.winners]
  · simp [Progress.knowing, h.rollouts]
  · intro f hFeature
    have hOther := (hPlain f hFeature).ne_groupFeatureKey g
    simp only [Progress.knowing]
    rw [storedDecision_recorded_of_ne rfl hOther, storedDecision_recorded_of_ne rfl hOther]
    exact h.decisions f hFeature
  · intro k hUnknown
    have hOther : k ≠ g := by
      intro hSame
      simp [Progress.knowing, hSame] at hUnknown
    simp only [Progress.knowing, recorded_winners] at hUnknown ⊢
    rw [Table.lookup_cons_of_ne _ _ hOther] at hUnknown
    rw [storedWinner_recorded_of_ne hOther, storedWinner_recorded_of_ne hOther]
    exact h.groups k hUnknown

end ReadsAlike

/-- A search does not see what it has written. -/
theorem readsAlike_mirror (hPlain : ∀ f ∈ q.settings.features, IsPlainKey f.key) :
    q.Mirror q q.ReadsAlike where
  settings := rfl
  userId := rfl
  winners h := h.winners
  rollouts h := h.rollouts
  storedWinner h := h.groups
  isStored h f hFeature c _ := by rw [h.decisions f hFeature]
  preSegmentation h f _ c _ := h.holds f _ _
  know h := h.know
  remember h key decided :=
    ⟨h.desk, h.winners, congrArg ((key, decided) :: ·) h.rollouts, h.decisions, h.groups⟩
  crown h := h.crown hPlain

end Inquiry

/-- Nobody who asks can tell two outcomes apart: they have the same result, reason and impressions,
and the same questions reached the list service. -/
def Outcome.LooksLike (o o' : Outcome) : Prop :=
  o.detail = o'.detail ∧ o.impressions = o'.impressions ∧ o.listCalls = o'.listCalls

namespace Request

variable {r : Request} {m m' : Memory}

/-- Of the memory, only the cache and the decisions that can be read before it matter to an
answer. -/
theorem answer_of_reads (hPlain : ∀ f ∈ r.settings.features, IsPlainKey f.key)
    (hCache : m'.cache = m.cache)
    (hReads : ∀ key, m'.decision? key r.user.id = m.decision? key r.user.id) :
    (r.answer m').1.LooksLike (r.answer m).1 := by
  have hStart : r.inquiry.ReadsAlike m.progress m'.progress := by
    constructor
    · exact congrArg (fun cache => (⟨cache, []⟩ : ListDesk)) hCache
    · rfl
    · rfl
    · exact fun f _ => hReads f.key
    · exact fun g _ => congrArg (·.bind (·.winner?)) (hReads (groupFeatureKey g))
  have hMirror : r.inquiry.Mirror r.inquiry r.inquiry.ReadsAlike :=
    Inquiry.readsAlike_mirror hPlain
  have hAlike := answer_alike hMirror.nothing_apart hStart rfl (by rw [hReads]) (by rw [hReads])
    fun hR f _ c _ => Inquiry.whitelisting_together rfl (fun h v _ => h.holds f _ v.segments) hR
  obtain ⟨hDetail, hImpressions, p, p', hEnd, hCalls, hCalls'⟩ := hAlike.looks rfl rfl hStart
  refine ⟨hDetail, hImpressions, ?_⟩
  rw [hCalls, hCalls', hEnd.desk]

/-- A storage that fails is not noticed. An answer looks the same whether its writes fail or not,
and with a storage that cannot be read it looks as without any storage, whether its writes fail or
not. -/
theorem answer_survives_storage (hPlain : ∀ f ∈ r.settings.features, IsPlainKey f.key)
    (s : Storage) (cache : ListCache) :
    (r.answer ⟨some s.withoutWrites, cache⟩).1.LooksLike (r.answer ⟨some s, cache⟩).1 ∧
      (r.answer ⟨some s.withoutReads, cache⟩).1.LooksLike (r.answer ⟨none, cache⟩).1 :=
  ⟨answer_of_reads hPlain rfl fun _ => rfl, answer_of_reads hPlain rfl fun _ => rfl⟩

/-- A rival writes the winners of its groups and its decision, which nobody notices. -/
theorem rival_survives_storage :
    let r := small .rivals "right"
    (∀ f ∈ r.settings.features, IsPlainKey f.key) ∧
      (r.answer ⟨some {}, ⟨0, 0, []⟩⟩).1.writes.length = 3 ∧
      (r.answer ⟨some (Storage.withoutWrites {}), ⟨0, 0, []⟩⟩).1.writes = [] ∧
      (r.answer ⟨some (Storage.withoutWrites {}), ⟨0, 0, []⟩⟩).1.LooksLike
        (r.answer ⟨some {}, ⟨0, 0, []⟩⟩).1 ∧
      (r.answer ⟨some (Storage.withoutReads {}), ⟨0, 0, []⟩⟩).1.LooksLike
        (r.answer ⟨none, ⟨0, 0, []⟩⟩).1 := by
  intro r
  have hPlain : ∀ f ∈ r.settings.features, IsPlainKey f.key := by decide +kernel
  have hNone : (r.answer ⟨some (Storage.withoutWrites {}), ⟨0, 0, []⟩⟩).1.writes.length = 0 := by
    decide +kernel
  exact ⟨hPlain, by decide +kernel, List.length_eq_zero_iff.mp hNone,
    answer_survives_storage hPlain {} ⟨0, 0, []⟩⟩

end Request

end FlagDecision
