import FlagDecision.Settings.Basic

/-!
Who wins a group: among several candidates either one at random, or the first by priority and
otherwise one by weight. The choice is a function of the group, the candidates and the user.
-/

namespace FlagDecision

namespace Group

/-- The share of each of `n` candidates, in percent with four decimals. -/
def equalShare (n : Nat) : Binary64 :=
  ((100 : Binary64) / Binary64.ofNat n * 10000).round / 10000

/-- Where a user falls in the buckets of a group. -/
def bucket (groupId : Nat) (userId : String) : Nat :=
  (BucketSeed.group groupId).bucket userId bucketSpace

/-- One candidate at random, all with the same share. -/
def randomWinner? (groupId : Nat) (candidates : List Campaign) (userId : String) :
    Option Campaign :=
  let share := equalShare candidates.length
  pickByWeight (candidates.map (·, share)) (bucket groupId userId)

/-- The candidate that the earliest fitting entry of the priorities names, as a whole or by its
variation. -/
def prioritized? (priority : List GroupMember) (candidates : List Campaign) : Option Campaign :=
  priority.findSome? fun entry => candidates.find? fun c =>
    entry == c.groupMember || entry == c.groupMember.plain

/-- One candidate by the weights of the group; those without weight do not take part. -/
def weightedWinner? (g : Group) (groupId : Nat) (candidates : List Campaign) (userId : String) :
    Option Campaign :=
  let weighted := candidates.filterMap fun c => (g.weightOf? c).map (c, ·)
  let weights := normalizeWeights (weighted.map (·.2))
  pickByWeight ((weighted.map (·.1)).zip weights) (bucket groupId userId)

/-- The winner among some candidates; a single one wins in any case. -/
def winner? (g : Group) (groupId : Nat) (candidates : List Campaign) (userId : String) :
    Option Campaign :=
  match candidates with
  | [] => none
  | [only] => some only
  | several =>
    if g.isRandom then randomWinner? groupId several userId
    else prioritized? g.priority several <|> g.weightedWinner? groupId several userId

end Group

end FlagDecision
