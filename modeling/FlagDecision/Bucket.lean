import FlagDecision.Hash.Murmur
import FlagDecision.Number.Binary64

/-!
Buckets: where a user falls in the space `1 ..= max`, and the ranges of that space that variations
take. Users keep their place as long as the seed text stays the same.
-/

namespace FlagDecision

/-- Traffic is decided in percent. -/
def trafficSpace : Nat := 100

/-- Variations, group winners and whitelisted variations are picked in hundredths of a percent. -/
def bucketSpace : Nat := 10000

/-- What the bucket of a user depends on besides the user. -/
inductive BucketSeed where
  | group (id : Nat)
  | campaign (id : Nat) (salt : Option String)
  | account (id : Nat) (salt : Option String) (accountId : Nat)
  deriving DecidableEq, Repr

namespace Bucket

/-- The hash behind every bucket. -/
def hash (seed : String) : UInt32 := Murmur.hash 1 seed.toUTF8.toList

/-- A hash scaled to `1 ..= max`, in double precision. -/
def scale (hash : UInt32) (max : Nat) : Nat :=
  let ratio := Binary64.ofNat hash.toNat / Binary64.ofNat (Nat.pow 2 32)
  Binary64.clampNat (Nat.pow 2 32 - 1) ((Binary64.ofNat max * ratio + 1).floor?.getD 0)

/-- The bucket of a seed text in `1 ..= max`. -/
def value (seed : String) (max : Nat) : Nat := scale (hash seed) max

end Bucket

namespace BucketSeed

/-- A salt takes the place of the campaign; campaigns with one salt place users alike. -/
def campaignPart (id : Nat) (salt : Option String) : String :=
  match salt.filter (· ≠ "") with
  | some salt => salt
  | none => toString id

/-- The seed text of a user. -/
def text (seed : BucketSeed) (userId : String) : String :=
  match seed with
  | group id => toString id ++ "_" ++ userId
  | campaign id salt => campaignPart id salt ++ "_" ++ userId
  | account id salt accountId => campaignPart id salt ++ "_" ++ toString accountId ++ "_" ++ userId

/-- The bucket of a user in `1 ..= max`. -/
def bucket (seed : BucketSeed) (userId : String) (max : Nat) : Nat :=
  Bucket.value (seed.text userId) max

end BucketSeed

/-- The buckets from `first` to `last`, both included. -/
structure BucketRange where
  first : Nat
  last : Nat
  deriving DecidableEq, Repr

namespace BucketRange

def contains (r : BucketRange) (bucket : Nat) : Bool := r.first ≤ bucket && bucket ≤ r.last

def width (r : BucketRange) : Nat := r.last + 1 - r.first

/-- Units of a hundredth percent that a weight in percent takes, rounded up. -/
def unitsOfWeight (weight : Binary64) : Nat :=
  if weight.isFinite && Binary64.below 0 weight then
    match weight * 100 with
    | .finite n m e => Binary64.clampNat (Nat.pow 2 32 - 1) ((Binary64.finite n m e).ceil?.getD 0)
    | _ => Nat.pow 2 32 - 1
  else 0

/-- The ranges of `units` laid end to end after `used` buckets; zero units take no range. -/
def layOut (used : Nat) : List Nat → List (Option BucketRange)
  | [] => []
  | units :: rest =>
    if units = 0 then none :: layOut used rest
    else some ⟨used + 1, used + units⟩ :: layOut (used + units) rest

/-- The ranges of weights laid end to end, each at most the whole space. -/
def sequential (weights : List Binary64) : List (Option BucketRange) :=
  layOut 0 (weights.map fun w => min (unitsOfWeight w) bucketSpace)

/-- The range of a variation that stands alone: its weight in units, rounded down. -/
def alone (weight : Binary64) : Option BucketRange :=
  match weight * 100 with
  | .finite n m e =>
    let units := (Binary64.finite n m e).floor?.getD 0
    if 1 ≤ units then some ⟨1, Binary64.clampNat bucketSpace units⟩ else none
  | .infinity false => some ⟨1, bucketSpace⟩
  | _ => none

end BucketRange

/-- Weights rescaled to a sum of 100; equal shares where the sum is not positive. -/
def normalizeWeights (weights : List Binary64) : List Binary64 :=
  let total := weights.foldl (· + ·) 0
  if Binary64.below 0 total then weights.map fun w => w / total * 100
  else weights.map fun _ => (100 : Binary64) / Binary64.ofNat weights.length

/-- The first candidate whose range holds the bucket, when their weights are laid end to end. -/
def pickByWeight (candidates : List (α × Binary64)) (bucket : Nat) : Option α :=
  ((candidates.zip (BucketRange.sequential (candidates.map (·.2)))).find? fun (_, range) =>
    range.any (·.contains bucket)).map (·.1.1)

end FlagDecision
