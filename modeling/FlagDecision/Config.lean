import FlagDecision.Json.Decode

/-!
The settings of an evaluator itself: how long and how many list answers are kept, and whether
impressions are sent.
-/

namespace FlagDecision

open Json (Decoder)

/-- What an evaluator can be tuned to. -/
structure Config where
  listCacheSeconds : Nat := 300
  listCacheCapacity : Nat := 1000
  impressionsEnabled : Bool := true
  deriving DecidableEq, Repr

namespace Config

/-- A configuration; every member has its default. -/
def decoder : Decoder Config := Decoder.record [
  .optional "listCacheTtlSecs" .word64 fun v c => { c with listCacheSeconds := v },
  .optional "listCacheCapacity" .word64 fun v c => { c with listCacheCapacity := v },
  .optional "impressionsEnabled" .boolean fun v c => { c with impressionsEnabled := v }] {}

/-- With another time to live, in milliseconds; only whole seconds count. -/
def withListCacheMillis (c : Config) (millis : Nat) : Config :=
  { c with listCacheSeconds := millis / 1000 }

end Config

end FlagDecision
