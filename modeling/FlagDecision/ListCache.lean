import FlagDecision.Table

/-!
Answers of list services, kept for a while. The cache holds at most `capacity` answers, each until
its age reaches the time to live; a new answer pushes out the oldest where there is no room.
-/

namespace FlagDecision

/-- The question whose answer is kept. -/
structure ListQuestion where
  featureKey : String
  listId : String
  value : String
  userId : String
  isCustom : Bool
  deriving DecidableEq, Repr

/-- An answer and when it came, in milliseconds. -/
structure ListAnswer where
  member : Bool
  answeredAt : Nat
  deriving DecidableEq, Repr

/-- A cache. Its entries are in the order in which they came, the oldest first. -/
structure ListCache where
  timeToLive : Nat
  capacity : Nat
  entries : Table ListQuestion ListAnswer := []
  deriving DecidableEq, Repr

namespace ListCache

/-- The answer is not yet too old. -/
def isFresh (c : ListCache) (now : Nat) (a : ListAnswer) : Bool := now - a.answeredAt < c.timeToLive

def erase (c : ListCache) (q : ListQuestion) : ListCache :=
  { c with entries := c.entries.without q }

/-- The fresh answer to a question; an old one is dropped. -/
def get (c : ListCache) (q : ListQuestion) (now : Nat) : Option Bool × ListCache :=
  match c.entries.lookup q with
  | some a => if c.isFresh now a then (some a.member, c) else (none, c.erase q)
  | none => (none, c)

/-- Room for one more: the old entries go, and if that is not enough the oldest. -/
def makeRoom (c : ListCache) (now : Nat) : ListCache :=
  let fresh := c.entries.filter fun e => c.isFresh now e.2
  { c with entries := if fresh.length < c.capacity then fresh else fresh.drop 1 }

/-- Keep an answer. Without capacity or time to live nothing is kept. -/
def insert (c : ListCache) (q : ListQuestion) (member : Bool) (now : Nat) : ListCache :=
  if c.capacity = 0 ∨ c.timeToLive = 0 then c
  else
    let known := (c.entries.lookup q).isSome
    let c := if c.capacity ≤ c.entries.length ∧ ¬ known then c.makeRoom now else c
    let c := c.erase q
    { c with entries := c.entries ++ [(q, ⟨member, now⟩)] }

end ListCache

end FlagDecision
