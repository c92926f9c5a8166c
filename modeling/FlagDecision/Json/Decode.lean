import FlagDecision.Json.Reading

/-!
Fitting JSON to types. A decoder visits a reading in the order of the text and stops at the first
fault. Records are objects with known members (others are passed over) or arrays of the members in
the order of declaration.
-/

namespace FlagDecision.Json

/-- A decoder gets the number of containers that may still be opened, and the reading. -/
abbrev Decoder (α : Type) : Type := Nat → Reading → Except Fault α

/-- Values nested deeper are no JSON. -/
def nestingLimit : Nat := 127

namespace Reading

mutual

/-- Pass over a value: only its form counts. -/
def skip : Reading → Except Fault Unit
  | flawed _ _ (some fault) => .error fault
  | array items stop => do
    skipItems items
    ended stop
  | object members stop => do
    skipMembers members
    ended stop
  | _ => .ok ()

def skipItems : List Reading → Except Fault Unit
  | [] => .ok ()
  | item :: rest => do
    item.skip
    skipItems rest

def skipMembers : List (Reading × Reading) → Except Fault Unit
  | [] => .ok ()
  | (key, value) :: rest => do
    key.skip
    value.skip
    skipMembers rest

/-- The end of a list, unless a fault stands there. -/
def ended : Option Fault → Except Fault Unit
  | none => .ok ()
  | some fault => .error fault

end

/-- The fault of a reading that is of no wanted kind. -/
def mismatch (r : Reading) : Except Fault α :=
  match r with
  | flawed onRead _ _ => .error onRead
  | _ => .error .unfit

mutual

def value : Nat → Reading → Except Fault Json
  | _, null => .ok .null
  | _, bool b => .ok (.bool b)
  | _, number n => .ok (.number n)
  | _, string s => .ok (.string s)
  | _, flawed onRead _ _ => .error onRead
  | 0, array _ _ => .error .malformed
  | 0, object _ _ => .error .malformed
  | depth + 1, array items stop => do
    let items ← valueItems depth items
    ended stop
    return .array items
  | depth + 1, object members stop => do
    let members ← valueMembers depth [] members
    ended stop
    return .object members

def valueItems : Nat → List Reading → Except Fault (List Json)
  | _, [] => .ok []
  | depth, item :: rest => do
    let item ← value depth item
    let rest ← valueItems depth rest
    return item :: rest

def valueMembers (depth : Nat) (done : List (String × Json)) :
    List (Reading × Reading) → Except Fault (List (String × Json))
  | [] => .ok done
  | (key, item) :: rest =>
    match key with
    | string key => do
      let item ← value depth item
      valueMembers depth (insertMember key item done) rest
    | key => key.mismatch

end

end Reading

namespace Decoder

def any : Decoder Json := Reading.value

/-- A whole number from zero to `most`. -/
def natural (most : Nat) : Decoder Nat
  | _, .number (.whole n) => if 0 ≤ n ∧ n ≤ most then .ok n.toNat else .error .unfit
  | _, r => r.mismatch

/-- An identifier or count of 64 bits. -/
def word64 : Decoder Nat := natural (Nat.pow 2 64 - 1)

def real : Decoder Binary64
  | _, .number (.whole n) => .ok (.ofInt n)
  | _, .number (.real x) => .ok x
  | _, r => r.mismatch

def text : Decoder String
  | _, .string s => .ok s
  | _, r => r.mismatch

def boolean : Decoder Bool
  | _, .bool b => .ok b
  | _, r => r.mismatch

/-- `null` counts as absent. -/
def nullable (d : Decoder α) : Decoder (Option α)
  | _, .null => .ok none
  | depth, r => some <$> d depth r

/-- Read any value first, then interpret it. -/
def interpreted (f : Json → Option α) : Decoder α := fun depth r => do
  match f (← r.value depth) with
  | some x => .ok x
  | none => .error .unfit

def list (d : Decoder α) : Decoder (List α)
  | 0, .array _ _ => .error .malformed
  | depth + 1, .array items stop => do
    let items ← items.mapM (d depth)
    Reading.ended stop
    return items
  | _, r => r.mismatch

/-- The members of an object with free keys, in the order of the text. -/
def members (readKey : String → Option κ) (d : Decoder α) : Decoder (List (κ × α))
  | 0, .object _ _ => .error .malformed
  | depth + 1, .object entries stop => do
    let entries ← entries.mapM fun (key, r) => do
      let key ← text depth key
      match readKey key with
      | none => throw Fault.unfit
      | some key => return (key, ← d depth r)
    Reading.ended stop
    return entries
  | _, r => r.mismatch

/-- One of several words, as a text, or as the key of an object with the single member `null`. -/
def oneOf (readWord : String → Option α) : Decoder α
  | _, .string s => word s
  | 0, .object _ _ => .error .malformed
  | _ + 1, .object ((key, r) :: rest) stop => do
    let x ← match key with
      | .string s => word s
      | .flawed _ onWord _ => throw onWord
      | _ => throw .unfit
    match r with
    | .null => pure ()
    | r => r.mismatch
    if rest.isEmpty then pure () else throw .malformed
    Reading.ended stop
    return x
  | _, .object [] stop => .error (stop.getD .malformed)
  | _, .flawed _ onWord _ => .error onWord
  | _, _ => .error .malformed
where
  /-- The word itself. -/
  word (s : String) : Except Fault α :=
    match readWord s with
    | some x => .ok x
    | none => .error .unfit

end Decoder

/-- Where a member of a record may be missing: nowhere, in an object only, or anywhere. -/
inductive Presence where
  | needed
  | listed
  | optional
  deriving DecidableEq, Repr

/-- A member of a record: its name, where it may be missing, and what its value sets. -/
structure Field (σ : Type) where
  name : String
  presence : Presence
  read : Decoder (σ → σ)

namespace Field

/-- A member that has to be there. -/
def needed (name : String) (d : Decoder α) (set : α → σ → σ) : Field σ :=
  ⟨name, .needed, fun depth r => set <$> d depth r⟩

/-- A member that an object may leave out, an array not. -/
def listed (name : String) (d : Decoder α) (set : α → σ → σ) : Field σ :=
  ⟨name, .listed, fun depth r => set <$> d depth r⟩

/-- A member with a default. -/
def optional (name : String) (d : Decoder α) (set : α → σ → σ) : Field σ :=
  ⟨name, .optional, fun depth r => set <$> d depth r⟩

end Field

namespace Decoder

/-- The members of an object, after those `seen`. A known one may come once. -/
def recordMembers (fields : List (Field σ)) (depth : Nat) :
    List String → σ → List (Reading × Reading) → Except Fault (List String × σ)
  | seen, x, [] => .ok (seen, x)
  | seen, x, (key, r) :: rest => do
    let key ← text depth key
    match fields.find? (·.name == key) with
    | none =>
      r.skip
      recordMembers fields depth seen x rest
    | some field =>
      if seen.contains key then throw .unfit
      let set ← field.read depth r
      recordMembers fields depth (key :: seen) (set x) rest

/-- The items of an array that lists the members in order; there may be fewer items. -/
def recordItems (depth : Nat) :
    List (Field σ) → List String → σ → List Reading → Except Fault (List String × σ)
  | _, seen, x, [] => .ok (seen, x)
  | [], _, _, _ :: _ => .error .malformed
  | field :: fields, seen, x, r :: rest => do
    let set ← field.read depth r
    recordItems depth fields (field.name :: seen) (set x) rest

/-- A record: `blank` changed by every member. -/
def record (fields : List (Field σ)) (blank : σ) : Decoder σ
  | 0, .object _ _ => .error .malformed
  | 0, .array _ _ => .error .malformed
  | depth + 1, .object entries stop => do
    let (seen, x) ← recordMembers fields depth [] blank entries
    Reading.ended stop
    complete (fun p => p == .needed) seen x
  | depth + 1, .array items stop => do
    let (seen, x) ← recordItems depth fields [] blank items
    Reading.ended stop
    complete (fun p => p != .optional) seen x
  | _, r => r.mismatch
where
  /-- All members that may not be missing are there. -/
  complete (must : Presence → Bool) (seen : List String) (x : σ) : Except Fault σ :=
    if fields.all fun field => !must field.presence || seen.contains field.name then .ok x
    else .error .unfit

/-- Decode a whole text: nothing may follow the value. -/
def ofText (d : Decoder α) (s : String) : Except Fault α := do
  let (r, trailing) := Reading.ofText s
  let x ← d nestingLimit r
  Reading.ended trailing
  return x

/-- Decode a value: whatever goes wrong, the value is unfit. -/
def ofJson (d : Decoder α) (j : Json) : Except Fault α :=
  (d nestingLimit (.ofJson j)).mapError fun _ => .unfit

end Decoder

/-- The value of a JSON text. -/
def parse (s : String) : Except Fault Json := Decoder.any.ofText s

end FlagDecision.Json
