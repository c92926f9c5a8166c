import FlagDecision.Store.Decision
import FlagDecision.Table

/-!
The storage of decisions: records by key. It can be set to refuse reading or writing, as storages
elsewhere may.
-/

namespace FlagDecision

/-- Why a storage did not answer. -/
inductive StorageError where
  | backend (detail : String)
  deriving DecidableEq, Repr

/-- What is said about it. -/
def StorageError.message : StorageError → String
  | backend detail => "storage backend failure: " ++ detail

/-- Records by key, and whether reading or writing is refused. -/
structure Storage where
  records : Table String Json := []
  refusesReads : Bool := false
  refusesWrites : Bool := false
  deriving Repr

namespace Storage

def get (s : Storage) (key : String) : Except StorageError (Option Json) :=
  if s.refusesReads then .error (.backend "read refused") else .ok (s.records.lookup key)

/-- The storage with a record under a key, whatever was there. -/
def put (s : Storage) (key : String) (record : Json) : Storage :=
  { s with records := s.records.put key record }

/-- Write a record, unless writes are refused. -/
def set? (s : Storage) (key : String) (record : Json) : Option Storage :=
  if s.refusesWrites then none else some (s.put key record)

/-- The decision stored for a feature and a user. A storage that fails and a record that is no
decision count as none. -/
def decision? (s : Storage) (featureKey userId : String) : Option StoredDecision :=
  match s.get (StoredDecision.storageKey featureKey userId) with
  | .ok (some record) => StoredDecision.ofJson? record
  | _ => none

end Storage

end FlagDecision
