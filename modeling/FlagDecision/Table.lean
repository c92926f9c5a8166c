/-!
Tables of values by key, as lists of entries of which the first one of a key counts. Main
statements: what is put under a key is found there, and every other key keeps what it had.
-/

namespace FlagDecision

/-- Values by key; the first entry of a key counts. -/
abbrev Table (κ α : Type) : Type := List (κ × α)

namespace Table

variable {κ α : Type} [DecidableEq κ]

/-- Without the entries of a key. -/
def without (t : Table κ α) (key : κ) : Table κ α := t.filter (·.1 != key)

/-- With a value under a key, whatever was there. -/
def put (t : Table κ α) (key : κ) (value : α) : Table κ α := (key, value) :: t.without key

/-- The table of some entries; of several with one key the last counts. -/
def ofEntries (entries : List (κ × α)) : Table κ α :=
  entries.foldl (fun t entry => put t entry.1 entry.2) []

/-- A choice among keys keeps the answers at the keys chosen and no others. -/
theorem lookup_filter (chosen : κ → Bool) (key : κ) (t : Table κ α) :
    (t.filter fun entry => chosen entry.1).lookup key =
      if chosen key then t.lookup key else none := by
  induction t with
  | nil => simp
  | cons entry rest ih =>
    obtain ⟨k, v⟩ := entry
    by_cases h : key = k
    · subst h
      cases hc : chosen key <;> simp [hc, ih]
    · have hb : (key == k) = false := beq_eq_false_iff_ne.mpr h
      cases hc : chosen k <;> simp [hc, List.lookup_cons, hb, ih]

/-- Changing each value by its key changes what is found. -/
theorem lookup_map {β : Type} (change : κ → α → β) (key : κ) (t : Table κ α) :
    List.lookup key (t.map fun entry => (entry.1, change entry.1 entry.2)) =
      (t.lookup key).map (change key) := by
  induction t with
  | nil => rfl
  | cons entry rest ih =>
    obtain ⟨k, v⟩ := entry
    by_cases h : key = k
    · simp [h]
    · simp [List.lookup_cons, beq_eq_false_iff_ne.mpr h, ih]

@[simp] theorem lookup_without_self (t : Table κ α) (key : κ) :
    (t.without key).lookup key = none :=
  (lookup_filter (· != key) key t).trans (by simp)

theorem lookup_without_of_ne (t : Table κ α) {key other : κ} (h : other ≠ key) :
    (t.without key).lookup other = t.lookup other :=
  (lookup_filter (· != key) other t).trans (by simp [h])

@[simp] theorem lookup_put_self (t : Table κ α) (key : κ) (value : α) :
    (t.put key value).lookup key = some value := by
  simp [put]

theorem lookup_cons_of_ne (t : Table κ α) (value : α) {key other : κ} (h : other ≠ key) :
    List.lookup other ((key, value) :: t) = t.lookup other := by
  simp [List.lookup_cons, beq_eq_false_iff_ne.mpr h]

theorem lookup_put_of_ne (t : Table κ α) (value : α) {key other : κ} (h : other ≠ key) :
    (t.put key value).lookup other = t.lookup other := by
  rw [put, lookup_cons_of_ne _ _ h, lookup_without_of_ne t h]

/-- What is put under a key takes the place of what was there. -/
theorem put_without_self (t : Table κ α) (key : κ) (value : α) :
    (t.without key).put key value = t.put key value := by
  simp [put, without]

/-- Putting under one key and leaving out another may be done in either order. -/
theorem put_without_of_ne (t : Table κ α) (value : α) {key other : κ} (h : other ≠ key) :
    (t.without key).put other value = (t.put other value).without key := by
  simp [put, without, h, Bool.and_comm]

end Table

end FlagDecision
