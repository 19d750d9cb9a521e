/-
Tables: finite maps from names that remember the order in which their names
came in. Setting a name that is present keeps its place.

`get?_set_self`, `get?_set_other` and the two lemmas on `erase` say what each
write does to every lookup; the rest of the library reads tables through them.
-/

namespace Lifecycle

structure Table (α : Type) where
  entries : List (String × α) := []
  deriving Repr, DecidableEq

namespace Table

variable {α : Type}

instance : EmptyCollection (Table α) := ⟨⟨[]⟩⟩

instance : Inhabited (Table α) := ⟨⟨[]⟩⟩

def get? (t : Table α) (key : String) : Option α := t.entries.lookup key

def contains (t : Table α) (key : String) : Bool := (t.get? key).isSome

def keys (t : Table α) : List String := t.entries.map (·.1)

/-- The entries after `key` is given `v`: in its own place, or at the end. -/
def setEntries (key : String) (v : α) : List (String × α) → List (String × α)
  | [] => [(key, v)]
  | (k, w) :: rest => if key = k then (k, v) :: rest else (k, w) :: setEntries key v rest

def set (t : Table α) (key : String) (v : α) : Table α := ⟨setEntries key v t.entries⟩

def erase (t : Table α) (key : String) : Table α := ⟨t.entries.filter (·.1 ≠ key)⟩

/-- All the entries of `new` set in turn. -/
def merge (t new : Table α) : Table α :=
  new.entries.foldl (fun acc (k, v) => acc.set k v) t

@[simp] theorem get?_empty (key : String) : (∅ : Table α).get? key = .none := rfl

@[simp] theorem get?_set_self (t : Table α) (key : String) (v : α) :
    (t.set key v).get? key = .some v := by
  obtain ⟨es⟩ := t
  simp only [get?, set]
  induction es with
  | nil => simp [setEntries]
  | cons e es ih =>
    obtain ⟨k, w⟩ := e
    by_cases h : key = k
    · simp [setEntries, h]
    · have hb : (key == k) = false := by simpa using h
      simp [setEntries, h, hb, List.lookup_cons, ih]

theorem get?_set_other (t : Table α) {key other : String} (v : α) (hne : other ≠ key) :
    (t.set key v).get? other = t.get? other := by
  obtain ⟨es⟩ := t
  simp only [get?, set]
  induction es with
  | nil =>
    have hb : (other == key) = false := by simpa using hne
    simp [setEntries, hb, List.lookup_cons]
  | cons e es ih =>
    obtain ⟨k, w⟩ := e
    by_cases h : key = k
    · subst h
      have hb : (other == key) = false := by simpa using hne
      simp [setEntries, hb, List.lookup_cons]
    · simp only [setEntries, h, if_false, List.lookup_cons, ih]

@[simp] theorem get?_erase_self (t : Table α) (key : String) : (t.erase key).get? key = .none := by
  obtain ⟨es⟩ := t
  simp only [get?, erase]
  induction es with
  | nil => rfl
  | cons e es ih =>
    obtain ⟨k, w⟩ := e
    by_cases h : k = key
    · rw [List.filter_cons_of_neg (by simpa using h)]
      exact ih
    · have hb : (key == k) = false := by simpa using Ne.symm h
      rw [List.filter_cons_of_pos (by simpa using h), List.lookup_cons, hb]
      exact ih

theorem get?_erase_other (t : Table α) {key other : String} (hne : other ≠ key) :
    (t.erase key).get? other = t.get? other := by
  obtain ⟨es⟩ := t
  simp only [get?, erase]
  induction es with
  | nil => rfl
  | cons e es ih =>
    obtain ⟨k, w⟩ := e
    by_cases h : k = key
    · subst h
      have hb : (other == k) = false := by simpa using hne
      simpa [hb, List.lookup_cons] using ih
    · rw [List.filter_cons_of_pos (by simpa using h), List.lookup_cons, List.lookup_cons, ih]

end Table

end Lifecycle
