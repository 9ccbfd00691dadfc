/-
**Keyed tables.**

A `Table κ α` is a list of entries whose keys are pairwise different, in the order in which the
keys were first written. Writing an existing key replaces its value in place; a new key goes to
the end. Everything a table answers is read through `get?`:

* `get?_insert`: a written key answers its new value, every other key what it did before;
* `get?_erase`: an erased key answers nothing, every other key what it did before;
* `get?_insertAll`: of several values written under a key, it answers the last;
* `mem_entries_iff`: an entry is listed exactly when its key answers its value.
-/

namespace Aggregation

/-- Entries with pairwise different keys, in the order of their first write. -/
structure Table (κ α : Type) where
  entries : List (κ × α)
  distinct : (entries.map Prod.fst).Nodup

namespace Table

variable {κ α : Type} [DecidableEq κ]

/-! ### Entry lists -/

/-- The value of the first entry under a key. -/
def find (key : κ) : List (κ × α) → Option α
  | [] => none
  | (k, value) :: rest => if k = key then some value else find key rest

/-- Replaces the value of the first entry under a key, or adds an entry at the end. -/
def put (key : κ) (value : α) : List (κ × α) → List (κ × α)
  | [] => [(key, value)]
  | (k, old) :: rest => if k = key then (k, value) :: rest else (k, old) :: put key value rest

theorem keys_put (key : κ) (value : α) (entries : List (κ × α)) :
    (put key value entries).map Prod.fst =
      if key ∈ entries.map Prod.fst then entries.map Prod.fst
      else entries.map Prod.fst ++ [key] := by
  induction entries with
  | nil => simp [put]
  | cons entry rest ih =>
    obtain ⟨k, old⟩ := entry
    by_cases same : k = key
    · simp [put, same]
    · have other : key ≠ k := fun equal => same equal.symm
      by_cases known : key ∈ rest.map Prod.fst
      · simp only [put, same, if_false, List.map_cons, ih, known, if_true, List.mem_cons, or_true]
      · simp only [put, same, if_false, List.map_cons, ih, known, List.mem_cons, other, or_self,
          List.cons_append]

theorem nodup_put (key : κ) (value : α) {entries : List (κ × α)}
    (distinct : (entries.map Prod.fst).Nodup) : ((put key value entries).map Prod.fst).Nodup := by
  rw [keys_put]
  split
  · exact distinct
  · next fresh =>
    refine List.nodup_append.mpr ⟨distinct, by simp, ?_⟩
    intro a known b last equal
    rw [List.mem_singleton] at last
    exact fresh (last ▸ equal ▸ known)

theorem find_put (key other : κ) (value : α) (entries : List (κ × α)) :
    find other (put key value entries) =
      if other = key then some value else find other entries := by
  induction entries with
  | nil => simp [put, find, eq_comm]
  | cons entry rest ih =>
    obtain ⟨k, old⟩ := entry
    by_cases same : k = key
    · subst same
      by_cases equal : k = other
      · simp [put, find, equal]
      · have unequal : ¬other = k := fun reverse => equal reverse.symm
        simp [put, find, equal, unequal]
    · by_cases equal : k = other
      · subst equal
        simp [put, find, same]
      · simp [put, find, same, equal, ih]

theorem find_filter (key other : κ) (entries : List (κ × α)) :
    find other (entries.filter fun entry => decide (entry.1 ≠ key)) =
      if other = key then none else find other entries := by
  induction entries with
  | nil => simp [find]
  | cons entry rest ih =>
    obtain ⟨k, old⟩ := entry
    by_cases same : k = key
    · subst same
      by_cases equal : k = other
      · subst equal
        simpa [List.filter, find] using ih
      · have unequal : ¬other = k := fun reverse => equal reverse.symm
        simpa [List.filter, find, equal, unequal] using ih
    · by_cases equal : k = other
      · subst equal
        simp [List.filter, find, same]
      · simpa [List.filter, find, same, equal] using ih

theorem find_eq_some_iff {entries : List (κ × α)} (distinct : (entries.map Prod.fst).Nodup)
    (key : κ) (value : α) : find key entries = some value ↔ (key, value) ∈ entries := by
  induction entries with
  | nil => simp [find]
  | cons entry rest ih =>
    obtain ⟨k, old⟩ := entry
    simp only [List.map_cons, List.nodup_cons] at distinct
    by_cases same : k = key
    · subst same
      simp only [find, if_true, Option.some.injEq, List.mem_cons, Prod.mk.injEq, true_and]
      constructor
      · intro equal
        exact Or.inl equal.symm
      · rintro (equal | later)
        · exact equal.symm
        · exact absurd (List.mem_map_of_mem (f := Prod.fst) later) distinct.1
    · have other : ¬key = k := fun equal => same equal.symm
      simp [find, same, other, ih distinct.2]

/-! ### Tables -/

/-- The table without entries. -/
def empty : Table κ α := ⟨[], by simp⟩

/-- The value written under a key. -/
def get? (table : Table κ α) (key : κ) : Option α := find key table.entries

/-- Whether a key has a value. -/
def contains (table : Table κ α) (key : κ) : Bool := (table.get? key).isSome

/-- Writes a value under a key. -/
def insert (table : Table κ α) (key : κ) (value : α) : Table κ α :=
  ⟨put key value table.entries, nodup_put key value table.distinct⟩

/-- Removes a key with its value. -/
def erase (table : Table κ α) (key : κ) : Table κ α where
  entries := table.entries.filter fun entry => decide (entry.1 ≠ key)
  distinct := table.distinct.sublist (List.filter_sublist.map _)

/-- Writes a list of entries, the last one under a key winning. -/
def insertAll (table : Table κ α) (entries : List (κ × α)) : Table κ α :=
  entries.foldl (fun table entry => table.insert entry.1 entry.2) table

/-- The table of a list of entries, the last one under a key winning. -/
def ofList (entries : List (κ × α)) : Table κ α := empty.insertAll entries

/-- The keys in the order of their first write. -/
def keys (table : Table κ α) : List κ := table.entries.map Prod.fst

/-- The values in the order of their keys' first write. -/
def values (table : Table κ α) : List α := table.entries.map Prod.snd

/-- The number of keys. -/
def size (table : Table κ α) : Nat := table.entries.length

/-- Whether no key has a value. -/
def isEmpty (table : Table κ α) : Bool := table.entries.isEmpty

@[simp] theorem get?_empty (key : κ) : (empty : Table κ α).get? key = none := rfl

@[simp] theorem get?_insert (table : Table κ α) (key other : κ) (value : α) :
    (table.insert key value).get? other = if other = key then some value else table.get? other :=
  find_put key other value table.entries

@[simp] theorem get?_erase (table : Table κ α) (key other : κ) :
    (table.erase key).get? other = if other = key then none else table.get? other :=
  find_filter key other table.entries

/-- Of several entries written under a key the last one counts. -/
theorem get?_insertAll (table : Table κ α) (entries : List (κ × α)) (key : κ) :
    (table.insertAll entries).get? key =
      ((entries.reverse.find? fun entry => entry.1 = key).map Prod.snd).or (table.get? key) := by
  induction entries generalizing table with
  | nil => rfl
  | cons entry rest ih =>
    show ((table.insert entry.1 entry.2).insertAll rest).get? key = _
    rw [ih, get?_insert, List.reverse_cons, List.find?_append, Option.map_or, Option.or_assoc,
      List.find?_singleton]
    by_cases same : entry.1 = key
    · simp [same]
    · have other : ¬key = entry.1 := fun equal => same equal.symm
      simp [same, other]

/-- An entry is listed exactly when its key answers its value. -/
theorem mem_entries_iff (table : Table κ α) (key : κ) (value : α) :
    (key, value) ∈ table.entries ↔ table.get? key = some value :=
  (find_eq_some_iff table.distinct key value).symm

/-- A key has a value exactly when it is one of the keys. -/
theorem contains_iff (table : Table κ α) (key : κ) :
    table.contains key = true ↔ key ∈ table.keys := by
  unfold contains keys
  rw [Option.isSome_iff_exists, List.mem_map]
  constructor
  · rintro ⟨value, known⟩
    exact ⟨(key, value), (mem_entries_iff table key value).mpr known, rfl⟩
  · rintro ⟨⟨own, value⟩, listed, rfl⟩
    exact ⟨value, (mem_entries_iff table own value).mp listed⟩

/-- A new key goes to the end of the keys. -/
theorem keys_insert {table : Table κ α} {key : κ} (new : key ∉ table.keys) (value : α) :
    (table.insert key value).keys = table.keys ++ [key] := by
  unfold keys at new ⊢
  rw [insert, keys_put, if_neg new]

end Table

end Aggregation
