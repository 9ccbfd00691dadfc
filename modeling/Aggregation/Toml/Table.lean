/-
**Tables of a TOML document.**

A document grows by key/value lines and table headers. A table remembers whether it was only
implied by a longer path and whether it was made by a dotted key, since both restrict how it may be
extended:

* a header defines a table that does not exist or was only implied by other headers;
* a dotted key extends tables that dotted keys made, and no others;
* a value is never replaced, and only a table can hold keys.
-/

import Aggregation.Json.Basic

namespace Aggregation.Toml

/-- A table whose entries are of type `ν`. -/
structure TableOf (ν : Type) where
  implied : Bool
  dotted : Bool
  entries : List (String × ν)

/-- What stands under a key: a value, a table, or the tables of an array so far. -/
inductive Node where
  | value (value : Json)
  | table (table : TableOf Node)
  | tables (tables : List (TableOf Node))

/-- A table of nodes. -/
abbrev Table := TableOf Node

namespace Table

/-- A table without entries. -/
def new (implied dotted : Bool) : Table := ⟨implied, dotted, []⟩

/-- What stands under a key. -/
def get? (table : Table) (key : String) : Option Node := table.entries.lookup key

/-- Puts a node under a key, in place of what was there. -/
def put (table : Table) (key : String) (node : Node) : Table :=
  { table with
    entries :=
      if table.entries.any fun entry => entry.1 == key then
        table.entries.map fun entry => if entry.1 = key then (key, node) else entry
      else table.entries ++ [(key, node)] }

/-- Changes the table at a path, making the tables that are missing on the way. A path into an
array of tables leads to the last of them. -/
def within (dotted : Bool) (act : Table → Option Table) : List String → Table → Option Table
  | [], table => act table
  | key :: path, table =>
    match table.get? key with
    | none =>
      (within dotted act path (new true dotted)).map fun child => table.put key (.table child)
    | some (.value _) => none
    | some (.table child) =>
      if dotted && !child.implied then none
      else (within dotted act path child).map fun child => table.put key (.table child)
    | some (.tables children) =>
      match children.getLast? with
      | none => none
      | some last => (within dotted act path last).map fun last =>
          table.put key (.tables (children.dropLast ++ [last]))

/-- Adds a value under a dotted key. -/
def addValue (path : List String) (key : String) (value : Json) (table : Table) : Option Table :=
  within true (fun table =>
    if table.dotted == path.isEmpty then none
    else if (table.get? key).isSome then none
    else some (table.put key (.value value))) path table

/-- Defines the table of a header. -/
def define (path : List String) (key : String) (table : Table) : Option Table :=
  within false (fun table =>
    match table.get? key with
    | none => some (table.put key (.table (new false false)))
    | some (.table child) =>
      if child.implied && !child.dotted then
        some (table.put key (.table { child with implied := false }))
      else none
    | _ => none) path table

/-- Adds a table to the array of a header. -/
def append (path : List String) (key : String) (table : Table) : Option Table :=
  within false (fun table =>
    match table.get? key with
    | none => some (table.put key (.tables [new false false]))
    | some (.tables children) => some (table.put key (.tables (children ++ [new false false])))
    | _ => none) path table

end Table

mutual

/-- The value of a node. -/
def Node.toValue : Node → Json
  | .value value => value
  | .table table => tableValue table
  | .tables tables => .array (tableValues tables)

/-- The value of a table. -/
def tableValue : TableOf Node → Json
  | ⟨_, _, entries⟩ => .object (entryValues entries)

/-- The values of the tables of an array. -/
def tableValues : List (TableOf Node) → List Json
  | [] => []
  | table :: rest => tableValue table :: tableValues rest

/-- The values of entries under their keys. -/
def entryValues : List (String × Node) → List (String × Json)
  | [] => []
  | (key, node) :: rest => (key, node.toValue) :: entryValues rest

end

end Aggregation.Toml
