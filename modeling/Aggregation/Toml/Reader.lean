/-
**Reading TOML.**

`Toml.parse?` reads a whole document as one table. A line holds a key with its value, a header, or
nothing; keys after a header belong to its table. Arrays may run over several lines and end in a
comma, inline tables may not.
-/

import Aggregation.Toml.Table
import Aggregation.Toml.Token

namespace Aggregation.Toml

/-! ### Values -/

mutual

/-- A value nested in `depth` others, with at most `fuel` steps. -/
def value? : Nat → Nat → List Char → Option (Json × List Char)
  | 0, _, _ => none
  | fuel + 1, depth, text =>
    match text with
    | '[' :: rest => if depth + 1 < depthLimit then items? fuel (depth + 1) [] rest else none
    | '\x7b' :: rest =>
      if depth + 1 < depthLimit then
        match skipBlanks rest with
        | '\x7d' :: rest => some (.object [], rest)
        | rest => members? fuel (depth + 1) (Table.new false false) rest
      else none
    | '"' :: _ => (string? text).map fun (text, rest) => (.string text, rest)
    | '\x27' :: _ => (string? text).map fun (text, rest) => (.string text, rest)
    | 't' :: 'r' :: 'u' :: 'e' :: rest => some (.bool true, rest)
    | 'f' :: 'a' :: 'l' :: 's' :: 'e' :: rest => some (.bool false, rest)
    | _ => dateOrNumber? text

/-- The items of an array after those already read. -/
def items? : Nat → Nat → List Json → List Char → Option (Json × List Char)
  | 0, _, _, _ => none
  | fuel + 1, depth, read, text =>
    match skipLines (text.length + 1) text with
    | none => none
    | some (']' :: rest) => some (.array read.reverse, rest)
    | some text =>
      match value? fuel depth text with
      | none => none
      | some (item, rest) =>
        match skipLines (rest.length + 1) rest with
        | some (',' :: rest) => items? fuel depth (item :: read) rest
        | some (']' :: rest) => some (.array (item :: read).reverse, rest)
        | _ => none

/-- The members of an inline table after those already read. -/
def members? : Nat → Nat → Table → List Char → Option (Json × List Char)
  | 0, _, _, _ => none
  | fuel + 1, depth, read, text =>
    match key? text with
    | some ((path, key), '=' :: rest) =>
      match value? fuel depth (skipBlanks rest) with
      | none => none
      | some (value, rest) =>
        match read.addValue path key value with
        | none => none
        | some read =>
          match skipBlanks rest with
          | ',' :: rest => members? fuel depth read rest
          | '\x7d' :: rest => some (tableValue read, rest)
          | _ => none
    | _ => none

end

/-! ### Documents -/

/-- A document so far: its table, and the path of the table that keys are added to. -/
structure Document where
  root : Table
  current : List String

/-- Adds a key with its value to the current table. -/
def Document.addValue (document : Document) (path : List String) (key : String) (value : Json) :
    Option Document :=
  (Table.within false (Table.addValue path key value) document.current document.root).map
    fun root => ⟨root, document.current⟩

/-- A header after its bracket, or two for an array of tables. -/
def header? (document : Document) (text : List Char) : Option (Document × List Char) :=
  match text with
  | '[' :: rest =>
    match key? rest with
    | some ((path, key), ']' :: ']' :: rest) => do
      let root ← document.root.append path key
      some (⟨root, path ++ [key]⟩, rest)
    | _ => none
  | _ =>
    match key? text with
    | some ((path, key), ']' :: rest) => do
      let root ← document.root.define path key
      some (⟨root, path ++ [key]⟩, rest)
    | _ => none

/-- A key with its value. -/
def keyValue? (document : Document) (text : List Char) : Option (Document × List Char) :=
  match key? text with
  | some ((path, key), '=' :: rest) => do
    let (value, rest) ← value? (2 * rest.length + 2) 0 (skipBlanks rest)
    let document ← document.addValue path key value
    some (document, rest)
  | _ => none

/-- The lines of a document after those already read. -/
def lines? : Nat → Document → List Char → Option Document
  | 0, _, _ => none
  | fuel + 1, document, text =>
    match skipBlanks text with
    | [] => some document
    | c :: rest =>
      if c = '#' ∨ c = '\n' ∨ c = '\r' then endLine? (c :: rest) >>= lines? fuel document
      else do
        let (document, rest) ←
          if c = '[' then header? document rest else keyValue? document (c :: rest)
        let rest ← endLine? rest
        lines? fuel document rest

/-- The table written by a text, which may start with a byte order mark. -/
def parse? (text : List Char) : Option Json :=
  let text := match text with
    | '\uFEFF' :: rest => rest
    | _ => text
  (lines? (text.length + 1) ⟨Table.new false false, []⟩ text).map fun document =>
    tableValue document.root

end Aggregation.Toml
