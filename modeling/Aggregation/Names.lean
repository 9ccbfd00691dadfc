/-
**Addresses of service names.**

A `NameTable` maps the names of external services to base URLs; of several mappings of one name the
last counts. A TOML file can add mappings to configured ones: a reload replaces the whole table by
the configured mappings overridden by the file's, and leaves the table alone if the file cannot be
read.
-/

import Aggregation.File
import Aggregation.Settings.Reader
import Aggregation.Toml.Reader

namespace Aggregation

/-- The base URL of each service name. -/
abbrev NameTable := Table String Url

/-- Why names have no address. -/
inductive NameError where
  | unknown (name : String)
  | file (error : FileError)
  | malformed

namespace NameError

/-- The error in words; what is wrong with a malformed file is not said. -/
def message : NameError → String
  | unknown name => "no address mapping for service " ++ Text.quoted name
  | file error => "failed to read name mappings: " ++ error.message
  | malformed => "failed to parse name mappings"

end NameError

namespace NameTable

/-- The table of a list of mappings. -/
def ofMappings (mappings : List Settings.Mapping) : NameTable :=
  Table.ofList (mappings.map fun mapping => (mapping.name, mapping.address))

/-- The base URL of a name. -/
def resolve (table : NameTable) (name : String) : Except NameError Url :=
  match table.get? name with
  | some address => .ok address
  | none => .error (.unknown name)

/-- The mappings of a document. -/
def readMappings? (document : Json) : Option (List Settings.Mapping) := do
  let written ← Settings.Section.of? .toml 1 document
  written.field "mappings" 0 [] (Settings.readList? (Settings.Mapping.read? .toml))

/-- The mappings of a file. -/
def loadMappings (file : File) : Except NameError (List Settings.Mapping) :=
  match file.text with
  | .error error => .error (.file error)
  | .ok text =>
    match Toml.parse? text >>= readMappings? with
    | none => .error .malformed
    | some mappings => .ok mappings

/-- The table after a reload, with the number of mappings in the file. -/
def reload (table : NameTable) (configured : List Settings.Mapping) (file : File) :
    NameTable × Except NameError Nat :=
  match loadMappings file with
  | .error error => (table, .error error)
  | .ok mappings => (ofMappings (configured ++ mappings), .ok mappings.length)

end NameTable

end Aggregation
