/-
**Loading settings from a TOML file.**

Loading reads the file, then the document, then the settings in it, and accepts them only if they
are valid.
-/

import Aggregation.File
import Aggregation.Settings.Reader
import Aggregation.Settings.Validation
import Aggregation.Toml.Reader

namespace Aggregation

/-- Why settings are not accepted. -/
inductive SettingsError where
  | file (error : FileError)
  | malformed
  | invalid (problems : List Settings.Problem)

namespace SettingsError

/-- The error in words; what is wrong with a malformed document is not said. -/
def message : SettingsError → String
  | file error => "IO error: " ++ error.message
  | malformed => "Parse error"
  | invalid problems => Settings.problemsText problems

end SettingsError

namespace Settings

/-- The valid settings of a TOML text. -/
def parse (text : List Char) : Except SettingsError Settings :=
  match Toml.parse? text >>= read? .toml with
  | none => .error .malformed
  | some settings =>
    match settings.validate with
    | .ok settings => .ok settings
    | .error problems => .error (.invalid problems)

/-- The valid settings of a TOML file. -/
def load (file : File) : Except SettingsError Settings :=
  match file.text with
  | .error error => .error (.file error)
  | .ok text => parse text

end Settings

end Aggregation
