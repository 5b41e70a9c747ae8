import Cleave.Data.Toml.Writer
import Cleave.Data.Yaml.Reader
import Cleave.Path
import Cleave.Profile.Codec
import Cleave.Profile.Selection

/-!
# Settings files

Project files are written in TOML or, if their extension says so, in YAML. User settings are written in TOML.
-/

namespace Cleave

/-- What a settings file is written in. -/
def Dialect.ofPath (p : Path) : Dialect :=
  if p.extension? = some "yaml".toList || p.extension? = some "yml".toList then .yaml else .toml

/-- Reads a text as a tree of values, of the given shape if the dialect leaves types open. -/
def Dialect.read? (shape : Shape) (text : Text) : Dialect → Option Value
  | toml => (Toml.read text).map Value.table
  | yaml => Yaml.read shape text
  | json => none

/-- Reads the settings of a project. -/
def Project.parse? (d : Dialect) (text : Text) : Option Project :=
  (d.read? Project.shape text).bind (Project.decode? d)

/-- Reads the settings of a user. -/
def UserSettings.parse? (text : Text) : Option UserSettings :=
  ((Toml.read text).map Value.table).bind (UserSettings.decode? .toml)

/-- The comment at the top of a starter file. -/
def Project.starterHeader : String :=
  "# partition configuration\n" ++
    "#\n" ++
    "# Profiles here replace built-in profiles with the same name.\n" ++
    "# Run \x60partition scan <file>\x60 to preview what a profile finds.\n\n"

/-- The content of a starter file. -/
def Project.starterText : Text :=
  Project.starterHeader.toList ++ Toml.write ((Project.starter.encode).table?.getD [])

end Cleave
