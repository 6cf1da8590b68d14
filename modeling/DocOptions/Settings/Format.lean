import DocOptions.Settings.Ini
import DocOptions.Settings.Json
import DocOptions.Settings.Json5
import DocOptions.Settings.Ron
import DocOptions.Settings.Toml.Document
import DocOptions.Settings.Yaml.Node
import DocOptions.Text.Pieces

/-! The formats of settings files. The extension of a file tells its format. -/

namespace DocOptions

inductive SettingsFormat
  | toml
  | json
  | yaml
  | ini
  | ron
  | json5
  deriving DecidableEq

namespace SettingsFormat

/-- The formats by extension; one may have several. -/
def byExtension : List (String × SettingsFormat) :=
  [("toml", toml), ("json", json), ("yaml", yaml), ("yml", yaml), ("ini", ini), ("ron", ron),
    ("json5", json5)]

def extensions : List String :=
  byExtension.map Prod.fst

/-- The extension of a file name: what follows its last dot, unless the name starts with it. -/
def extension? (name : String) : Option String :=
  match Text.cut name '.' with
  | [] => none
  | first :: rest =>
    if rest.length = 1 ∧ first = "" then none else rest.getLast?

/-- The format of a file. -/
def ofName? (name : String) : Option SettingsFormat :=
  (extension? name).bind fun extension => byExtension.lookup extension

def readSetting : SettingsFormat → String → Option Setting
  | toml => Toml.read
  | json => Setting.readJson
  | yaml => Yaml.read
  | ini => Ini.read
  | ron => Ron.read
  | json5 => Json5.read

/-- Reads the entries of a file, which must hold a table. A byte order mark may come first. -/
def read (format : SettingsFormat) (text : String) : Option (List (String × Setting)) :=
  let chars := text.toList
  let chars := if chars.head? = some '\uFEFF' then chars.drop 1 else chars
  match format.readSetting (String.ofList chars) with
  | some (.table entries) => some entries
  | _ => none

end SettingsFormat
end DocOptions
