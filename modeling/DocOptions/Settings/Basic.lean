import DocOptions.Directory
import DocOptions.Settings.Format
import DocOptions.Settings.Path
import DocOptions.Text.Quoted

/-! The settings of the program. They come from built-in defaults, then a file, then environment
variables, and a later source decides. -/

namespace DocOptions

structure LoggingSettings where
  level : String
  json : Bool
  deriving DecidableEq

structure OutputSettings where
  /-- Whether the trace is printed after the configuration. -/
  trace : Bool
  deriving DecidableEq

structure Settings where
  logging : LoggingSettings
  output : OutputSettings
  deriving DecidableEq

/-- The level has to be there. -/
def LoggingSettings.ofSetting (setting : Setting) : Option LoggingSettings := do
  let fields ← setting.fields? ["level", "json"]
  return {
    level := ← (← fields.lookup "level").asText
    json := ← ((fields.lookup "json").getD (.bool false)).asSwitch }

def OutputSettings.ofSetting (setting : Setting) : Option OutputSettings := do
  let fields ← setting.fields? ["trace"]
  return { trace := ← ((fields.lookup "trace").getD (.bool false)).asSwitch }

namespace Settings

def defaultPath : String := "mosaic.toml"

/-- What the names of variables for settings start with. -/
def variableStart : String := "mosaic_"

def default : Settings := ⟨⟨"warn", false⟩, ⟨false⟩⟩

def defaultTree : Setting :=
  .table
    [("logging", .table [("level", .text default.logging.level),
        ("json", .bool default.logging.json)]),
      ("output", .table [("trace", .bool default.output.trace)])]

/-- The paths that are tried where there is no file at the path itself: an extension is added to its
last part, which must be a name. -/
def extendedPaths (path : String) : List String :=
  let path := Directory.normalPath path
  let name := Directory.lastPart path
  if name = "" ∨ name = ".." then []
  else SettingsFormat.extensions.map fun extension => path ++ "." ++ extension

/-- Where the settings may be found. -/
def paths (path : Option String) : List String :=
  let path := path.getD defaultPath
  path :: extendedPaths path

/-- The format and the text of a settings file. A file at the path itself must have an extension of
some format. -/
def findFile (directory : Directory) (path : String) : Option (SettingsFormat × String) :=
  match directory.read? path with
  | some text =>
    (SettingsFormat.ofName? (Directory.lastPart path)).map fun format => (format, text)
  | none =>
    (extendedPaths path).findSome? fun path => do
      return (← SettingsFormat.ofName? (Directory.lastPart path), ← directory.read? path)

/-- The value of a variable: a boolean, an integer or another number if it reads as one. -/
def variableValue (text : String) : Setting :=
  let word := Setting.foldKey text
  if word = "true" then .bool true
  else if word = "false" then .bool false
  else
    match IntKind.int64.read text with
    | .ok n => .integer n
    | .error _ =>
      match FloatFormat.binary64.read text with
      | .ok x => .float x
      | .error _ => .text text

/-- A name with a dot for each pair of underscores, from left to right. -/
def dotted : List Char → List Char
  | '_' :: '_' :: rest => '.' :: dotted rest
  | c :: rest => c :: dotted rest
  | [] => []

/-- The settings that variables give. Letter case does not matter in their names. -/
def ofVariables (environment : List (String × String)) : List (String × Setting) :=
  environment.filterMap fun (name, value) =>
    let name := (Setting.foldKey name).toList
    let start := variableStart.toList
    if start.isPrefixOf name then
      some (String.ofList (dotted (name.drop start.length)), variableValue value)
    else none

def ofTree (tree : Setting) : Option Settings := do
  return {
    logging := ← LoggingSettings.ofSetting (← tree.lookup "logging")
    output := ← OutputSettings.ofSetting (← tree.lookup "output") }

/-- The settings of a file; without a path, the default file may be missing. -/
def fileSource (path : Option String) (directory : Directory) :
    Option (List (String × Setting)) :=
  match path with
  | some path => (findFile directory path).bind fun (format, text) => format.read text
  | none =>
    match findFile directory defaultPath with
    | some (format, text) => format.read text
    | none => some []

/-- Loads the settings; `none` if the file cannot be read or a setting has a value of the wrong
kind. -/
def load (path : Option String) (directory : Directory) (environment : List (String × String)) :
    Option Settings := do
  let file ← fileSource path directory
  ofTree ((defaultTree.overlay file).overlay (ofVariables environment))

def levels : List String :=
  ["trace", "debug", "info", "warn", "error"]

/-- What is wrong with settings that could be loaded. -/
def fault? (settings : Settings) : Option String :=
  let level := settings.logging.level
  if Setting.foldKey level ∈ levels then none
  else
    let listed := ", ".intercalate levels
    some s!"logging.level must be one of {listed}, got {Text.quoted level}"

end Settings
end DocOptions
