import DocOptions.Plugin.Http.Load
import DocOptions.Plugin.Metrics
import DocOptions.Source.Json
import DocOptions.Text.Outline

/-! Plugins and how they are found by name. -/

namespace DocOptions

open Text

/-- A backend with a loader whose result is given as JSON. -/
structure Plugin extends Backend where
  load : RuleRegistry → SourceModule → Loading Json

namespace Plugin

def http : Plugin where
  toBackend := Http.backend
  load rules source := do
    return .array ((← Http.load rules source).map (·.toJson))

def metrics : Plugin where
  toBackend := Metrics.backend
  load rules source := do
    return .array ((← Metrics.load rules source).map (·.toJson))

end Plugin

/-- Why a plugin could not load a module. -/
inductive PluginError
  | unknownPlugin (name : String)
  | schema (error : SchemaError)
  | malformedModule

def PluginError.message : PluginError → String
  | unknownPlugin name => s!"Unknown plugin: {name}"
  | schema error => s!"Invalid schema: {error.message}"
  | malformedModule => "JSON error"

/-- Plugins with different names, in the order of their last registrations. -/
structure PluginRegistry where
  plugins : List Plugin

namespace PluginRegistry

def empty : PluginRegistry := ⟨[]⟩

/-- Adds a plugin at the end, in place of one with its name. -/
def register (registry : PluginRegistry) (plugin : Plugin) : PluginRegistry :=
  ⟨registry.plugins.filter (·.name != plugin.name) ++ [plugin]⟩

def builtin : PluginRegistry :=
  (empty.register .http).register .metrics

def get (registry : PluginRegistry) (name : String) : Except PluginError Plugin :=
  match registry.plugins.find? (·.name == name) with
  | some plugin => .ok plugin
  | none => .error (.unknownPlugin name)

def names (registry : PluginRegistry) : List String :=
  registry.plugins.map (·.name)

def outline (registry : PluginRegistry) : String :=
  outlineRecord "PluginRegistry" [("plugins", outlineList (registry.names.map quoted))]

end PluginRegistry

/-- Loads a module that is given as JSON text. -/
def Plugin.loadText (plugin : Plugin) (rules : RuleRegistry) (text : String) :
    Except PluginError (Loaded Json) :=
  match SourceModule.read text with
  | none => .error .malformedModule
  | some source => (plugin.load rules source).run.mapError .schema

end DocOptions
