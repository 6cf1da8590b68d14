import DocOptions.Json.Sorted
import DocOptions.Plugin.Loading
import DocOptions.Source.Model

/-! The generator of metrics middleware: its options, and how they are loaded. -/

namespace DocOptions.Metrics

open Json (sortedRecord)

def backend : Backend := ⟨"metrics-middleware", "metrics"⟩

/-- Options above a method. -/
structure MethodOptions where
  skip : Bool
  deriving DecidableEq

namespace MethodOptions

def table :=
  Table.leaf (field "skip") .flag .nil

def schema : Schema table.shape := ⟨"MetricsMethodOptions", table⟩

def ofRecord : table.shape.Record → MethodOptions
  | (skip, ()) => ⟨skip⟩

end MethodOptions

structure MethodConfig where
  name : String
  options : MethodOptions
  deriving DecidableEq

structure InterfaceConfig where
  name : String
  methods : List MethodConfig
  deriving DecidableEq

def MethodConfig.toJson (c : MethodConfig) : Json :=
  sortedRecord
    [("name", .text c.name), ("options", sortedRecord [("skip", .bool c.options.skip)])]

def InterfaceConfig.toJson (c : InterfaceConfig) : Json :=
  sortedRecord [("name", .text c.name), ("methods", .array (c.methods.map MethodConfig.toJson))]

variable (rules : RuleRegistry)

def loadMethod (interface : String) (method : Method) : Loading MethodConfig := do
  let record ← backend.decode MethodOptions.schema rules s!"{interface}.{method.name}" method.name
    method.comments
  return ⟨method.name, .ofRecord record⟩

/-- Loads the methods of an interface; the interface itself has no options. -/
def loadInterface (interface : Interface) : Loading InterfaceConfig := do
  backend.scan interface.name interface.comments
  let methods ← interface.methods.mapM (loadMethod rules interface.name)
  return ⟨interface.name, methods⟩

/-- Loads every interface of a module, in order. -/
def load (source : SourceModule) : Loading (List InterfaceConfig) :=
  source.interfaces.mapM (loadInterface rules)

end DocOptions.Metrics
