import DocOptions.Comment
import DocOptions.Schema.Decode

/-! Reading the options of the declarations of a module, one declaration after the other. The
findings and the trace of all of them are kept in the order they were made. -/

namespace DocOptions

/-- What was loaded, with the findings and the trace that led to it. -/
structure Loaded (α : Type) where
  value : α
  diagnostics : Diagnostics
  trace : Trace

namespace Loaded

def hasFailures {α : Type} (loaded : Loaded α) : Bool :=
  loaded.diagnostics.hasFailures

/-- Two steps of loading; the later trace decides on a path of both. -/
def andThen {α β : Type} (first : Loaded α) (second : Loaded β) : Loaded β :=
  ⟨second.value, first.diagnostics ++ second.diagnostics, first.trace.override second.trace⟩

def map {α β : Type} (f : α → β) (loaded : Loaded α) : Loaded β :=
  ⟨f loaded.value, loaded.diagnostics, loaded.trace⟩

end Loaded

/-- A step of loading. It only fails if a schema is at fault, never because of what a directive
holds. -/
def Loading (α : Type) : Type :=
  Except SchemaError (Loaded α)

namespace Loading

def ofValue {α : Type} (value : α) : Loading α :=
  .ok ⟨value, ∅, ∅⟩

def andThen {α β : Type} (first : Loading α) (second : α → Loading β) : Loading β :=
  match first with
  | .error e => .error e
  | .ok a =>
    match second a.value with
    | .error e => .error e
    | .ok b => .ok (a.andThen b)

instance : Monad Loading where
  pure := ofValue
  bind := andThen

/-- Makes a finding. -/
def report (d : Diagnostic) : Loading Unit :=
  .ok ⟨(), ⟨[d]⟩, ∅⟩

def run {α : Type} (loading : Loading α) : Except SchemaError (Loaded α) :=
  loading

end Loading

/-- A generator that reads directives: its name, and the key that its directives lie below. -/
structure Backend where
  name : String
  scope : String
  deriving DecidableEq

namespace Backend

/-- Warns of a directive that is the backend's but that nothing reads. -/
def unusedWarning (backend : Backend) (source : Occurrence) : Diagnostic where
  severity := .warning
  message := s!"{source.key}: annotation is not used by the {backend.name} plugin"
  key := some source.key
  position := some source.position

/-- Reads the options of the declaration `name` from its comments. Trace paths are put below `path`,
and the directives that no field looks up are warned about. -/
def decode {shape : Shape} (backend : Backend) (schema : Schema shape) (rules : RuleRegistry)
    (path name : String) (comments : List RawComment) : Loading shape.Record :=
  let index := (DocComments.ofRaw name comments).index
  match schema.decode rules backend.scope index with
  | .error e => .error e
  | .ok decoded =>
    let unused := (decoded.unused backend.scope index).map backend.unusedWarning
    .ok ⟨decoded.value, decoded.report.diagnostics ++ ⟨unused⟩,
      Trace.mergeUnder ∅ path decoded.report.trace⟩

/-- Warns of all directives of a declaration that the backend reads no options from. -/
def scan (backend : Backend) (name : String) (comments : List RawComment) : Loading Unit :=
  let index := (DocComments.ofRaw name comments).index
  .ok ⟨(), ⟨(index.under backend.scope).map backend.unusedWarning⟩, ∅⟩

end Backend
end DocOptions
