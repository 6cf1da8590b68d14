import DocOptions.Position
import DocOptions.TextMap

/-! Directives: a key, options in the order they were written, and named parameters. -/

namespace DocOptions

/-- One directive, such as `http-path` with the option `/users`. A parameter name has one value. -/
structure Directive where
  key : String
  options : List String
  params : TextMap String
  deriving DecidableEq

namespace Directive

instance : Inhabited Directive := ⟨⟨"", [], ∅⟩⟩

/-- The first option, or no text. -/
def value (a : Directive) : String :=
  a.options.headD ""

def param? (a : Directive) (name : String) : Option String :=
  a.params.get? name

def hasOption (a : Directive) (option : String) : Bool :=
  a.options.contains option

end Directive

/-- A directive and the place it was written at. -/
structure Occurrence where
  directive : Directive
  position : Position
  deriving DecidableEq

def Occurrence.key (a : Occurrence) : String :=
  a.directive.key

end DocOptions
