import DocOptions.Naming.Delimited
import DocOptions.Rule
import DocOptions.Schema.Shape

/-! Schema tables: how the slots of a record are named, bound and checked. -/

namespace DocOptions

/-- What a table says of a field of any kind. -/
structure FieldSpec where
  ident : String
  explicitName : Option String
  rules : List RuleSpec
  default : Option String
  deriving DecidableEq

/-- A field with the name that follows from its identifier, and without rules. -/
def field (ident : String) : FieldSpec :=
  ⟨ident, none, [], none⟩

namespace FieldSpec

def named (spec : FieldSpec) (name : String) : FieldSpec :=
  { spec with explicitName := some name }

def rule (spec : FieldSpec) (rule : RuleSpec) : FieldSpec :=
  { spec with rules := spec.rules ++ [rule] }

def required (spec : FieldSpec) : FieldSpec :=
  spec.rule .required

def oneOf (spec : FieldSpec) (literals : List String) : FieldSpec :=
  spec.rule (.oneOf literals)

/-- Sets the literal that stands in for an unset value where the rule `in` checks it. -/
def defaultValue (spec : FieldSpec) (literal : String) : FieldSpec :=
  { spec with default := some literal }

/-- The name that directives use for the field: the explicit one or the identifier in kebab case. -/
def name (spec : FieldSpec) : String :=
  spec.explicitName.getD (Naming.Style.kebab.apply spec.ident)

end FieldSpec

/-- The fields of a shape with what a schema says of them. A composite carries the name and the
table of its own schema. -/
inductive Table : Shape → Type
  | nil : Table .nil
  | leaf {rest : Shape} (spec : FieldSpec) (kind : Leaf) (next : Table rest) :
      Table (.leaf kind rest)
  | composite {nested rest : Shape} (spec : FieldSpec) (kind : Composite) (name : String)
      (inner : Table nested) (next : Table rest) : Table (.composite kind nested rest)

/-- A named table. The name starts the paths of the fields and the messages about the table. -/
structure Schema (shape : Shape) where
  name : String
  table : Table shape

/-- Where a field takes its value from. -/
inductive Source
  | key
  | value
  | param
  | option
  | options
  deriving DecidableEq

def ScalarSource.source : ScalarSource → Source
  | key => .key
  | value => .value
  | param => .param

def Leaf.source : Leaf → Source
  | scalar source _ => source.source
  | flag => .key
  | list _ => .key
  | optionFlag => .option
  | options => .options

/-- What fields are read from: directives of their own below a key, or one directive for all. -/
inductive Mode
  | namespaced
  | inline
  deriving DecidableEq

/-- The mode that the fields of a composite are read in. -/
def Composite.mode : Composite → Mode
  | group => .namespaced
  | inline => .inline
  | inlineList => .inline

namespace Table

/-- The shape of the records that a table binds. -/
@[reducible] def shape {shape : Shape} (_ : Table shape) : Shape :=
  shape

def size : {shape : Shape} → Table shape → Nat
  | _, nil => 0
  | _, leaf _ _ next => next.size + 1
  | _, composite _ _ _ _ next => next.size + 1

end Table
end DocOptions
