import DocOptions.Schema.Basic

/-! Faults of schema tables. A table is checked before anything is bound, so a fault of a table
never leaves a record half bound. -/

namespace DocOptions

/-- Why a schema cannot be used. -/
inductive SchemaError
  | emptyPrefix
  | unknownRule (schema field rule : String)
  | ruleOnComposite (schema field : String)
  | duplicateName (schema name : String)
  | inlineOnly (schema field : String) (source : Source)
  | nestedInline (schema field : String)
  deriving DecidableEq

/-- How messages name a source. -/
def Source.policy : Source → String
  | key => "key"
  | value => "fromValue"
  | param => "fromParam"
  | option => "fromOption"
  | options => "fromOptions"

def SchemaError.message : SchemaError → String
  | emptyPrefix => "annotation prefix must not be empty"
  | unknownRule schema field rule => s!"{schema}.{field}: unknown validation rule `{rule}`"
  | ruleOnComposite schema field =>
    s!"{schema}.{field}: validation rules are not supported on this field kind"
  | duplicateName schema name =>
    s!"{schema}: annotation name `{name}` is bound by more than one field"
  | inlineOnly schema field source =>
    s!"{schema}.{field}: `{source.policy}` extraction is only valid inside an inline composite"
  | nestedInline schema field =>
    s!"{schema}.{field}: nested composites cannot appear inside an inline composite"

/-- The faults that a field of any kind can have: a name that is taken, then a rule that is not
registered. -/
def FieldSpec.verify (spec : FieldSpec) (rules : RuleRegistry) (schema : String)
    (taken : List String) : Except SchemaError Unit :=
  if spec.name ∈ taken then .error (.duplicateName schema spec.name)
  else
    match spec.rules.find? fun rule => !rules.contains rule.name with
    | some unknown => .error (.unknownRule schema spec.ident unknown.name)
    | none => .ok ()

/-- The faults of a leaf in a mode. -/
def Leaf.verify (kind : Leaf) (mode : Mode) (schema ident : String) : Except SchemaError Unit :=
  if mode = .namespaced ∧ kind.source ≠ .key then .error (.inlineOnly schema ident kind.source)
  else .ok ()

/-- The faults of a composite in a mode, apart from those of its own table. -/
def Composite.verify (kind : Composite) (mode : Mode) (schema : String) (spec : FieldSpec) :
    Except SchemaError Unit :=
  if mode = .inline then .error (.nestedInline schema spec.ident)
  else if kind ≠ .inlineList ∧ spec.rules ≠ [] then .error (.ruleOnComposite schema spec.ident)
  else .ok ()

namespace Table

/-- Checks the fields in order, the tables of composites in place, and returns the first fault.
`taken` are the names of the fields before. -/
def verify (rules : RuleRegistry) : {shape : Shape} → Table shape → (schema : String) →
    (mode : Mode) → (taken : List String) → Except SchemaError Unit
  | _, nil, _, _, _ => .ok ()
  | _, leaf spec kind next, schema, mode, taken => do
    spec.verify rules schema taken
    kind.verify mode schema spec.ident
    next.verify rules schema mode (spec.name :: taken)
  | _, composite spec kind name inner next, schema, mode, taken => do
    spec.verify rules schema taken
    kind.verify mode schema spec
    inner.verify rules name kind.mode []
    next.verify rules schema mode (spec.name :: taken)

end Table

/-- Checks a schema whose fields are to be read from directives of their own. -/
def Schema.verify {shape : Shape} (schema : Schema shape) (rules : RuleRegistry) :
    Except SchemaError Unit :=
  schema.table.verify rules schema.name .namespaced []

end DocOptions
