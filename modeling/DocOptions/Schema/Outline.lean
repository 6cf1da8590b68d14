import DocOptions.Schema.Basic

/-! Schemas described for readers of a program. -/

namespace DocOptions

open Text

def Leaf.label : Leaf → String
  | scalar _ _ => "scalar"
  | flag => "flag"
  | list _ => "list"
  | optionFlag => "option flag"
  | options => "options"

def Composite.label : Composite → String
  | group => "group"
  | inline => "inline"
  | inlineList => "inline list"

/-- What can be said of a field without its nested fields. -/
structure FieldSummary where
  spec : FieldSpec
  source : Source
  label : String
  deriving DecidableEq

def Table.fields : {shape : Shape} → Table shape → List FieldSummary
  | _, .nil => []
  | _, .leaf spec kind next => ⟨spec, kind.source, kind.label⟩ :: next.fields
  | _, .composite spec kind _ _ next => ⟨spec, .key, kind.label⟩ :: next.fields

def Source.outline : Source → String
  | key => "Key"
  | value => "Value"
  | param => "Param"
  | option => "Option"
  | options => "Options"

def RuleSpec.outline (rule : RuleSpec) : String :=
  outlineRecord "RuleSpec"
    [("name", quoted rule.name), ("params", outlineMap rule.params.entries)]

namespace FieldSummary

def outlineSpec (summary : FieldSummary) : String :=
  let spec := summary.spec
  outlineRecord "FieldSpec"
    [("ident", quoted spec.ident), ("name", outlineOption spec.explicitName),
      ("source", summary.source.outline), ("rules", outlineList (spec.rules.map (·.outline))),
      ("default", outlineOption spec.default)]

def outline (summary : FieldSummary) : String :=
  outlineRecord "Field" [("spec", summary.outlineSpec), ("kind", quoted summary.label)]

end FieldSummary

def Schema.outline {shape : Shape} (schema : Schema shape) : String :=
  outlineRecord "Schema"
    [("name", quoted schema.name),
      ("fields", outlineList (schema.table.fields.map (·.outline)))]

end DocOptions
