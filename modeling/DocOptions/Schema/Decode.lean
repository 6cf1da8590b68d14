import DocOptions.Diagnostic
import DocOptions.Directive.Index
import DocOptions.Schema.Verify
import DocOptions.Trace

/-! Binding a record from directives, as a schema says. Each field takes its value, if the
directives have one for it, and then its rules check what it holds. A value that cannot be
converted, or that a rule refuses, is reported and stops nothing.

Binding passes over a leaf that is read from the directive of a composite among fields with keys of
their own, over a composite inside an inline composite, and over a rule that is not registered or
that stands at a field without a value to check. Beside each step of binding stands the same step
with these places left open, so that something else, with any effects, can be put in for them. -/

namespace DocOptions

/-- What happened while fields were bound. -/
structure Report where
  diagnostics : Diagnostics
  trace : Trace
  /-- The keys that a field looked up and found. -/
  consumed : TextSet

namespace Report

def empty : Report := ⟨∅, ∅, ∅⟩

instance : EmptyCollection Report := ⟨empty⟩

instance : Inhabited Report := ⟨∅⟩

/-- What happened first and what happened after. -/
def append (first second : Report) : Report :=
  ⟨first.diagnostics ++ second.diagnostics, first.trace.override second.trace,
    first.consumed.override second.consumed⟩

instance : Append Report := ⟨append⟩

def ofDiagnostics (items : List Diagnostic) : Report :=
  { Report.empty with diagnostics := ⟨items⟩ }

/-- A field was bound from an occurrence. -/
def bound (path : String) (source : Occurrence) : Report :=
  { Report.empty with trace := .singleton path source }

/-- A key was found, unless `found` is empty. -/
def consume (key : String) (found : List Occurrence) : Report :=
  { Report.empty with consumed := if found.isEmpty then ∅ else .singleton key () }

end Report

/-- How a field is referred to: by messages, by the key they carry, and in traces. -/
structure Site where
  subject : String
  key : String
  path : String

/-- What binding a leaf led to. The rules check the slot unless its value could not be converted. -/
structure Binding (α : Type) where
  slot : α
  report : Report
  converted : Bool

namespace Binding

/-- Nothing was there to bind. -/
def absent (slot : α) : Binding α :=
  ⟨slot, ∅, true⟩

def bound (slot : α) (site : Site) (source : Occurrence) : Binding α :=
  ⟨slot, .bound site.path source, true⟩

/-- Takes a converted value, or keeps the slot and reports why the text has no value. -/
def settle (slot : α) (site : Site) (source : Occurrence) :
    Except ConversionError α → Binding α
  | .ok value => .bound value site source
  | .error e =>
    ⟨slot, .ofDiagnostics
      [⟨.failure, s!"{site.subject}: {e.message}", some site.key, some source.position⟩], false⟩

end Binding

/-- What is done where binding passes over something. -/
structure Omissions (m : Type → Type) where
  leaf : FieldSpec → (kind : Leaf) → kind.Slot → m (Binding kind.Slot)
  composite : {nested : Shape} → FieldSpec → (kind : Composite) → kind.Slot nested.Record →
    m (kind.Slot nested.Record × Report)
  rule : FieldSpec → RuleSpec → m (Option Diagnostic)

/-- The slot is kept and nothing is reported. -/
def Omissions.silent {m : Type → Type} [Monad m] : Omissions m where
  leaf _ _ slot := pure ⟨slot, ∅, false⟩
  composite _ _ slot := pure (slot, ∅)
  rule _ _ := pure none

/-- Stops at the first omission and names its field. -/
def Omissions.loud : Omissions (Except FieldSpec) where
  leaf spec _ _ := .error spec
  composite spec _ _ := .error spec
  rule spec _ := .error spec

variable {m : Type → Type} [Monad m] (omitted : Omissions m)

/-- The refusals of a field's rules, in their order. Rules that are not registered check nothing. -/
def FieldSpec.refusals (spec : FieldSpec) (rules : RuleRegistry) (site : Site)
    (position : Option Position) (view : ValueView) : List Diagnostic :=
  spec.rules.filterMap fun rule =>
    (rules.get? rule.name).bind fun check =>
      (check.refusal? ⟨site.subject, rule.params, spec.default⟩ view).map fun message =>
        ⟨.failure, message, some site.key, position⟩

/-- The refusals of a field's rules, with a rule that is not registered left open. -/
def FieldSpec.check (rules : RuleRegistry) (spec : FieldSpec) (site : Site)
    (position : Option Position) (view : ValueView) : m (List Diagnostic) :=
  spec.rules.filterMapM fun rule =>
    match rules.get? rule.name with
    | some check => pure <|
      (check.refusal? ⟨site.subject, rule.params, spec.default⟩ view).map fun message =>
        ⟨.failure, message, some site.key, position⟩
    | none => omitted.rule spec rule

/-- What becomes of the rules of a field that has no value to check. -/
def FieldSpec.omitRules (spec : FieldSpec) : m (List Diagnostic) :=
  spec.rules.filterMapM (omitted.rule spec)

namespace Leaf

/-- Whether the leaf is looked up under a key of its own. -/
def ownsKey : Leaf → Bool
  | scalar _ _ | flag | list _ => true
  | optionFlag | options => false

/-- Binds a leaf from the first directive of its key. A leaf that is read from the directive of a
composite has none. -/
def bindOwn (site : Site) (found : Option Occurrence) :
    (kind : Leaf) → kind.Slot → Binding kind.Slot
  | scalar _ type, slot =>
    match found with
    | none => .absent slot
    | some source => .settle slot site source (type.read source.directive.value)
  | flag, slot =>
    match found with
    | none => .absent (slot : Bool)
    | some source => .bound true site source
  | list type, slot =>
    match found with
    | none => .absent (slot : List type.Value)
    | some source => .settle slot site source (type.readList source.directive.options)
  | optionFlag, slot => ⟨slot, ∅, false⟩
  | options, slot => ⟨slot, ∅, false⟩

/-- Binds a leaf from the first directive of its key, with a leaf that has none left open. -/
def walkOwn (spec : FieldSpec) (site : Site) (found : Option Occurrence) (kind : Leaf)
    (slot : kind.Slot) : m (Binding kind.Slot) :=
  if kind.ownsKey then pure (kind.bindOwn site found slot) else omitted.leaf spec kind slot

/-- The text that a scalar takes from the directive of its composite. -/
def inlineText? (source : ScalarSource) (name : String) (directive : Directive) : Option String :=
  match source with
  | .key => none
  | .value => directive.options.head?
  | .param => directive.param? name

/-- Binds a leaf from the directive of its composite. A leaf that has directives of its own is not
bound. -/
def bindInline (site : Site) (name : String) (source : Occurrence) :
    (kind : Leaf) → kind.Slot → Binding kind.Slot
  | scalar origin type, slot =>
    match inlineText? origin name source.directive with
    | none => .absent slot
    | some text => .settle slot site source (type.read text)
  | flag, slot => .absent (slot : Bool)
  | list type, slot => .absent (slot : List type.Value)
  | optionFlag, slot =>
    if source.directive.hasOption name then .bound true site source else .absent (slot : Bool)
  | options, _ => .bound source.directive.options site source

end Leaf

/-- What a leaf's binding and then its rules report. -/
def Binding.reportChecked {kind : Leaf} (binding : Binding kind.Slot) (spec : FieldSpec)
    (rules : RuleRegistry) (site : Site) (position : Option Position) : Report :=
  if binding.converted then
    binding.report ++
      .ofDiagnostics (spec.refusals rules site position (kind.view binding.slot))
  else binding.report

def Binding.walkChecked (rules : RuleRegistry) {kind : Leaf} (binding : Binding kind.Slot)
    (spec : FieldSpec) (site : Site) (position : Option Position) : m Report :=
  if binding.converted then do
    let refused ← spec.check omitted rules site position (kind.view binding.slot)
    return binding.report ++ .ofDiagnostics refused
  else return binding.report

namespace Table

variable (rules : RuleRegistry)

/-- Binds the fields of an inline composite from one occurrence of its key. -/
def bindInline (source : Occurrence) (path : String) :
    {shape : Shape} → Table shape → shape.Record → shape.Record × Report
  | _, nil, record => (record, ∅)
  | _, leaf spec kind next, (slot, rest) =>
    let name := spec.name
    let site : Site := ⟨s!"{source.key} {name}", source.key, s!"{path}.{spec.ident}"⟩
    let binding := kind.bindInline site name source slot
    let (rest, report) := next.bindInline source path rest
    ((binding.slot, rest),
      binding.reportChecked spec rules site (some source.position) ++ report)
  | _, composite _ _ _ _ next, (slot, rest) =>
    let (rest, report) := next.bindInline source path rest
    ((slot, rest), report)

/-- Binds the fields of an inline composite, with the composites inside it left open. -/
def walkInline (source : Occurrence) (path : String) :
    {shape : Shape} → Table shape → shape.Record → m (shape.Record × Report)
  | _, nil, record => return (record, ∅)
  | _, leaf spec kind next, (slot, rest) => do
    let site : Site := ⟨s!"{source.key} {spec.name}", source.key, s!"{path}.{spec.ident}"⟩
    let binding := kind.bindInline site spec.name source slot
    let own ← binding.walkChecked omitted rules spec site (some source.position)
    let others ← next.walkInline source path rest
    return ((binding.slot, others.1), own ++ others.2)
  | _, composite spec kind _ _ next, (slot, rest) => do
    let inside ← omitted.composite spec kind slot
    let others ← next.walkInline source path rest
    return ((inside.1, others.1), inside.2 ++ others.2)

/-- A new record of an inline composite, bound from one occurrence of its key. -/
def bindElement {shape : Shape} (table : Table shape) (path : String) (source : Occurrence) :
    shape.Record × Report :=
  let (record, report) := table.bindInline rules source path shape.zero
  (record, .bound path source ++ report)

def walkElement {shape : Shape} (table : Table shape) (path : String) (source : Occurrence) :
    m (shape.Record × Report) := do
  let inside ← table.walkInline omitted rules source path shape.zero
  return (inside.1, .bound path source ++ inside.2)

/-- The elements of an inline list, one for each occurrence of its key. -/
def bindElements {shape : Shape} (table : Table shape) (path : String) (sources : List Occurrence) :
    List shape.Record × Report :=
  let elements := sources.zipIdx.map fun (source, i) =>
    table.bindElement rules s!"{path}[{i}]" source
  (elements.map (·.1), (elements.map (·.2)).foldl (· ++ ·) ∅)

def walkElements {shape : Shape} (table : Table shape) (path : String)
    (sources : List Occurrence) : m (List shape.Record × Report) := do
  let elements ← sources.zipIdx.mapM fun (source, i) =>
    table.walkElement omitted rules s!"{path}[{i}]" source
  return (elements.map (·.1), (elements.map (·.2)).foldl (· ++ ·) ∅)

/-- Binds an inline composite from the first occurrence of its key, or leaves it as it is. -/
def walkFirst {shape : Shape} (table : Table shape) (key path : String)
    (found : Option Occurrence) (slot : shape.Record) : m (shape.Record × Report) :=
  match found with
  | none => return (slot, ∅)
  | some source => do
    let element ← table.walkElement omitted rules path source
    return (element.1, .consume key [source] ++ element.2)

/-- Binds fields from the directives whose keys are `scope`, a hyphen and the name of a field. -/
def bind (index : DirectiveIndex) :
    {shape : Shape} → Table shape → (scope path : String) → shape.Record → shape.Record × Report
  | _, nil, _, _, record => (record, ∅)
  | _, leaf spec kind next, scope, path, (slot, rest) =>
    let key := s!"{scope}-{spec.name}"
    let site : Site := ⟨key, key, s!"{path}.{spec.ident}"⟩
    let found := index.get? key
    let binding := kind.bindOwn site found slot
    let (rest, report) := next.bind index scope path rest
    ((binding.slot, rest),
      .consume key (if kind.ownsKey then found.toList else []) ++
        binding.reportChecked spec rules site (found.map (·.position)) ++ report)
  | _, composite spec .group _ inner next, scope, path, (slot, rest) =>
    let (slot, here) :=
      inner.bind index s!"{scope}-{spec.name}" s!"{path}.{spec.ident}" slot
    let (rest, report) := next.bind index scope path rest
    ((slot, rest), here ++ report)
  | _, composite spec .inline _ inner next, scope, path, (slot, rest) =>
    let key := s!"{scope}-{spec.name}"
    let (slot, here) :=
      match index.get? key with
      | none => (slot, ∅)
      | some source =>
        let (record, report) := inner.bindElement rules s!"{path}.{spec.ident}" source
        (record, .consume key [source] ++ report)
    let (rest, report) := next.bind index scope path rest
    ((slot, rest), here ++ report)
  | _, composite spec .inlineList _ inner next, scope, path, (slot, rest) =>
    let key := s!"{scope}-{spec.name}"
    let site : Site := ⟨key, key, s!"{path}.{spec.ident}"⟩
    let found := index.getAll key
    let (elements, here) := inner.bindElements rules site.path found
    let slot := if found.isEmpty then slot else elements
    let checked := spec.refusals rules site (found.head?.map (·.position)) (.ofList slot)
    let (rest, report) := next.bind index scope path rest
    ((slot, rest), .consume key found ++ here ++ .ofDiagnostics checked ++ report)

/-- Binds the fields of a table, with the places where something is passed over left open. With
silence in them it is `bind`. -/
def walk (index : DirectiveIndex) :
    {shape : Shape} → Table shape → (scope path : String) → shape.Record →
      m (shape.Record × Report)
  | _, nil, _, _, record => return (record, ∅)
  | _, leaf spec kind next, scope, path, (slot, rest) => do
    let key := s!"{scope}-{spec.name}"
    let site : Site := ⟨key, key, s!"{path}.{spec.ident}"⟩
    let found := index.get? key
    let binding ← kind.walkOwn omitted spec site found slot
    let own ← binding.walkChecked omitted rules spec site (found.map (·.position))
    let others ← next.walk index scope path rest
    return ((binding.slot, others.1),
      .consume key (if kind.ownsKey then found.toList else []) ++ own ++ others.2)
  | _, composite spec .group _ inner next, scope, path, (slot, rest) => do
    let unchecked ← spec.omitRules omitted
    let inside ← inner.walk index s!"{scope}-{spec.name}" s!"{path}.{spec.ident}" slot
    let others ← next.walk index scope path rest
    return ((inside.1, others.1), .ofDiagnostics unchecked ++ inside.2 ++ others.2)
  | _, composite spec .inline _ inner next, scope, path, (slot, rest) => do
    let key := s!"{scope}-{spec.name}"
    let unchecked ← spec.omitRules omitted
    let inside ←
      inner.walkFirst omitted rules key s!"{path}.{spec.ident}" (index.get? key) slot
    let others ← next.walk index scope path rest
    return ((inside.1, others.1), .ofDiagnostics unchecked ++ inside.2 ++ others.2)
  | _, composite spec .inlineList _ inner next, scope, path, (slot, rest) => do
    let key := s!"{scope}-{spec.name}"
    let site : Site := ⟨key, key, s!"{path}.{spec.ident}"⟩
    let found := index.getAll key
    let elements ← inner.walkElements omitted rules site.path found
    let slot := if found.isEmpty then slot else elements.1
    let refused ← spec.check omitted rules site (found.head?.map (·.position)) (.ofList slot)
    let others ← next.walk index scope path rest
    return ((slot, others.1),
      .consume key found ++ elements.2 ++ .ofDiagnostics refused ++ others.2)

end Table

/-- A record and what happened while it was bound. -/
structure Decoded (shape : Shape) where
  value : shape.Record
  report : Report

namespace Decoded

variable {shape : Shape}

def hasFailures (decoded : Decoded shape) : Bool :=
  decoded.report.diagnostics.hasFailures

/-- The directives at or below a key that no field looked up. -/
def unused (decoded : Decoded shape) (scope : String) (index : DirectiveIndex) : List Occurrence :=
  (index.under scope).filter fun source => !decoded.report.consumed.contains source.key

end Decoded

namespace Schema

variable {shape : Shape}

/-- Binds a record that is there already; a field without a directive keeps what it holds. A schema
that is at fault binds nothing. -/
def decodeInto (schema : Schema shape) (rules : RuleRegistry) (scope : String)
    (index : DirectiveIndex) (record : shape.Record) : Except SchemaError (Decoded shape) :=
  if scope.isEmpty then .error .emptyPrefix
  else do
    schema.verify rules
    let (value, report) := schema.table.bind rules index scope schema.name record
    return ⟨value, report⟩

/-- Binds a record in place, so a fault found too late would leave it half bound. -/
def decodeInPlace (schema : Schema shape) (rules : RuleRegistry) (scope : String)
    (index : DirectiveIndex) : ExceptT SchemaError (StateM shape.Record) Report := do
  if scope.isEmpty then throw .emptyPrefix
  schema.verify rules
  let (record, report) := schema.table.bind rules index scope schema.name (← get)
  set record
  return report

/-- In place a record becomes the decoded one, or it stays. -/
theorem run_decodeInPlace (schema : Schema shape) (rules : RuleRegistry) (scope : String)
    (index : DirectiveIndex) (start : shape.Record) :
    (schema.decodeInPlace rules scope index).run.run start =
      match schema.decodeInto rules scope index start with
      | .ok decoded => (.ok decoded.report, decoded.value)
      | .error error => (.error error, start) := by
  unfold decodeInPlace decodeInto
  cases scope.isEmpty with
  | true => rfl
  | false =>
    cases schema.verify rules with
    | ok => rfl
    | error e => rfl

/-- Binds a new record. -/
def decode (schema : Schema shape) (rules : RuleRegistry) (scope : String)
    (index : DirectiveIndex) : Except SchemaError (Decoded shape) :=
  schema.decodeInto rules scope index shape.zero

end Schema
end DocOptions
