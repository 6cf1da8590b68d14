import DocOptions.Proofs.Schema.Composites
import DocOptions.Proofs.Schema.Elements

/-! Inline composites of a decode. A list has one element for each occurrence of its key, made from
a new record and that occurrence alone; a single inline composite is what the first element of such
a list is. Without an occurrence both stay as they are. -/

namespace DocOptions

/-- What a decode does with an inline list, `sources` being the occurrences of its key. -/
structure InlineListOutcome {nested : Shape} (inner : Table nested) (rules : RuleRegistry)
    (spec : FieldSpec) (key path : String) (sources : List Occurrence)
    (start final : List nested.Record) (own : Report) : Prop where
  kept : sources = [] → final = start ∧ own.trace = ∅ ∧ own.consumed = ∅
  elements : sources ≠ [] → final = sources.map fun source => inner.element source.directive
  /-- The findings about the elements stand before those about the list. -/
  findings : own.diagnostics.items = sources.flatMap (inner.elementFindings rules) ++
    spec.refusals rules ⟨key, key, path⟩ (sources.head?.map (·.position)) (.ofList final)
  /-- An element is traced to its own occurrence, and so is every field that it has from there. -/
  marked : ∀ (i : Nat) source, sources[i]? = some source →
    own.trace.get? s!"{path}[{i}]" = some source
  traced : ∀ place entry, own.trace.get? place = some entry →
    ∃ i : Nat, sources[i]? = some entry ∧ PathWithin s!"{path}[{i}]" place

/-- What a decode does with a single inline composite. -/
structure InlineOutcome {nested : Shape} (inner : Table nested) (rules : RuleRegistry)
    (path : String) (sources : List Occurrence) (start final : nested.Record) (own : Report) :
    Prop where
  kept : sources = [] → final = start ∧ own = ∅
  element : ∀ first ∈ sources.head?, final = inner.element first.directive ∧
    own.diagnostics.items = inner.elementFindings rules first
  traced : ∀ place entry, own.trace.get? place = some entry →
    sources.head? = some entry ∧ PathWithin path place

namespace Table

variable (rules : RuleRegistry) (index : DirectiveIndex) (spec : FieldSpec) (scope path : String)
  {nested : Shape} (inner : Table nested)

/-- The trace of an inline list is that of its elements. -/
theorem trace_bindInlineList (slot : List nested.Record) :
    (bindComposite rules index spec scope path inner .inlineList slot).2.trace =
      (inner.bindElements rules s!"{path}.{spec.ident}"
        (index.getAll s!"{scope}-{spec.name}")).2.trace := by
  simp only [bindComposite, Report.trace_append, Report.consume, Report.ofDiagnostics]
  exact (TextMap.override_empty _).trans (TextMap.empty_override _)

theorem inlineListOutcome (slot : List nested.Record) :
    let key := s!"{scope}-{spec.name}"
    let bound := bindComposite rules index spec scope path inner .inlineList slot
    InlineListOutcome inner rules spec key s!"{path}.{spec.ident}" (index.getAll key) slot bound.1
      bound.2 := by
  intro key bound
  let place := s!"{path}.{spec.ident}"
  obtain ⟨elements, findings⟩ := inner.bindElements_eq rules place (index.getAll key)
  have trace : bound.2.trace = (inner.bindElements rules place (index.getAll key)).2.trace :=
    trace_bindInlineList rules index spec scope path inner slot
  constructor
  case kept =>
    intro absent
    have report : bound.2 = .consume key [] ++ ∅ ++ .ofDiagnostics
        (spec.refusals rules ⟨key, key, place⟩ (([] : List Occurrence).head?.map (·.position))
          (.ofList slot)) := by
      simp only [bound, bindComposite, key, absent]
      rfl
    have final : bound.1 = slot := by
      simp only [bound, bindComposite, key, absent]
      rfl
    rw [report]
    exact ⟨final, rfl, rfl⟩
  case elements =>
    intro present
    have final : bound.1 = (inner.bindElements rules place (index.getAll key)).1 :=
      if_neg (by simpa using present)
    rw [final, elements]
  case findings =>
    have report : bound.2.diagnostics.items =
        (inner.bindElements rules place (index.getAll key)).2.diagnostics.items ++
          spec.refusals rules ⟨key, key, place⟩ ((index.getAll key).head?.map (·.position))
            (.ofList bound.1) := rfl
    rw [report, findings]
  case marked =>
    intro i source listed
    have own := inner.get?_bindElements rules place listed ""
    rw [String.append_empty] at own
    rw [trace, own, inner.get?_bindElement_self]
  case traced =>
    intro spot entry found
    rw [trace] at found
    exact inner.traced_bindElements rules place found

theorem bindComposite_inline (slot : nested.Record) {source : Occurrence}
    (found : index.get? s!"{scope}-{spec.name}" = some source) :
    bindComposite rules index spec scope path inner .inline slot =
      ((inner.bindElement rules s!"{path}.{spec.ident}" source).1,
        .consume s!"{scope}-{spec.name}" [source] ++
          (inner.bindElement rules s!"{path}.{spec.ident}" source).2) := by
  rw [bindComposite, found]

theorem inlineOutcome (slot : nested.Record) :
    let key := s!"{scope}-{spec.name}"
    let bound := bindComposite rules index spec scope path inner .inline slot
    InlineOutcome inner rules s!"{path}.{spec.ident}" (index.getAll key) slot bound.1 bound.2 := by
  intro key bound
  let place := s!"{path}.{spec.ident}"
  have fromFirst (first : Occurrence) (found : index.get? key = some first) :
      bound = ((inner.bindElement rules place first).1,
        .consume key [first] ++ (inner.bindElement rules place first).2) :=
    bindComposite_inline rules index spec scope path inner slot found
  have fromNone (absent : index.get? key = none) : bound = (slot, ∅) := by
    simp only [bound, bindComposite, key, absent]
  constructor
  case kept =>
    intro absent
    rw [fromNone (congrArg List.head? absent)]
    exact ⟨rfl, rfl⟩
  case element =>
    intro first found
    obtain ⟨value, findings⟩ := inner.bindElement_eq rules place first
    rw [fromFirst first found]
    exact ⟨value, findings⟩
  case traced =>
    intro spot entry traced
    cases found : index.get? key with
    | none =>
      rw [fromNone found] at traced
      cases traced
    | some first =>
      rw [fromFirst first found, Report.trace_consume_append] at traced
      have within := inner.within_bindElement rules (List.mem_singleton_self first) (.refl place)
      obtain ⟨member, inside⟩ := within.traced spot entry traced
      exact ⟨List.mem_singleton.mp member ▸ found, inside⟩

/-- A single inline composite traces below its path what the first element of a list traces below
its own. -/
theorem get?_trace_inline {other : FieldSpec} {around below : String} {source : Occurrence}
    (found : index.get? s!"{scope}-{spec.name}" = some source)
    (same : s!"{around}-{other.name}" = s!"{scope}-{spec.name}") (slot : List nested.Record)
    (slot' : nested.Record) (rest : String) :
    (bindComposite rules index other around below inner .inline slot').2.trace.get?
        (s!"{below}.{other.ident}" ++ rest) =
      (bindComposite rules index spec scope path inner .inlineList slot).2.trace.get?
        (s!"{path}.{spec.ident}" ++ "[0]" ++ rest) := by
  let place := s!"{path}.{spec.ident}"
  have zeroth : place ++ "[0]" = s!"{place}[{0}]" :=
    calc place ++ "[0]" = place ++ ("[" ++ (toString 0 ++ "]")) := rfl
      _ = s!"{place}[{0}]" := by
        simp only [← String.append_assoc]
        rfl
  have listed : (index.getAll s!"{scope}-{spec.name}")[0]? = some source :=
    List.head?_eq_getElem?.symm.trans found
  have moves := (inner.relocatable_bindElement rules source).rerooted s!"{place}[{0}]"
    s!"{below}.{other.ident}"
  rw [bindComposite_inline rules index other around below inner slot' (same ▸ found),
    Report.trace_consume_append, trace_bindInlineList, moves.same, zeroth,
    inner.get?_bindElements rules place listed]

end Table

/-- What the first element of a list holds and reports is what a single inline composite does. -/
theorem InlineListOutcome.agrees {nested : Shape} {inner : Table nested} {rules : RuleRegistry}
    {spec : FieldSpec} {key path place : String} {sources : List Occurrence}
    {start final : List nested.Record} {kept single : nested.Record} {own report : Report}
    (outcome : InlineListOutcome inner rules spec key path sources start final own)
    (first : InlineOutcome inner rules place sources kept single report) (present : sources ≠ []) :
    final.head? = some single ∧ report.diagnostics.items <+: own.diagnostics.items := by
  obtain ⟨source, others, rfl⟩ := List.exists_cons_of_ne_nil present
  obtain ⟨value, findings⟩ := first.element source rfl
  constructor
  · rw [outcome.elements present, value]
    rfl
  · rw [outcome.findings, findings, List.flatMap_cons, List.append_assoc]
    exact List.prefix_append ..

namespace CompositeRef

variable {nested shape : Shape} {spec : FieldSpec} {name : String} {inner : Table nested}
  {schema : Schema shape} {rules : RuleRegistry} {scope : String} {index : DirectiveIndex}
  {start : shape.Record} {key : String} {sources : List Occurrence}

theorem exists_inlineListOutcome
    (list : CompositeRef spec .inlineList name inner schema.table)
    (accepted : schema.verify rules = .ok ()) (nonempty : scope ≠ "")
    (same : list.key scope = key) (all : index.getAll key = sources) :
    let own := (Table.bindComposite rules index spec (list.scope scope) (list.root schema.name)
      inner .inlineList (list.get start)).2
    ∃ whole, list.Decodes rules scope index start whole own ∧
      InlineListOutcome inner rules spec key (list.path schema.name) sources (list.get start)
        (list.get whole.value) own := by
  obtain ⟨whole, decodes, slot⟩ := list.exists_decodes accepted nonempty index start
  have outcome := inner.inlineListOutcome rules index spec (list.scope scope)
    (list.root schema.name) (list.get start)
  subst same all
  exact ⟨whole, decodes, slot ▸ outcome⟩

theorem exists_inlineOutcome
    (single : CompositeRef spec .inline name inner schema.table)
    (accepted : schema.verify rules = .ok ()) (nonempty : scope ≠ "")
    (same : single.key scope = key) (all : index.getAll key = sources) :
    let own := (Table.bindComposite rules index spec (single.scope scope) (single.root schema.name)
      inner .inline (single.get start)).2
    ∃ whole, single.Decodes rules scope index start whole own ∧
      InlineOutcome inner rules (single.path schema.name) sources (single.get start)
        (single.get whole.value) own := by
  obtain ⟨whole, decodes, slot⟩ := single.exists_decodes accepted nonempty index start
  have outcome := inner.inlineOutcome rules index spec (single.scope scope)
    (single.root schema.name) (single.get start)
  subst same all
  exact ⟨whole, decodes, slot ▸ outcome⟩

end CompositeRef

namespace Schema

variable {shape : Shape}

/-- In a decode with an accepted schema an inline list, at any depth, has one element for each
occurrence of its key and nothing but its own occurrence shows in an element. A single inline
composite with the same table and key, in any decode, is bound, reported and traced as the first
element is. -/
theorem decodeInto_inline_composites (schema : Schema shape) (rules : RuleRegistry)
    (accepted : schema.verify rules = .ok ()) (scope : String) (nonempty : scope ≠ "")
    (index : DirectiveIndex) (start : shape.Record) {nested : Shape} {spec : FieldSpec}
    {name : String} {inner : Table nested}
    (list : CompositeRef spec .inlineList name inner schema.table) :
    let sources := index.entries.filter (·.key == list.key scope)
    ∃ whole own, list.Decodes rules scope index start whole own ∧
      InlineListOutcome inner rules spec (list.key scope) (list.path schema.name) sources
        (list.get start) (list.get whole.value) own ∧
      ∀ {shape' : Shape} (schema' : Schema shape'), schema'.verify rules = .ok () →
        ∀ scope' ≠ "", ∀ (start' : shape'.Record) {spec' : FieldSpec} {name' : String}
          (single : CompositeRef spec' .inline name' inner schema'.table),
          single.key scope' = list.key scope →
        ∃ whole' own', single.Decodes rules scope' index start' whole' own' ∧
          InlineOutcome inner rules (single.path schema'.name) sources (single.get start')
            (single.get whole'.value) own' ∧
          (sources ≠ [] →
            (list.get whole.value).head? = some (single.get whole'.value) ∧
            own'.diagnostics.items <+: own.diagnostics.items ∧
            ∀ rest, own'.trace.get? (single.path schema'.name ++ rest) =
              own.trace.get? (list.path schema.name ++ "[0]" ++ rest)) := by
  intro sources
  have all : index.getAll (list.key scope) = sources := index.getAll_eq (list.key scope)
  obtain ⟨whole, decodes, outcome⟩ := list.exists_inlineListOutcome accepted nonempty rfl all
  refine ⟨whole, _, decodes, outcome, ?_⟩
  intro shape' schema' accepted' scope' nonempty' start' spec' name' single same
  obtain ⟨whole', decodes', outcome'⟩ :=
    single.exists_inlineOutcome accepted' nonempty' same all
  refine ⟨whole', _, decodes', outcome', fun present => ?_⟩
  obtain ⟨first, findings⟩ := outcome.agrees outcome' present
  obtain ⟨source, others, listed⟩ := List.exists_cons_of_ne_nil present
  have found : index.get? (list.key scope) = some source :=
    congrArg List.head? (all.trans listed)
  exact ⟨first, findings, Table.get?_trace_inline rules index spec (list.scope scope)
    (list.root schema.name) inner found same (list.get start) (single.get start')⟩

/-- Two occurrences of a key: the count of the first is no number, and the second has no name. -/
theorem decodeInto_inline_composites_two_columns :
    let inner :=
      Table.leaf (field "name").required (.scalar .value (.plain .string)) <|
      Table.leaf (field "count") (.scalar .param (.plain (.integer .int64))) <|
      Table.leaf (field "wide") .optionFlag .nil
    let schema : Schema _ :=
      ⟨"Options", .composite (field "column") .inlineList "Column" inner .nil⟩
    let schema' : Schema _ := ⟨"First", .composite (field "column") .inline "Column" inner .nil⟩
    let index := DirectiveIndex.ofList
      [⟨⟨"table-column", ["id", "wide"], .singleton "count" "many"⟩, .unknown⟩,
        ⟨⟨"table-column", [], .singleton "count" "2"⟩, .unknown⟩]
    let list : CompositeRef (field "column") .inlineList "Column" inner schema.table := .here
    let single : CompositeRef (field "column") .inline "Column" inner schema'.table := .here
    ∃ whole own whole' own',
      list.Decodes .standard "table" index schema.table.shape.zero whole own ∧
      whole.value.1 = [("id", 0, true, ()), ("", 2, false, ())] ∧
      own.diagnostics.items.length = 2 ∧
      single.Decodes .standard "table" index schema'.table.shape.zero whole' own' ∧
      some whole'.value.1 = whole.value.1.head? ∧
      own'.diagnostics.items.length = 1 ∧ own'.diagnostics.items <+: own.diagnostics.items ∧
      own'.trace.get? "First.column.name" = own.trace.get? "Options.column[0].name" := by
  intro inner schema schema' index list single
  obtain ⟨whole, own, decodes, outcome, asFirst⟩ :=
    schema.decodeInto_inline_composites .standard rfl "table" (by decide) index
      schema.table.shape.zero list
  obtain ⟨whole', own', decodes', outcome', agrees⟩ :=
    asFirst schema' rfl "table" (by decide) schema'.table.shape.zero single rfl
  obtain ⟨first, findings, trace⟩ := agrees (by decide +kernel)
  have value := outcome.elements (by decide +kernel)
  have value' := outcome'.element _ (by rfl)
  have place : list.path schema.name ++ "[0]" ++ ".name" = "Options.column[0].name" := by
    decide +kernel
  have place' : single.path schema'.name ++ ".name" = "First.column.name" := by decide +kernel
  have trace := trace ".name"
  rw [place, place'] at trace
  refine ⟨whole, own, whole', own', decodes, ?_, ?_, decodes', first.symm, ?_, findings, trace⟩
  · exact value.trans (by decide +kernel)
  · rw [outcome.findings]
    rfl
  · rw [value'.2]
    rfl

end Schema
end DocOptions
