import DocOptions.Proofs.Directive.Lines
import DocOptions.Proofs.Schema.InlineComposites
import DocOptions.Proofs.Schema.Rows

/-! Records written as directives, a line for each, and read back as the elements of an inline
list. -/

namespace DocOptions

open Text

namespace Table

variable {nested : Shape} {inner : Table nested}

/-- The lines that records are written as, at the positions they are to have. -/
def lines (inner : Table nested) (key : String) (rows : List (nested.Record × Position)) :
    List (String × Position) :=
  rows.map fun row => ((inner.directive key row.1).text, row.2)

/-- The occurrences that the lines of records are. -/
def occurrences (inner : Table nested) (key : String) (rows : List (nested.Record × Position)) :
    List Occurrence :=
  rows.map fun row => ⟨inner.directive key row.1, row.2⟩

theorem IsRow.ofLines_lines (row : inner.IsRow) {key : String}
    (plain : ∀ c ∈ key.toList, IsPlain c) (rows : List (nested.Record × Position)) :
    (DirectiveIndex.ofLines (inner.lines key rows)).1.getAll key = inner.occurrences key rows ∧
      (DirectiveIndex.ofLines (inner.lines key rows)).2 = [] := by
  have read : (inner.lines key rows).map occurrenceOf? = (inner.occurrences key rows).map some := by
    rw [lines, occurrences, List.map_map, List.map_map]
    refine List.map_congr_left fun item _ => ?_
    simp only [Function.comp_apply, occurrenceOf?, row.read_directive plain]
  obtain ⟨entries, rejected⟩ := DirectiveIndex.ofLines_of_read read
  refine ⟨?_, rejected⟩
  rw [DirectiveIndex.getAll_eq, entries, List.filter_eq_self]
  intro source member
  obtain ⟨item, -, rfl⟩ := List.mem_map.mp member
  exact beq_self_eq_true key

/-- The elements made from the lines of records are the records. -/
theorem IsRow.elements_eq (row : inner.IsRow) (key : String)
    {rows : List (nested.Record × Position)}
    (fits : ∀ item ∈ rows, inner.Fits item.1) (rules : RuleRegistry) :
    (inner.occurrences key rows).map (fun source => inner.element source.directive) =
        rows.map Prod.fst ∧
      (inner.occurrences key rows).flatMap (inner.elementFindings rules) = [] := by
  have back (item : nested.Record × Position) (member : item ∈ rows) :=
    element_of_shows row.columns (fits item member).admitted
      (row.shows_directive (fits item member) key) rules item.2
  constructor
  · rw [occurrences, List.map_map]
    exact List.map_congr_left fun item member => (back item member).1
  · rw [List.flatMap_eq_nil_iff]
    intro source member
    obtain ⟨item, inside, rfl⟩ := List.mem_map.mp member
    exact (back item inside).2

end Table

theorem Diagnostics.eq_empty {diagnostics : Diagnostics} (noItems : diagnostics.items = []) :
    diagnostics = ∅ := by
  cases diagnostics
  cases noItems
  rfl

theorem InlineListOutcome.restores {nested : Shape} {inner : Table nested} {rules : RuleRegistry}
    {spec : FieldSpec} {key path : String} {rows : List (nested.Record × Position)}
    {start final : List nested.Record} {own : Report}
    (outcome : InlineListOutcome inner rules spec key path (inner.occurrences key rows) start final
      own) (row : inner.IsRow) (fits : ∀ item ∈ rows, inner.Fits item.1) (noRules : spec.rules = [])
    (fresh : rows = [] → start = []) :
    final = rows.map Prod.fst ∧ own.diagnostics = ∅ := by
  obtain ⟨elements, findings⟩ := row.elements_eq key fits rules
  constructor
  · cases rows with
    | nil => rw [(outcome.kept rfl).1, fresh rfl, List.map_nil]
    | cons first rest => rw [outcome.elements (List.cons_ne_nil _ _), elements]
  · apply Diagnostics.eq_empty
    rw [outcome.findings, findings, FieldSpec.refusals, noRules, List.filterMap_nil,
      List.append_nil]

/-- An inline list whose directives are the lines of records holds the records after a decode. -/
theorem Table.IsRow.exists_restored {nested shape : Shape} {inner : Table nested}
    (row : inner.IsRow) {key : String} {rows : List (nested.Record × Position)}
    (fits : ∀ item ∈ rows, inner.Fits item.1) {rules : RuleRegistry} {index : DirectiveIndex}
    (sources : index.getAll key = inner.occurrences key rows) {spec : FieldSpec} {name : String}
    (noRules : spec.rules = []) {scope : String} (nonempty : scope ≠ "") {schema : Schema shape}
    (accepted : schema.verify rules = .ok ())
    (list : CompositeRef spec .inlineList name inner schema.table) (same : list.key scope = key)
    (start : shape.Record) (fresh : rows = [] → list.get start = []) :
    ∃ whole own, list.Decodes rules scope index start whole own ∧
      list.get whole.value = rows.map Prod.fst ∧ own.diagnostics = ∅ := by
  obtain ⟨whole, decodes, outcome⟩ : ∃ whole, list.Decodes rules scope index start whole _ ∧
      InlineListOutcome inner rules spec key _ _ (list.get start) (list.get whole.value) _ :=
    list.exists_inlineListOutcome accepted nonempty same sources
  obtain ⟨back, silent⟩ := outcome.restores row fits noRules fresh
  exact ⟨whole, _, decodes, back, silent⟩

namespace Schema

/-- Records written as lines of a key come back from the lines, in their order and with nothing to
report, as the elements of an inline list with that key: in a decode with that field alone, and in
one with any accepted schema that has the field, at any depth and beside any others. -/
theorem decode_written_records {nested : Shape} {inner : Table nested} (row : inner.IsRow)
    {key : String} (plain : ∀ c ∈ key.toList, IsPlain c) (rows : List (nested.Record × Position))
    (fits : ∀ item ∈ rows, inner.Fits item.1) (rules : RuleRegistry) :
    let index := (DirectiveIndex.ofLines (inner.lines key rows)).1
    let records := rows.map Prod.fst
    (DirectiveIndex.ofLines (inner.lines key rows)).2 = [] ∧
    (∀ path, (inner.bindElements rules path (index.getAll key)).1 = records ∧
      (inner.bindElements rules path (index.getAll key)).2.diagnostics = ∅) ∧
    ∀ {spec : FieldSpec} {name : String}, spec.rules = [] → ∀ scope ≠ "",
      (∀ outer, s!"{scope}-{spec.name}" = key →
        ∃ decoded, (⟨outer, .composite spec .inlineList name inner .nil⟩ : Schema _).decode rules
            scope index = .ok decoded ∧
          decoded.value = (records, ()) ∧ decoded.report.diagnostics = ∅) ∧
      ∀ {shape : Shape} (schema : Schema shape), schema.verify rules = .ok () →
        ∀ list : CompositeRef spec .inlineList name inner schema.table, list.key scope = key →
        ∀ start : shape.Record, (rows = [] → list.get start = []) →
          ∃ whole own, list.Decodes rules scope index start whole own ∧
            list.get whole.value = records ∧ own.diagnostics = ∅ := by
  intro index records
  obtain ⟨sources, rejected⟩ := row.ofLines_lines plain rows
  refine ⟨rejected, ?_, ?_⟩
  · intro path
    obtain ⟨elements, findings⟩ := inner.bindElements_eq rules path (index.getAll key)
    obtain ⟨back, silent⟩ := row.elements_eq key fits rules
    rw [sources] at elements findings ⊢
    exact ⟨elements.trans back, Diagnostics.eq_empty (findings.trans silent)⟩
  · intro spec name noRules scope nonempty
    refine ⟨?_, fun schema accepted list same start fresh =>
      row.exists_restored fits sources noRules nonempty accepted list same start fresh⟩
    intro outer same
    let schema : Schema _ := ⟨outer, .composite spec .inlineList name inner .nil⟩
    let list : CompositeRef spec .inlineList name inner schema.table := .here
    have accepted : schema.verify rules = .ok () := row.verify_inlineList noRules rules outer name
    have own : list.key scope = key := by
      rw [CompositeRef.key, CompositeRef.scope, CompositeRef.groups, List.map_nil, keyBelow_nil]
      exact same
    obtain ⟨whole, report, decodes, back, silent⟩ := row.exists_restored fits sources noRules
      nonempty accepted list own schema.table.shape.zero fun _ => rfl
    have alone : whole.report = ∅ ++ report ++ ∅ := decodes.report
    refine ⟨whole, decodes.done, Prod.ext back rfl, ?_⟩
    rw [alone, Report.append_empty, Report.empty_append, silent]

/-- Texts that have to be quoted, an empty one among them, and the bounds of a kind of integer. -/
theorem decode_written_records_quoted :
    let inner :=
      Table.leaf (field "wide") .optionFlag <|
      Table.leaf (field "id") (.scalar .value (.plain .string)) <|
      Table.leaf (field "count") (.scalar .param (.plain (.integer .int8))) <|
      Table.leaf (field "sorted") .optionFlag .nil
    let schema : Schema _ :=
      ⟨"Options", .composite (field "column") .inlineList "Column" inner .nil⟩
    let lines := [("@table-column \"a=\\\"@b\\\" \\\\\" wide count=-128", Position.unknown),
      ("@table-column \"\" sorted count=127", .unknown)]
    let index := (DirectiveIndex.ofLines lines).1
    ∃ decoded, schema.decode .standard "table" index = .ok decoded ∧
      decoded.value =
        ([(true, "a=\"@b\" \\", -128, false, ()), (false, "", 127, true, ())], ()) ∧
      decoded.report.diagnostics = ∅ := by
  intro inner schema lines index
  let rows : List (inner.shape.Record × Position) :=
    [((true, "a=\"@b\" \\", -128, false, ()), .unknown), ((false, "", 127, true, ()), .unknown)]
  have row : inner.IsRow := by
    refine ⟨⟨trivial, rfl, by decide +kernel, trivial, rfl, by decide +kernel, trivial, rfl,
      by decide +kernel, trivial, rfl, by decide +kernel, trivial⟩, by decide +kernel, rfl⟩
  have fits : ∀ item ∈ rows, inner.Fits item.1 := by
    refine List.forall_mem_cons.mpr ⟨⟨⟨trivial, trivial, ?_, trivial, trivial⟩, ?_⟩,
      List.forall_mem_singleton.mpr ⟨⟨trivial, trivial, ?_, trivial, trivial⟩, ?_⟩⟩
    · exact show IntKind.Admits .int8 (-128) by decide
    · decide +kernel
    · exact show IntKind.Admits .int8 127 by decide
    · decide +kernel
  have plain : ∀ c ∈ "table-column".toList, IsPlain c := isPlain_of_all (by decide +kernel)
  obtain ⟨-, -, restored⟩ := decode_written_records row plain rows fits .standard
  have written : inner.lines "table-column" rows = lines := by decide +kernel
  rw [written] at restored
  have column := @restored (field "column") "Column" rfl "table" (by decide)
  exact column.1 "Options" (by decide +kernel)

end Schema
end DocOptions
