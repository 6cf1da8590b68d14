import DocOptions.Proofs.Directive.RoundTrip
import DocOptions.Proofs.Numeral.Decimal
import DocOptions.Proofs.Schema.Elements
import DocOptions.Schema.Outline
import Mathlib.Data.List.Nodup

/-! Records that one directive tells all of. Their tables have one scalar for the value of the
directive, and parameters and flags besides; each field is a cell of the record, and the directive
shows the cells as long as the value is not taken for a flag. -/

namespace DocOptions

open Text

namespace ScalarKind

/-- The text of a value, as rules see it. -/
def text (kind : ScalarKind) (value : kind.Value) : String :=
  (kind.view value).text?.getD ""

def IsTextOrInteger : ScalarKind → Prop
  | string | integer _ => True
  | bool | float _ => False

/-- Whether a kind has room for a value. -/
def Admits : (kind : ScalarKind) → kind.Value → Prop
  | integer kind, n => kind.Admits n
  | string, _ | bool, _ | float _, _ => True

theorem read_text {kind : ScalarKind} {value : kind.Value} (exact : kind.IsTextOrInteger)
    (admitted : kind.Admits value) : kind.read (kind.text value) = .ok value := by
  cases kind with
  | string => rfl
  | integer kind =>
    have read : kind.read (toString (value : Int)) = .ok value := IntKind.read_toString admitted
    simp only [ScalarKind.read, readText, text, view, Option.getD_some, read]
    rfl
  | bool | float => cases exact

end ScalarKind

/-- What a directive tells of one field. -/
inductive Part
  | value (text : String)
  | param (text : String)
  | flag (raised : Bool)

def Part.source : Part → Source
  | value _ => .value
  | param _ => .param
  | flag _ => .option

/-- A field of a record under the name that directives use for it. -/
structure Cell where
  name : String
  part : Part

namespace Cell

def value? (cell : Cell) : Option String :=
  match cell.part with
  | .value text => some text
  | _ => none

def param? (cell : Cell) : Option (String × String) :=
  match cell.part with
  | .param text => some (cell.name, text)
  | _ => none

def raised? (cell : Cell) : Option String :=
  match cell.part with
  | .flag true => some cell.name
  | _ => none

end Cell

/-- The directive of a record: the value, the names of the flags that are raised, the parameters. -/
def Directive.ofCells (key : String) (cells : List Cell) : Directive where
  key
  options := cells.filterMap Cell.value? ++ cells.filterMap Cell.raised?
  params := .ofList (cells.filterMap Cell.param?)

namespace Leaf

/-- Whether a directive can tell all that a leaf holds. -/
def IsColumn : Leaf → Prop
  | scalar .value (.plain kind) | scalar .param (.plain kind) => kind.IsTextOrInteger
  | optionFlag => True
  | _ => False

def Admits : (kind : Leaf) → kind.Slot → Prop
  | scalar _ (.plain kind), value => kind.Admits value
  | _, _ => True

def part? : (kind : Leaf) → kind.Slot → Option Part
  | scalar .value (.plain kind), value => some (.value (kind.text value))
  | scalar .param (.plain kind), value => some (.param (kind.text value))
  | optionFlag, raised => some (.flag raised)
  | _, _ => none

theorem exists_part {kind : Leaf} (column : kind.IsColumn) (slot : kind.Slot) :
    ∃ part, kind.part? slot = some part ∧ part.source = kind.source := by
  cases kind with
  | scalar source type =>
    cases type with
    | plain kind =>
      cases source with
      | key => cases column
      | value | param => exact ⟨_, rfl, rfl⟩
    | optional kind => cases source <;> cases column
  | optionFlag => exact ⟨_, rfl, rfl⟩
  | flag | list | options => cases column

end Leaf

/-- Whether a directive says of a field what the field's cell does. -/
def Directive.Shows (d : Directive) (cell : Cell) : Prop :=
  match cell.part with
  | .value text => d.options.head? = some text
  | .param text => d.params.get? cell.name = some text
  | .flag raised => cell.name ∈ d.options ↔ raised = true

theorem Leaf.elementSlot_of_read {kind : Leaf} {slot : kind.Slot} {name : String} {d : Directive}
    (read : kind.reading? name d = some (.ok slot)) :
    kind.elementSlot name d = slot ∧ ∀ e, kind.reading? name d ≠ some (.error e) := by
  rw [elementSlot, read]
  refine ⟨rfl, ?_⟩
  rintro e ⟨⟩

/-- A leaf is bound to what its cell tells. -/
theorem Leaf.reading?_of_shows {kind : Leaf} {slot : kind.Slot} {name : String} {part : Part}
    {d : Directive} (column : kind.IsColumn) (admitted : kind.Admits slot)
    (written : kind.part? slot = some part) (shows : d.Shows ⟨name, part⟩) :
    kind.elementSlot name d = slot ∧ ∀ e, kind.reading? name d ≠ some (.error e) := by
  cases kind with
  | scalar source type =>
    cases type with
    | optional kind => cases source <;> cases column
    | plain kind =>
      cases source with
      | key => cases column
      | value =>
        cases written
        have shown : d.options.head? = some (kind.text slot) := shows
        have back := ScalarKind.read_text column admitted
        apply elementSlot_of_read
        rw [Leaf.reading?, shown, Option.map_some, ScalarType.read, back]
      | param =>
        cases written
        have shown : d.params.get? name = some (kind.text slot) := shows
        have back := ScalarKind.read_text column admitted
        apply elementSlot_of_read
        rw [Leaf.reading?, shown, Option.map_some, ScalarType.read, back]
  | optionFlag =>
    cases written
    have shown : name ∈ d.options ↔ slot = true := shows
    rw [elementSlot, reading?]
    by_cases named : name ∈ d.options
    · rw [if_pos named]
      refine ⟨(shown.mp named).symm, ?_⟩
      rintro e ⟨⟩
    · have lowered : slot = false := Bool.eq_false_iff.mpr fun raised => named (shown.mpr raised)
      rw [if_neg named]
      refine ⟨lowered.symm, ?_⟩
      rintro e ⟨⟩
  | flag | list | options => cases column

namespace Table

/-- Whether directives can tell all that a table binds, and no rule refuses any of it. -/
def HasColumns : {shape : Shape} → Table shape → Prop
  | _, nil => True
  | _, leaf spec kind next =>
    kind.IsColumn ∧ spec.rules = [] ∧ trim spec.name = spec.name ∧ next.HasColumns
  | _, composite _ _ _ _ _ => False

/-- Whether each field of a record has a value that its kind has room for. -/
def Admits : {shape : Shape} → Table shape → shape.Record → Prop
  | _, nil, _ => True
  | _, leaf _ kind next, (slot, rest) => kind.Admits slot ∧ next.Admits rest
  | _, composite _ _ _ _ next, (_, rest) => next.Admits rest

def cells : {shape : Shape} → Table shape → shape.Record → List Cell
  | _, nil, _ => []
  | _, leaf spec kind next, (slot, rest) =>
    ((kind.part? slot).map (Cell.mk spec.name)).toList ++ next.cells rest
  | _, composite _ _ _ _ next, (_, rest) => next.cells rest

def names {shape : Shape} (table : Table shape) : List String :=
  table.fields.map (·.spec.name)

def flagNames {shape : Shape} (table : Table shape) : List String :=
  (table.fields.filter (·.source == .option)).map (·.spec.name)

/-- A table of one value, parameters and flags, each with a name of its own. -/
structure IsRow {shape : Shape} (table : Table shape) : Prop where
  columns : table.HasColumns
  distinct : table.names.Nodup
  oneValue : (table.fields.map (·.source)).count .value = 1

/-- A record whose value cannot be taken for a flag. -/
structure Fits {shape : Shape} (table : Table shape) (record : shape.Record) : Prop where
  admitted : table.Admits record
  apart : ∀ text ∈ (table.cells record).filterMap Cell.value?, text ∉ table.flagNames

/-- The directive that a record is written as. -/
def directive {shape : Shape} (table : Table shape) (key : String) (record : shape.Record) :
    Directive :=
  .ofCells key (table.cells record)

variable {shape : Shape} {table : Table shape}

/-- There is a cell for each field, in the order of the fields. -/
theorem map_cells (columns : table.HasColumns) (record : shape.Record) :
    (table.cells record).map (fun cell => (cell.name, cell.part.source)) =
      table.fields.map fun summary => (summary.spec.name, summary.source) := by
  induction table with
  | nil => rfl
  | leaf spec kind next ih =>
    obtain ⟨column, -, -, others⟩ := columns
    obtain ⟨part, written, source⟩ := Leaf.exists_part column record.1
    have later := ih others record.2
    simp only [cells, written, fields, Option.map_some, Option.toList_some, List.singleton_append,
      List.map_cons, later, source]
  | composite spec kind name inner next => exact columns.elim

theorem map_name_cells (columns : table.HasColumns) (record : shape.Record) :
    (table.cells record).map Cell.name = table.names := by
  have same := congrArg (List.map Prod.fst) (map_cells columns record)
  rwa [List.map_map, List.map_map] at same

theorem map_source_cells (columns : table.HasColumns) (record : shape.Record) :
    (table.cells record).map (·.part.source) = table.fields.map (·.source) := by
  have same := congrArg (List.map Prod.snd) (map_cells columns record)
  rwa [List.map_map, List.map_map] at same

theorem trim_name_of_mem_cells (columns : table.HasColumns) (record : shape.Record) :
    ∀ cell ∈ table.cells record, trim cell.name = cell.name := by
  induction table with
  | nil => exact fun _ member => nomatch member
  | leaf spec kind next ih =>
    obtain ⟨column, -, trimmed, others⟩ := columns
    obtain ⟨part, written, -⟩ := Leaf.exists_part column record.1
    simp only [cells, written, Option.map_some, Option.toList_some, List.singleton_append]
    exact List.forall_mem_cons.mpr ⟨trimmed, ih others record.2⟩
  | composite spec kind name inner next => exact columns.elim

theorem name_mem_flagNames (columns : table.HasColumns) {record : shape.Record} {cell : Cell}
    (member : cell ∈ table.cells record) (flag : cell.part.source = .option) :
    cell.name ∈ table.flagNames := by
  have listed : (cell.name, cell.part.source) ∈ table.fields.map fun summary =>
      (summary.spec.name, summary.source) := by
    rw [← map_cells columns record]
    exact List.mem_map_of_mem member
  obtain ⟨summary, inside, same⟩ := List.mem_map.mp listed
  obtain ⟨name, source⟩ := Prod.mk.inj same
  refine List.mem_map.mpr ⟨summary, List.mem_filter.mpr ⟨inside, ?_⟩, name⟩
  rw [source, flag]
  rfl

/-- A directive that shows all cells of a record gives the record back, with nothing to report. -/
theorem element_of_shows (columns : table.HasColumns) {record : shape.Record} {d : Directive}
    (admitted : table.Admits record) (shows : ∀ cell ∈ table.cells record, d.Shows cell)
    (rules : RuleRegistry) (position : Position) :
    table.element d = record ∧ table.elementFindings rules ⟨d, position⟩ = [] := by
  induction table with
  | nil => exact ⟨rfl, rfl⟩
  | leaf spec kind next ih =>
    obtain ⟨column, noRules, -, others⟩ := columns
    obtain ⟨part, written, -⟩ := Leaf.exists_part column record.1
    simp only [cells, written, Option.map_some, Option.toList_some, List.singleton_append] at shows
    obtain ⟨shown, shownOthers⟩ := List.forall_mem_cons.mp shows
    obtain ⟨slot, noError⟩ := Leaf.reading?_of_shows column admitted.1 written shown
    obtain ⟨rest, findings⟩ := ih others admitted.2 shownOthers
    have own : kind.elementFindings spec rules ⟨d, position⟩ = [] := by
      rw [Leaf.elementFindings]
      split
      · rename_i e failed
        exact absurd failed (noError e)
      · rw [FieldSpec.refusals, noRules, List.filterMap_nil]
    exact ⟨Prod.ext slot rest, by rw [elementFindings, own, findings, List.append_nil]⟩
  | composite spec kind name inner next => exact columns.elim

end Table

namespace Table.IsRow

variable {shape : Shape} {table : Table shape} {record : shape.Record} {cell : Cell}

theorem cell_unique (row : table.IsRow) {other : Cell} (member : cell ∈ table.cells record)
    (member' : other ∈ table.cells record) (same : other.name = cell.name) : other = cell := by
  have distinct : ((table.cells record).map Cell.name).Nodup := by
    rw [map_name_cells row.columns]
    exact row.distinct
  exact List.inj_on_of_nodup_map distinct member' member same

/-- The only value is the one of the cell that has a value. -/
theorem values_eq (row : table.IsRow) {name text : String}
    (member : ⟨name, .value text⟩ ∈ table.cells record) :
    (table.cells record).filterMap Cell.value? = [text] := by
  have count : ((table.cells record).filterMap Cell.value?).length = 1 := by
    rw [← row.oneValue, ← map_source_cells row.columns record, List.length_filterMap_eq_countP,
      List.count, List.countP_map]
    apply List.countP_congr
    intro cell _
    obtain ⟨name, part⟩ := cell
    cases part <;> simp [Cell.value?, Part.source]
  obtain ⟨only, values⟩ := List.length_eq_one_iff.mp count
  have inside : text ∈ (table.cells record).filterMap Cell.value? :=
    List.mem_filterMap.mpr ⟨_, member, rfl⟩
  rw [values] at inside ⊢
  rw [List.mem_singleton.mp inside]

/-- The directive of a record shows each of its cells. -/
theorem shows_directive (row : table.IsRow) (fits : table.Fits record) (key : String) :
    ∀ cell ∈ table.cells record, (table.directive key record).Shows cell := by
  rintro ⟨name, part⟩ member
  cases part with
  | value text =>
    have first : (table.directive key record).options.head? = some text := by
      simp only [Table.directive, Directive.ofCells, row.values_eq member, List.singleton_append,
        List.head?_cons]
    exact first
  | param text =>
    refine TextMap.get?_ofList_of_unique (List.mem_filterMap.mpr ⟨_, member, rfl⟩) ?_
    intro pair listed same
    obtain ⟨other, inside, written⟩ := List.mem_filterMap.mp listed
    have named : other.name = name := by
      obtain ⟨otherName, otherPart⟩ := other
      cases otherPart <;> cases written
      exact same
    rw [row.cell_unique member inside named] at written
    exact (Option.some.inj written).symm
  | flag raised =>
    have flagged : name ∈ table.flagNames := Table.name_mem_flagNames row.columns member rfl
    have shown : name ∈ (table.directive key record).options ↔ raised = true := by
      simp only [Table.directive, Directive.ofCells, List.mem_append, List.mem_filterMap]
      constructor
      · rintro (⟨other, inside, written⟩ | ⟨other, inside, written⟩)
        · exact absurd flagged (fits.apart name (List.mem_filterMap.mpr ⟨other, inside, written⟩))
        · have named : other.name = name := by
            obtain ⟨otherName, otherPart⟩ := other
            rcases otherPart with _ | _ | (_ | _) <;> cases written
            rfl
          rw [row.cell_unique member inside named] at written
          cases raised with
          | true => rfl
          | false => cases written
      · rintro rfl
        exact .inr ⟨_, member, rfl⟩
    exact shown

/-- The line of a record reads as the directive of the record. -/
theorem read_directive (row : table.IsRow) {key : String} (plain : ∀ c ∈ key.toList, IsPlain c)
    (record : shape.Record) :
    Directive.read (table.directive key record).text = .ok (table.directive key record) := by
  refine Directive.read_text_of_trimmed plain ?_
  intro entry member
  have listed : entry ∈ (table.cells record).filterMap Cell.param? :=
    TextMap.mem_entries_ofList member
  obtain ⟨⟨name, part⟩, inside, written⟩ := List.mem_filterMap.mp listed
  have trimmed := Table.trim_name_of_mem_cells row.columns record _ inside
  cases part with
  | param text =>
    cases written
    exact trimmed
  | value | flag => cases written

theorem verify (row : table.IsRow) (rules : RuleRegistry) (name : String) :
    table.verify rules name .inline [] = .ok () := by
  obtain ⟨columns, distinct, -⟩ := row
  suffices accepted : ∀ taken, (∀ field ∈ table.names, field ∉ taken) →
      table.verify rules name .inline taken = .ok () from accepted [] fun _ _ => List.not_mem_nil
  induction table with
  | nil => exact fun _ _ => rfl
  | leaf spec kind next ih =>
    intro taken fresh
    obtain ⟨-, noRules, -, others⟩ := columns
    obtain ⟨own, distinct⟩ := List.nodup_cons.mp distinct
    obtain ⟨free, later⟩ := List.forall_mem_cons.mp fresh
    refine Table.verify_leaf_ok_iff.mpr ⟨FieldSpec.verify_ok_iff.mpr ⟨free, ?_⟩,
      Leaf.verify_ok_iff.mpr (fun mode => nomatch mode), ih others distinct _ ?_⟩
    · simp [noRules]
    · intro field member
      rw [List.mem_cons, not_or]
      refine ⟨?_, later field member⟩
      rintro rfl
      exact own member
  | composite spec kind name inner next => exact columns.elim

/-- A table with an inline list of rows for its only field is accepted. -/
theorem verify_inlineList (row : table.IsRow) {spec : FieldSpec} (noRules : spec.rules = [])
    (rules : RuleRegistry) (outer name : String) :
    (⟨outer, .composite spec .inlineList name table .nil⟩ : Schema _).verify rules = .ok () := by
  have own : spec.verify rules outer [] = .ok () :=
    FieldSpec.verify_ok_iff.mpr ⟨List.not_mem_nil, by simp [noRules]⟩
  have list : Composite.inlineList.verify .namespaced outer spec = .ok () :=
    Composite.verify_ok_iff.mpr ⟨rfl, .inl rfl⟩
  exact Table.verify_composite_ok_iff.mpr ⟨own, list, row.verify rules name, rfl⟩

end Table.IsRow

end DocOptions
