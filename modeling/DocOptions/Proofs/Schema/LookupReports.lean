import DocOptions.Proofs.Directive.Queries
import DocOptions.Proofs.Schema.Accepted
import DocOptions.Proofs.Schema.Fields
import DocOptions.Proofs.Schema.Lookups

/-! What look-ups report. All that a look-up reports is about the occurrences of its key: they are
its only sources, and it notes the key as consumed if there are any. What is true of the whole
report of a table follows from this by induction on the look-ups. -/

namespace DocOptions

/-- A position is that of an occurrence, and is missing only if there is none. -/
def PlacedAt (sources : List Occurrence) (position? : Option Position) : Prop :=
  (position?.isSome = true ↔ sources ≠ []) ∧
    ∀ position ∈ position?, ∃ source ∈ sources, source.position = position

theorem placedAt_of_mem {sources : List Occurrence} {source : Occurrence}
    (member : source ∈ sources) : PlacedAt sources (some source.position) := by
  refine ⟨by simpa using List.ne_nil_of_mem member, ?_⟩
  rintro _ ⟨⟩
  exact ⟨source, member, rfl⟩

theorem placedAt_head (sources : List Occurrence) :
    PlacedAt sources (sources.head?.map (·.position)) := by
  cases sources with
  | nil => simp [PlacedAt]
  | cons first rest => exact placedAt_of_mem List.mem_cons_self

/-- A finding is a failure of a key, at one of its occurrences if there are any. -/
structure Diagnostic.About (sources : List Occurrence) (key : String) (d : Diagnostic) : Prop where
  failure : d.severity = .failure
  key : d.key = some key
  placed : PlacedAt sources d.position

theorem FieldSpec.about_refusals {sources : List Occurrence} {site : Site}
    {position? : Option Position} (placed : PlacedAt sources position?) (spec : FieldSpec)
    (rules : RuleRegistry) (view : ValueView) :
    ∀ d ∈ spec.refusals rules site position? view, d.About sources site.key := by
  intro d member
  obtain ⟨rule, -, refused⟩ := List.mem_filterMap.mp member
  obtain ⟨check, -, refused⟩ := Option.bind_eq_some_iff.mp refused
  obtain ⟨message, -, rfl⟩ := Option.map_eq_some_iff.mp refused
  exact ⟨rfl, rfl, placed⟩

/-- A report has only some occurrences of a key for its sources, and traces them within a path. -/
structure Report.Within (sources : List Occurrence) (key path : String) (report : Report) :
    Prop where
  consumed : report.consumed = ∅
  traced : ∀ place entry, report.trace.get? place = some entry →
    entry ∈ sources ∧ PathWithin path place
  findings : ∀ d ∈ report.diagnostics.items, d.About sources key

namespace Report

namespace Within

variable {sources : List Occurrence} {key path : String} {first second : Report}

theorem empty : (∅ : Report).Within sources key path where
  consumed := rfl
  traced := fun _ _ found => nomatch found
  findings := fun _ member => nomatch member

theorem append (within : first.Within sources key path) (within' : second.Within sources key path) :
    (first ++ second).Within sources key path where
  consumed := by
    rw [consumed_append, within.consumed, within'.consumed, TextMap.override_empty]
  traced := by
    intro place entry found
    rw [trace_append, TextMap.get?_override, Option.or_eq_some_iff] at found
    rcases found with later | ⟨-, earlier⟩
    · exact within'.traced place entry later
    · exact within.traced place entry earlier
  findings := List.forall_mem_append.mpr ⟨within.findings, within'.findings⟩

theorem bound {source : Occurrence} {place : String} (member : source ∈ sources)
    (inside : PathWithin path place) : (Report.bound place source).Within sources key path where
  consumed := rfl
  traced := by
    intro other entry found
    rw [Report.bound, TextMap.get?_singleton] at found
    split at found
    · rename_i same
      cases found
      exact ⟨member, same ▸ inside⟩
    · cases found
  findings := fun _ member => nomatch member

theorem ofDiagnostics {items : List Diagnostic} (about : ∀ d ∈ items, d.About sources key) :
    (Report.ofDiagnostics items).Within sources key path where
  consumed := rfl
  traced := fun _ _ found => nomatch found
  findings := about

end Within

theorem contains_trace_bound (place : String) (source : Occurrence) :
    (bound place source).trace.contains place = true := by
  simp [bound, TextMap.contains]

theorem contains_trace_append {first : Report} {place : String}
    (traced : first.trace.contains place = true) (second : Report) :
    (first ++ second).trace.contains place = true := by
  rw [trace_append, TextMap.contains_override, traced, Bool.true_or]

theorem contains_trace_foldl {start : Report} {place : String}
    (traced : start.trace.contains place = true) (reports : List Report) :
    (reports.foldl (· ++ ·) start).trace.contains place = true := by
  induction reports generalizing start with
  | nil => exact traced
  | cons report rest ih => exact ih (contains_trace_append traced report)

theorem consume_head (key : String) (sources : List Occurrence) :
    consume key sources.head?.toList = consume key sources := by
  cases sources <;> rfl

theorem trace_consume_append (key : String) (sources : List Occurrence) (report : Report) :
    (consume key sources ++ report).trace = report.trace :=
  TextMap.empty_override _

theorem contains_consumed_consume (key : String) (sources : List Occurrence) (other : String) :
    (consume key sources).consumed.contains other = true ↔ other = key ∧ sources ≠ [] := by
  cases sources with
  | nil => simp [consume, TextMap.contains]
  | cons source others => simp [consume, TextMap.contains]

end Report

section

variable {sources : List Occurrence} {path : String} {site : Site}

theorem Binding.within_settle {α : Type} {slot : α} {source : Occurrence}
    {result : Except ConversionError α} (member : source ∈ sources)
    (inside : PathWithin path site.path) :
    (Binding.settle slot site source result).report.Within sources site.key path := by
  cases result with
  | ok value => exact .bound member inside
  | error e =>
    exact .ofDiagnostics (List.forall_mem_singleton.mpr ⟨rfl, rfl, placedAt_of_mem member⟩)

theorem Binding.within_reportChecked {kind : Leaf} {binding : Binding kind.Slot}
    (within : binding.report.Within sources site.key path) (spec : FieldSpec) (rules : RuleRegistry)
    {position? : Option Position} (placed : PlacedAt sources position?) :
    (binding.reportChecked spec rules site position?).Within sources site.key path := by
  unfold reportChecked
  split
  · exact within.append (.ofDiagnostics (spec.about_refusals placed rules _))
  · exact within

theorem Leaf.within_bindOwn (kind : Leaf) {found : Option Occurrence} (slot : kind.Slot)
    (member : ∀ source ∈ found, source ∈ sources) (inside : PathWithin path site.path) :
    (kind.bindOwn site found slot).report.Within sources site.key path := by
  cases found with
  | none => cases kind <;> exact .empty
  | some source =>
    have member := member source rfl
    cases kind with
    | scalar | list => exact Binding.within_settle member inside
    | flag => exact .bound member inside
    | optionFlag | options => exact .empty

theorem Leaf.within_bindInline (kind : Leaf) (name : String) {source : Occurrence}
    (slot : kind.Slot) (member : source ∈ sources) (inside : PathWithin path site.path) :
    (kind.bindInline site name source slot).report.Within sources site.key path := by
  cases kind with
  | scalar origin type =>
    simp only [bindInline]
    split
    · exact .empty
    · exact Binding.within_settle member inside
  | flag | list => exact .empty
  | optionFlag =>
    simp only [bindInline]
    split
    · exact .bound member inside
    · exact .empty
  | options => exact .bound member inside

end

namespace Table

variable {sources : List Occurrence} {path : String} {nested : Shape} (table : Table nested)
  (rules : RuleRegistry)

/-- An inline composite reports about the one occurrence that it is read from. -/
theorem within_bindInline {source : Occurrence} (member : source ∈ sources) {place : String}
    (inside : PathWithin path place) (record : nested.Record) :
    (table.bindInline rules source place record).2.Within sources source.key path := by
  induction table with
  | nil => exact .empty
  | leaf spec kind next ih =>
    let site : Site := ⟨s!"{source.key} {spec.name}", source.key, s!"{place}.{spec.ident}"⟩
    have own : (kind.bindInline site spec.name source record.1).report.Within sources site.key
        path :=
      kind.within_bindInline spec.name record.1 member (inside.trans (.field place spec.ident))
    exact (Binding.within_reportChecked own spec rules (placedAt_of_mem member)).append
      (ih record.2)
  | composite spec kind name inner next _ ih => exact ih record.2

theorem within_bindElement {source : Occurrence} (member : source ∈ sources) {place : String}
    (inside : PathWithin path place) :
    (table.bindElement rules place source).2.Within sources source.key path :=
  (Report.Within.bound member inside).append
    (table.within_bindInline rules member inside nested.zero)

theorem within_bindElements {key : String} (own : ∀ source ∈ sources, source.key = key) :
    (table.bindElements rules path sources).2.Within sources key path := by
  simp only [bindElements, List.map_map]
  refine List.foldlRecOn (motive := fun report : Report => report.Within sources key path) _ _
    .empty ?_
  intro report within element member
  obtain ⟨⟨source, i⟩, inside, rfl⟩ := List.mem_map.mp member
  have member := List.fst_mem_of_mem_zipIdx inside
  exact within.append (own source member ▸ table.within_bindElement rules member (.element path i))

theorem contains_trace_bindElement (source : Occurrence) :
    (table.bindElement rules path source).2.trace.contains path = true :=
  Report.contains_trace_append (Report.contains_trace_bound path source) _

theorem contains_trace_bindElements (source : Occurrence) (others : List Occurrence) :
    (table.bindElements rules path (source :: others)).2.trace.contains s!"{path}[{0}]" = true := by
  simp only [bindElements, List.zipIdx_cons, List.map_cons, List.foldl_cons, Report.empty_append]
  exact Report.contains_trace_foldl (table.contains_trace_bindElement rules source) _

end Table

namespace Leaf

/-- The reasons why a directive has no value for a leaf with that directive's key. -/
inductive Refuses (directive : Directive) : Leaf → ConversionError → Prop
  | scalar {source : ScalarSource} {type : ScalarType} {e : ConversionError} :
      type.read (directive.options.headD "") = .error e → Refuses directive (.scalar source type) e
  | list {type : ScalarType} {e : ConversionError} :
      type.readList directive.options = .error e → Refuses directive (.list type) e

/-- The finding that the first occurrence of a leaf's key has no value for the leaf. -/
def ConversionFailure (kind : Leaf) (key : String) (sources : List Occurrence) (d : Diagnostic) :
    Prop :=
  ∃ first ∈ sources.head?, ∃ e, kind.Refuses first.directive e ∧
    d = ⟨.failure, s!"{key}: {e.message}", some key, some first.position⟩

theorem ownsKey_of_source {kind : Leaf} (own : kind.source = .key) : kind.ownsKey = true := by
  cases kind with
  | scalar | flag | list => rfl
  | optionFlag | options => cases own

/-- A leaf that is looked up under its own key is bound if the key is found, or its directive is
refused. -/
theorem bindOwn_cases {kind : Leaf} (own : kind.ownsKey = true) (site : Site)
    (source : Occurrence) (slot : kind.Slot) :
    (∃ value, kind.bindOwn site (some source) slot = .bound value site source) ∨
      ∃ e, kind.Refuses source.directive e ∧
        kind.bindOwn site (some source) slot = .settle slot site source (.error e) := by
  cases kind with
  | scalar origin type =>
    cases read : type.read source.directive.value with
    | ok value => exact .inl ⟨value, by simp only [bindOwn, read, Binding.settle]⟩
    | error e => exact .inr ⟨e, .scalar read, by simp only [bindOwn, read]⟩
  | flag => exact .inl ⟨true, rfl⟩
  | list type =>
    cases read : type.readList source.directive.options with
    | ok values => exact .inl ⟨values, by simp only [bindOwn, read, Binding.settle]⟩
    | error e => exact .inr ⟨e, .list read, by simp only [bindOwn, read]⟩
  | optionFlag | options => cases own

end Leaf

namespace Lookup

/-- A key that is found leaves a trace, or the finding that its directive has no value. -/
def Accounted (lookup : Lookup) (sources : List Occurrence) (report : Report) : Prop :=
  sources ≠ [] → (∃ place, report.trace.contains place = true) ∨
    ∃ d ∈ report.diagnostics.items, ∃ kind ∈ lookup.leaf?,
      kind.ConversionFailure lookup.key sources d

/-- What one look-up reports. -/
inductive Reports (lookup : Lookup) (sources : List Occurrence) : Report → Prop
  | intro {own : Report} :
      own.Within sources lookup.key lookup.path → lookup.Accounted sources own →
      Reports lookup sources (.consume lookup.key sources ++ own)

end Lookup

/-- What look-ups report: each for itself, one after the other. -/
inductive Reports (index : DirectiveIndex) : List Lookup → Report → Prop
  | nil : Reports index [] ∅
  | cons {lookup : Lookup} {lookups : List Lookup} {own others : Report} :
      lookup.Reports (index.getAll lookup.key) own → Reports index lookups others →
      Reports index (lookup :: lookups) (own ++ others)

namespace Reports

variable {index : DirectiveIndex} {lookups lookups' : List Lookup} {report report' : Report}

theorem append (first : Reports index lookups report) (second : Reports index lookups' report') :
    Reports index (lookups ++ lookups') (report ++ report') := by
  induction first with
  | nil => rwa [Report.empty_append]
  | cons own _ ih =>
    rw [Report.append_assoc]
    exact .cons own ih

/-- The consumed keys are those that were looked up and found. -/
theorem contains_consumed_iff (reported : Reports index lookups report) (key : String) :
    report.consumed.contains key = true ↔
      key ∈ lookups.map Lookup.key ∧ index.getAll key ≠ [] := by
  induction reported with
  | nil => exact ⟨fun found => (nomatch found), fun found => nomatch found.1⟩
  | @cons lookup lookups own others first _ ih =>
    obtain ⟨within, -⟩ := first
    rw [Report.consumed_append, Report.consumed_append, within.consumed, TextMap.override_empty,
      TextMap.contains_override, Bool.or_eq_true, Report.contains_consumed_consume, ih,
      List.map_cons, List.mem_cons, or_and_right]
    exact or_congr_left (and_congr_right fun same => same ▸ Iff.rfl)

end Reports

namespace Table

variable {rules : RuleRegistry} {index : DirectiveIndex} {schema : String} {taken : List String}

theorem reports_leaf (spec : FieldSpec) (scope path : String) {kind : Leaf}
    (own : kind.ownsKey = true) (slot : kind.Slot) :
    (⟨s!"{scope}-{spec.name}", s!"{path}.{spec.ident}", some kind⟩ : Lookup).Reports
      (index.getAll s!"{scope}-{spec.name}")
      (bindLeaf rules index spec scope path kind slot).2 := by
  let site : Site := ⟨s!"{scope}-{spec.name}", s!"{scope}-{spec.name}", s!"{path}.{spec.ident}"⟩
  have within : (kind.bindOwn site (index.getAll site.key).head? slot).report.Within
      (index.getAll site.key) site.key site.path :=
    kind.within_bindOwn slot (fun _ member => List.mem_of_mem_head? member) (.refl _)
  simp only [bindLeaf, own, if_true, DirectiveIndex.get?, Report.consume_head]
  refine .intro (Binding.within_reportChecked within spec rules (placedAt_head _)) ?_
  intro found
  obtain ⟨source, others, sources⟩ := List.exists_cons_of_ne_nil found
  rw [sources, List.head?_cons]
  rcases Leaf.bindOwn_cases own site source slot with ⟨value, bound⟩ | ⟨e, refused, failed⟩
  · rw [bound]
    exact .inl ⟨site.path,
      Report.contains_trace_append (Report.contains_trace_bound site.path source) _⟩
  · rw [failed]
    exact .inr ⟨_, List.mem_singleton_self _, kind, rfl, source, rfl, e, refused, rfl⟩

theorem reports_inline (spec : FieldSpec) (scope path : String) {nested : Shape}
    (inner : Table nested) (slot : nested.Record) :
    (⟨s!"{scope}-{spec.name}", s!"{path}.{spec.ident}", none⟩ : Lookup).Reports
      (index.getAll s!"{scope}-{spec.name}")
      (bindComposite rules index spec scope path inner .inline slot).2 := by
  have own := index.getAll_key s!"{scope}-{spec.name}"
  simp only [bindComposite, DirectiveIndex.get?]
  cases found : index.getAll s!"{scope}-{spec.name}" with
  | nil => exact .intro .empty (fun found => absurd rfl found)
  | cons source others =>
    rw [found] at own
    have first : source ∈ source :: others := List.mem_cons_self
    have within := inner.within_bindElement rules first (.refl s!"{path}.{spec.ident}")
    rw [own source first] at within
    exact .intro within fun _ => .inl ⟨_, inner.contains_trace_bindElement rules source⟩

theorem reports_inlineList (spec : FieldSpec) (scope path : String) {nested : Shape}
    (inner : Table nested) (slot : List nested.Record) :
    (⟨s!"{scope}-{spec.name}", s!"{path}.{spec.ident}", none⟩ : Lookup).Reports
      (index.getAll s!"{scope}-{spec.name}")
      (bindComposite rules index spec scope path inner .inlineList slot).2 := by
  let site : Site := ⟨s!"{scope}-{spec.name}", s!"{scope}-{spec.name}", s!"{path}.{spec.ident}"⟩
  have elements : (inner.bindElements rules site.path (index.getAll site.key)).2.Within
      (index.getAll site.key) site.key site.path :=
    inner.within_bindElements rules (index.getAll_key site.key)
  simp only [bindComposite]
  rw [Report.append_assoc]
  refine .intro
    (elements.append (.ofDiagnostics (spec.about_refusals (placedAt_head _) rules _))) ?_
  intro found
  obtain ⟨source, others, sources⟩ := List.exists_cons_of_ne_nil found
  rw [sources]
  exact .inl ⟨_,
    Report.contains_trace_append (inner.contains_trace_bindElements rules source others) _⟩

/-- Binding an accepted table reports what its look-ups report. -/
theorem reports_bind {shape : Shape} {table : Table shape}
    (accepted : table.verify rules schema .namespaced taken = .ok ()) (scope path : String)
    (record : shape.Record) :
    Reports index (table.lookups scope path) (table.bind rules index scope path record).2 := by
  induction table generalizing schema taken scope path with
  | nil => exact .nil
  | leaf spec kind next ih =>
    obtain ⟨-, kindOk, nextOk⟩ := verify_leaf_ok_iff.mp accepted
    have own : kind.ownsKey = true := Leaf.ownsKey_of_source (Leaf.verify_ok_iff.mp kindOk rfl)
    exact .cons (reports_leaf spec scope path own record.1) (ih nextOk scope path record.2)
  | composite spec kind name inner next innerIh ih =>
    obtain ⟨-, -, innerOk, nextOk⟩ := verify_composite_ok_iff.mp accepted
    have others := ih nextOk scope path record.2
    rw [bind_composite]
    cases kind with
    | group => exact (innerIh innerOk _ _ record.1).append others
    | inline => exact .cons (reports_inline spec scope path inner record.1) others
    | inlineList => exact .cons (reports_inlineList spec scope path inner record.1) others

end Table

theorem Schema.decodeInto_reports {shape : Shape} {schema : Schema shape} {rules : RuleRegistry}
    (accepted : schema.verify rules = .ok ()) {scope : String} (nonempty : scope ≠ "")
    (index : DirectiveIndex) (start : shape.Record) :
    ∃ decoded, schema.decodeInto rules scope index start = .ok decoded ∧
      Reports index (schema.table.lookups scope schema.name) decoded.report :=
  ⟨_, decodeInto_of_accepted accepted nonempty index start,
    Table.reports_bind accepted scope schema.name start⟩

end DocOptions
