import DocOptions.Proofs.Schema.Accepted
import DocOptions.Proofs.Schema.Findings

/-! Tables without their rules. Rules and default literals are read only where a rule checks a value
that is bound already, so taking them away leaves all as it was but the refusals: the values, the
trace, the consumed keys and the findings of texts that cannot be read. Two tables that differ in
nothing else are the same table without them. -/

namespace DocOptions

/-- A field without what its rules go by. -/
def FieldSpec.unruled (spec : FieldSpec) : FieldSpec :=
  { spec with rules := [], default := none }

@[simp] theorem FieldSpec.name_unruled (spec : FieldSpec) : spec.unruled.name = spec.name := rfl

@[simp] theorem FieldSpec.ident_unruled (spec : FieldSpec) : spec.unruled.ident = spec.ident := rfl

/-- A table without its rules and default literals, those of nested tables included. -/
def Table.unruled : {shape : Shape} → Table shape → Table shape
  | _, nil => nil
  | _, leaf spec kind next => leaf spec.unruled kind next.unruled
  | _, composite spec kind name inner next =>
    composite spec.unruled kind name inner.unruled next.unruled

def Schema.unruled {shape : Shape} (schema : Schema shape) : Schema shape :=
  ⟨schema.name, schema.table.unruled⟩

/-- An outcome and the same one without what rules refuse. -/
structure BoundAlike {α : Type} (ruled plain : α × Report) (found : List Finding) : Prop where
  value : ruled.1 = plain.1
  marks : ruled.2.SameMarks plain.2
  unreadable : plain.2.diagnostics.items = found.filterMap Finding.unreadable?

namespace BoundAlike

variable {α β γ : Type} {first first' : α × Report} {second second' : β × Report}
  {found later : List Finding}

theorem kept (value : α) : BoundAlike (value, ∅) (value, ∅) [] :=
  ⟨rfl, .refl _, rfl⟩

theorem both (alike : BoundAlike first first' found) (alike' : BoundAlike second second' later)
    (join : α → β → γ) :
    BoundAlike (join first.1 second.1, first.2 ++ second.2)
      (join first'.1 second'.1, first'.2 ++ second'.2) (found ++ later) where
  value := by rw [alike.value, alike'.value]
  marks := alike.marks.append alike'.marks
  unreadable := by
    rw [List.filterMap_append, ← alike.unreadable, ← alike'.unreadable]
    rfl

/-- Marks can be set before on both sides. -/
theorem after (alike : BoundAlike first first' found) {report : Report}
    (silent : report.diagnostics.items = []) :
    BoundAlike (first.1, report ++ first.2) (first'.1, report ++ first'.2) found where
  value := alike.value
  marks := (Report.SameMarks.refl report).append alike.marks
  unreadable := by
    rw [← alike.unreadable]
    exact (congrArg (· ++ first'.2.diagnostics.items) silent).trans (List.nil_append _)

/-- Rules refuse what nothing refuses without them. -/
theorem refused (items : List Diagnostic) :
    BoundAlike ((), .ofDiagnostics items) ((), .ofDiagnostics []) (items.map .refused) where
  value := rfl
  marks := .ofDiagnostics items []
  unreadable := (Finding.filterMap_refused items).symm

theorem all {ι : Type} {ruled plain : ι → α × Report} {found : ι → List Finding}
    (each : ∀ item, BoundAlike (ruled item) (plain item) (found item)) (items : List ι) :
    BoundAlike
      (items.map fun item => (ruled item).1,
        (items.map fun item => (ruled item).2).foldl (· ++ ·) ∅)
      (items.map fun item => (plain item).1,
        (items.map fun item => (plain item).2).foldl (· ++ ·) ∅)
      (items.flatMap found) := by
  induction items with
  | nil => exact .kept _
  | cons item rest ih =>
    simp only [List.map_cons, List.foldl_cons, Report.empty_append,
      Report.foldl_append (ruled _).2, Report.foldl_append (plain _).2, List.flatMap_cons]
    exact (each item).both ih List.cons

end BoundAlike

/-- Rules and default literals come after the binding of a leaf. -/
theorem Binding.boundAlike {kind : Leaf} (binding : Binding kind.Slot) (spec : FieldSpec)
    (rules others : RuleRegistry) (site : Site) (position : Option Position) :
    BoundAlike (binding.slot, binding.reportChecked spec rules site position)
      (binding.slot, binding.reportChecked spec.unruled others site position)
      (binding.findings spec rules site position) where
  value := rfl
  marks := by
    unfold reportChecked
    split
    · exact (Report.SameMarks.refl _).append (.ofDiagnostics _ _)
    · exact .refl _
  unreadable := by
    rw [unreadable_findings]
    unfold reportChecked
    split
    · exact List.append_nil _
    · rfl

namespace Table

variable (rules others : RuleRegistry)

theorem boundAlike_bindInline {shape : Shape} (table : Table shape) (source : Occurrence)
    (path : String) (record : shape.Record) :
    BoundAlike (table.bindInline rules source path record)
      (table.unruled.bindInline others source path record)
      (table.inlineFindings rules source path record) := by
  induction table with
  | nil => exact .kept _
  | leaf spec kind next ih =>
    exact (Binding.boundAlike _ spec rules others _ _).both (ih record.2) Prod.mk
  | composite spec kind name inner next _ ih =>
    -- an inline composite does not bind those inside it
    have both := (BoundAlike.kept record.1).both (ih record.2) Prod.mk
    rwa [Report.empty_append, Report.empty_append] at both

theorem boundAlike_bindElement {shape : Shape} (table : Table shape) (path : String)
    (source : Occurrence) :
    BoundAlike (table.bindElement rules path source) (table.unruled.bindElement others path source)
      (table.inlineFindings rules source path shape.zero) :=
  (table.boundAlike_bindInline rules others source path shape.zero).after rfl

theorem boundAlike_bindElements {shape : Shape} (table : Table shape) (path : String)
    (sources : List Occurrence) :
    BoundAlike (table.bindElements rules path sources)
      (table.unruled.bindElements others path sources)
      (sources.zipIdx.flatMap fun (source, i) =>
        table.inlineFindings rules source s!"{path}[{i}]" shape.zero) := by
  have each (item : Occurrence × Nat) :=
    table.boundAlike_bindElement rules others s!"{path}[{item.2}]" item.1
  have elements := BoundAlike.all each sources.zipIdx
  simpa only [bindElements, List.map_map, Function.comp_def] using elements

variable (index : DirectiveIndex) (spec : FieldSpec) (scope path : String)

theorem boundAlike_bindLeaf (kind : Leaf) (slot : kind.Slot) :
    let key := s!"{scope}-{spec.name}"
    let site : Site := ⟨key, key, s!"{path}.{spec.ident}"⟩
    let found := index.get? key
    BoundAlike (bindLeaf rules index spec scope path kind slot)
      (bindLeaf others index spec.unruled scope path kind slot)
      ((kind.bindOwn site found slot).findings spec rules site (found.map (·.position))) :=
  (Binding.boundAlike _ spec rules others _ _).after rfl

variable {nested : Shape} (inner : Table nested)

theorem boundAlike_bindInlineField (slot : nested.Record) :
    BoundAlike (bindComposite rules index spec scope path inner .inline slot)
      (bindComposite others index spec.unruled scope path inner.unruled .inline slot)
      ((index.get? s!"{scope}-{spec.name}").toList.flatMap fun source =>
        inner.inlineFindings rules source s!"{path}.{spec.ident}" nested.zero) := by
  simp only [bindComposite, FieldSpec.name_unruled, FieldSpec.ident_unruled]
  cases index.get? s!"{scope}-{spec.name}" with
  | none => exact .kept _
  | some source =>
    rw [Option.toList_some, List.flatMap_singleton]
    exact (inner.boundAlike_bindElement rules others _ source).after rfl

theorem boundAlike_bindInlineList (slot : List nested.Record) :
    let key := s!"{scope}-{spec.name}"
    let site : Site := ⟨key, key, s!"{path}.{spec.ident}"⟩
    let found := index.getAll key
    let slot' := if found.isEmpty then slot else (inner.bindElements rules site.path found).1
    BoundAlike (bindComposite rules index spec scope path inner .inlineList slot)
      (bindComposite others index spec.unruled scope path inner.unruled .inlineList slot)
      (found.zipIdx.flatMap (fun (source, i) =>
          inner.inlineFindings rules source s!"{site.path}[{i}]" nested.zero) ++
        (spec.refusals rules site (found.head?.map (·.position)) (.ofList slot')).map
          .refused) := by
  intro key site found slot'
  have silent : (Report.consume key found).diagnostics.items = [] := rfl
  have elements := (inner.boundAlike_bindElements rules others site.path found).after silent
  exact elements.both (.refused _) fun elements _ => if found.isEmpty then slot else elements

/-- Taking away the rules of a table, and those that are registered, takes away the refusals and
changes nothing else. -/
theorem boundAlike_bind {shape : Shape} (table : Table shape) (scope path : String)
    (record : shape.Record) :
    BoundAlike (table.bind rules index scope path record)
      (table.unruled.bind others index scope path record)
      (table.findings rules index scope path record) := by
  induction table generalizing scope path with
  | nil => exact .kept _
  | leaf spec kind next ih =>
    exact (boundAlike_bindLeaf rules others index spec scope path kind record.1).both
      (ih scope path record.2) Prod.mk
  | composite spec kind name inner next innerIh ih =>
    rw [unruled, bind_composite, bind_composite]
    cases kind with
    | group => exact (innerIh _ _ record.1).both (ih scope path record.2) Prod.mk
    | inline =>
      exact (boundAlike_bindInlineField rules others index spec scope path inner record.1).both
        (ih scope path record.2) Prod.mk
    | inlineList =>
      exact (boundAlike_bindInlineList rules others index spec scope path inner record.1).both
        (ih scope path record.2) Prod.mk

/-- No rule is unknown where none is named. -/
theorem verify_unruled {rules : RuleRegistry} {schema : String} {mode : Mode}
    {taken : List String} {shape : Shape} {table : Table shape}
    (accepted : table.verify rules schema mode taken = .ok ()) :
    table.unruled.verify others schema mode taken = .ok () := by
  induction table generalizing schema mode taken with
  | nil => rfl
  | leaf spec kind next ih =>
    obtain ⟨specOk, kindOk, nextOk⟩ := verify_leaf_ok_iff.mp accepted
    obtain ⟨fresh, -⟩ := FieldSpec.verify_ok_iff.mp specOk
    exact verify_leaf_ok_iff.mpr
      ⟨FieldSpec.verify_ok_iff.mpr ⟨fresh, nofun⟩, kindOk, ih nextOk⟩
  | composite spec kind name inner next innerIh ih =>
    obtain ⟨specOk, kindOk, innerOk, nextOk⟩ := verify_composite_ok_iff.mp accepted
    obtain ⟨fresh, -⟩ := FieldSpec.verify_ok_iff.mp specOk
    obtain ⟨namespaced, -⟩ := Composite.verify_ok_iff.mp kindOk
    exact verify_composite_ok_iff.mpr
      ⟨FieldSpec.verify_ok_iff.mpr ⟨fresh, nofun⟩,
        Composite.verify_ok_iff.mpr ⟨namespaced, .inr rfl⟩, innerIh innerOk, ih nextOk⟩

end Table

namespace Schema

variable {shape : Shape} {rules : RuleRegistry} {scope : String}

/-- The findings of a decode, in the order in which they are made. -/
def findings (schema : Schema shape) (rules : RuleRegistry) (scope : String)
    (index : DirectiveIndex) (start : shape.Record) : List Finding :=
  schema.table.findings rules index scope schema.name start

/-- A decode with an accepted schema tells its findings, and without the rules the same but for the
refusals. -/
theorem exists_decodeInto_unruled {schema : Schema shape} (accepted : schema.verify rules = .ok ())
    (nonempty : scope ≠ "") (index : DirectiveIndex) (start : shape.Record) :
    ∃ decoded plain, schema.decodeInto rules scope index start = .ok decoded ∧
      schema.unruled.decodeInto ∅ scope index start = .ok plain ∧
      decoded.value = plain.value ∧ decoded.report.SameMarks plain.report ∧
      decoded.report.diagnostics.items =
        (schema.findings rules scope index start).map Finding.diagnostic ∧
      plain.report.diagnostics.items =
        (schema.findings rules scope index start).filterMap Finding.unreadable? := by
  have accepted' : schema.unruled.verify ∅ = .ok () := Table.verify_unruled ∅ accepted
  have alike := Table.boundAlike_bind rules ∅ index schema.table scope schema.name start
  exact ⟨_, _, decodeInto_of_accepted accepted nonempty index start,
    decodeInto_of_accepted accepted' nonempty index start, alike.value, alike.marks,
    Table.items_bind .., alike.unreadable⟩

/-- Between two accepted schemas that are the same without their rules and default literals, each
with its own registry, there is no difference in what is bound and what is found unreadable. -/
theorem decodeInto_of_unruled_eq {left right : Schema shape} {others : RuleRegistry}
    (accepted : left.verify rules = .ok ()) (accepted' : right.verify others = .ok ())
    (same : left.unruled = right.unruled) (scope : String) (index : DirectiveIndex)
    (start : shape.Record) :
    (scope = "" → left.decodeInto rules scope index start = .error .emptyPrefix ∧
      right.decodeInto others scope index start = .error .emptyPrefix) ∧
    (scope ≠ "" → ∃ decoded decoded' plain,
      left.decodeInto rules scope index start = .ok decoded ∧
      right.decodeInto others scope index start = .ok decoded' ∧
      left.unruled.decodeInto ∅ scope index start = .ok plain ∧
      (decoded.value = plain.value ∧ decoded'.value = plain.value) ∧
      (decoded.report.trace = plain.report.trace ∧ decoded'.report.trace = plain.report.trace) ∧
      (decoded.report.consumed = plain.report.consumed ∧
        decoded'.report.consumed = plain.report.consumed) ∧
      (decoded.report.diagnostics.items =
          (left.findings rules scope index start).map Finding.diagnostic ∧
        decoded'.report.diagnostics.items =
          (right.findings others scope index start).map Finding.diagnostic) ∧
      (left.findings rules scope index start).filterMap Finding.unreadable? =
        plain.report.diagnostics.items ∧
      (right.findings others scope index start).filterMap Finding.unreadable? =
        plain.report.diagnostics.items) := by
  constructor
  · rintro rfl
    exact ⟨decodeInto_of_empty .., decodeInto_of_empty ..⟩
  · intro nonempty
    obtain ⟨decoded, plain, done, plainDone, value, marks, told, unreadable⟩ :=
      exists_decodeInto_unruled accepted nonempty index start
    obtain ⟨decoded', plain', done', plainDone', value', marks', told', unreadable'⟩ :=
      exists_decodeInto_unruled accepted' nonempty index start
    obtain rfl : plain = plain' := by
      rw [← same, plainDone] at plainDone'
      exact Except.ok.inj plainDone'
    exact ⟨decoded, decoded', plain, done, done', plainDone, ⟨value, value'⟩,
      ⟨marks.trace, marks'.trace⟩, ⟨marks.consumed, marks'.consumed⟩, ⟨told, told'⟩,
      unreadable.symm, unreadable'.symm⟩

/-- A default and rules that pass or refuse, against a registered rule that refuses every value. -/
theorem decodeInto_of_unruled_eq_other_rules :
    let table (mode value count : FieldSpec) :=
      Table.leaf mode (.scalar .key (.plain .string)) <|
      .composite (field "query") .group "Query"
        (.composite value .inlineList "Value"
          (.leaf count (.scalar .param (.plain (.integer .int64))) .nil) .nil) .nil
    let left : Schema _ := ⟨"Options", table
      (((field "mode").oneOf ["on", "off"]).defaultValue "on") (field "value")
      (field "count").required⟩
    let right : Schema _ := ⟨"Options", table (field "mode")
      ((field "value").rule ⟨"never", ∅⟩) (field "count")⟩
    let others : RuleRegistry := .singleton "never" ⟨fun _ _ => some "refused"⟩
    let index := DirectiveIndex.ofList
      [⟨⟨"http-query-value", [], .singleton "count" "some"⟩, .unknown⟩,
        ⟨⟨"http-query-value", [], ∅⟩, .unknown⟩]
    let start := left.table.shape.zero
    let ruled := left.decodeInto .standard "http" index start
    let ruled' := right.decodeInto others "http" index start
    let plain := left.unruled.decodeInto ∅ "http" index start
    (∃ decoded decoded' bare, ruled = .ok decoded ∧ ruled' = .ok decoded' ∧ plain = .ok bare ∧
      decoded.value = bare.value ∧ decoded'.value = bare.value) ∧
      [ruled, ruled', plain].map (fun outcome => outcome.toOption.map fun decoded =>
        (decoded.value.1, decoded.report.diagnostics.items.length)) =
        [some ("", 2), some ("", 2), some ("", 1)] := by
  intro table left right others index start ruled ruled' plain
  have accepted : left.verify .standard = .ok () := rfl
  have accepted' : right.verify others = .ok () := rfl
  obtain ⟨decoded, decoded', bare, done, done', bareDone, ⟨value, value'⟩, -⟩ :=
    (decodeInto_of_unruled_eq accepted accepted' rfl "http" index start).2 (by decide)
  exact ⟨⟨decoded, decoded', bare, done, done', bareDone, value, value'⟩, by decide +kernel⟩

end Schema
end DocOptions
