import DocOptions.Proofs.Schema.Accepted
import DocOptions.Proofs.Schema.InlineComposites

/-! What a failed conversion leads to, in every field of a decode. The field keeps what it held, its
one failure says why, its rules do not run and it leaves no trace; no other field is touched by it,
so the report of a decode is that of its fields, one after the other. -/

namespace DocOptions

/-- What rules find wrong with a value: a failure for each rule that refuses it, in the order of the
rules, all of which are registered. -/
inductive Checks (rules : RuleRegistry) (site : Site) (position : Option Position)
    (default : Option String) (view : ValueView) : List RuleSpec → List Diagnostic → Prop
  | nil : Checks rules site position default view [] []
  | passed {rule : RuleSpec} {check : Rule} {later : List RuleSpec} {found : List Diagnostic} :
      rules.get? rule.name = some check →
      check.refusal? ⟨site.subject, rule.params, default⟩ view = none →
      Checks rules site position default view later found →
      Checks rules site position default view (rule :: later) found
  | refused {rule : RuleSpec} {check : Rule} {message : String} {later : List RuleSpec}
      {found : List Diagnostic} :
      rules.get? rule.name = some check →
      check.refusal? ⟨site.subject, rule.params, default⟩ view = some message →
      Checks rules site position default view later found →
      Checks rules site position default view (rule :: later)
        (⟨.failure, message, some site.key, position⟩ :: found)

namespace Leaf

/-- Why the directive with a leaf's own key has no value for the leaf. A list is refused for the
first of its options that is. -/
inductive OwnFault (directive : Directive) : Leaf → ConversionError → Prop
  | scalar {source : ScalarSource} {type : ScalarType} {e : ConversionError} :
      type.read (directive.options.headD "") = .error e →
      OwnFault directive (.scalar source type) e
  | list {type : ScalarType} {earlier later : List String} {text : String} {e : ConversionError} :
      directive.options = earlier ++ text :: later →
      (∀ other ∈ earlier, ∃ value, type.read other = .ok value) → type.read text = .error e →
      OwnFault directive (.list type) e

/-- Why the directive of a composite has no value for a leaf of the composite. -/
inductive InlineFault (name : String) (directive : Directive) : Leaf → ConversionError → Prop
  | value {type : ScalarType} {text : String} {others : List String} {e : ConversionError} :
      directive.options = text :: others → type.read text = .error e →
      InlineFault name directive (.scalar .value type) e
  | param {type : ScalarType} {text : String} {e : ConversionError} :
      directive.params.get? name = some text → type.read text = .error e →
      InlineFault name directive (.scalar .param type) e

/-- What becomes of a leaf, given the occurrence that it is read from and why that may have no value
for it. -/
structure Settled (kind : Leaf) (spec : FieldSpec) (rules : RuleRegistry) (site : Site)
    (source? : Option Occurrence) (Fault : Directive → Leaf → ConversionError → Prop)
    (start final : kind.Slot) (own : Report) : Prop where
  failed : ∀ source ∈ source?, ∀ e, Fault source.directive kind e →
    final = start ∧ own.trace = ∅ ∧ own.diagnostics.items =
      [⟨.failure, s!"{site.subject}: {e.message}", some site.key, some source.position⟩]
  checked : (∀ source ∈ source?, ∀ e, ¬ Fault source.directive kind e) →
    Checks rules site (source?.map (·.position)) spec.default (kind.view final) spec.rules
      own.diagnostics.items

end Leaf

namespace Table

/-- What becomes of the fields of an inline composite, each read from the one occurrence. -/
inductive InlineSettled (rules : RuleRegistry) (source : Occurrence) (path : String) :
    {shape : Shape} → Table shape → shape.Record → shape.Record → Report → Prop
  | nil : InlineSettled rules source path .nil () () ∅
  | leaf {rest : Shape} {spec : FieldSpec} {kind : Leaf} {next : Table rest}
      {start final : (Shape.leaf kind rest).Record} {own others : Report} :
      kind.Settled spec rules
        ⟨s!"{source.key} {spec.name}", source.key, s!"{path}.{spec.ident}"⟩ (some source)
        (Leaf.InlineFault spec.name) start.1 final.1 own →
      InlineSettled rules source path next start.2 final.2 others →
      InlineSettled rules source path (.leaf spec kind next) start final (own ++ others)

/-- What becomes of the elements of an inline list, from the index `i` on. -/
inductive ElementsSettled {nested : Shape} (inner : Table nested) (rules : RuleRegistry)
    (path : String) : (i : Nat) → List Occurrence → List nested.Record → Report → Prop
  | nil {i : Nat} : ElementsSettled inner rules path i [] [] ∅
  | cons {i : Nat} {source : Occurrence} {sources : List Occurrence} {element : nested.Record}
      {elements : List nested.Record} {own others : Report} :
      inner.InlineSettled rules source s!"{path}[{i}]" nested.zero element own →
      ElementsSettled inner rules path (i + 1) sources elements others →
      ElementsSettled inner rules path i (source :: sources) (element :: elements)
        (.bound s!"{path}[{i}]" source ++ own ++ others)

/-- What becomes of the fields of a table below a scope, and all that they report. -/
inductive Settled (rules : RuleRegistry) (index : DirectiveIndex) : {shape : Shape} →
    Table shape → (scope path : String) → shape.Record → shape.Record → Report → Prop
  | nil {scope path : String} : Settled rules index .nil scope path () () ∅
  | leaf {rest : Shape} {spec : FieldSpec} {kind : Leaf} {next : Table rest} {scope path : String}
      {start final : (Shape.leaf kind rest).Record} {own others : Report} :
      kind.Settled spec rules
        ⟨s!"{scope}-{spec.name}", s!"{scope}-{spec.name}", s!"{path}.{spec.ident}"⟩
        (index.get? s!"{scope}-{spec.name}") Leaf.OwnFault start.1 final.1 own →
      Settled rules index next scope path start.2 final.2 others →
      Settled rules index (.leaf spec kind next) scope path start final (own ++ others)
  | group {nested rest : Shape} {spec : FieldSpec} {name : String} {inner : Table nested}
      {next : Table rest} {scope path : String}
      {start final : (Shape.composite .group nested rest).Record} {own others : Report} :
      spec.rules = [] →
      Settled rules index inner s!"{scope}-{spec.name}" s!"{path}.{spec.ident}" start.1 final.1
        own →
      Settled rules index next scope path start.2 final.2 others →
      Settled rules index (.composite spec .group name inner next) scope path start final
        (own ++ others)
  | absent {nested rest : Shape} {spec : FieldSpec} {name : String} {inner : Table nested}
      {next : Table rest} {scope path : String}
      {start final : (Shape.composite .inline nested rest).Record} {others : Report} :
      spec.rules = [] → index.get? s!"{scope}-{spec.name}" = none → final.1 = start.1 →
      Settled rules index next scope path start.2 final.2 others →
      Settled rules index (.composite spec .inline name inner next) scope path start final others
  | inline {nested rest : Shape} {spec : FieldSpec} {name : String} {inner : Table nested}
      {next : Table rest} {scope path : String}
      {start final : (Shape.composite .inline nested rest).Record} {source : Occurrence}
      {own others : Report} :
      spec.rules = [] → index.get? s!"{scope}-{spec.name}" = some source →
      inner.InlineSettled rules source s!"{path}.{spec.ident}" nested.zero final.1 own →
      Settled rules index next scope path start.2 final.2 others →
      Settled rules index (.composite spec .inline name inner next) scope path start final
        (.consume s!"{scope}-{spec.name}" [source] ++
          (.bound s!"{path}.{spec.ident}" source ++ own) ++ others)
  | inlineList {nested rest : Shape} {spec : FieldSpec} {name : String} {inner : Table nested}
      {next : Table rest} {scope path : String}
      {start final : (Shape.composite .inlineList nested rest).Record}
      {sources : List Occurrence} {elements : List nested.Record} {found : List Diagnostic}
      {own others : Report} :
      index.getAll s!"{scope}-{spec.name}" = sources →
      inner.ElementsSettled rules s!"{path}.{spec.ident}" 0 sources elements own →
      final.1 = (if sources = [] then start.1 else elements) →
      Checks rules
        ⟨s!"{scope}-{spec.name}", s!"{scope}-{spec.name}", s!"{path}.{spec.ident}"⟩
        (sources.head?.map (·.position)) spec.default (.ofList final.1) spec.rules found →
      Settled rules index next scope path start.2 final.2 others →
      Settled rules index (.composite spec .inlineList name inner next) scope path start final
        (.consume s!"{scope}-{spec.name}" sources ++ own ++ .ofDiagnostics found ++ others)

end Table

/-- A list has no value because of the first text that has none. -/
theorem ScalarType.readList_error_iff {type : ScalarType} {texts : List String}
    {e : ConversionError} :
    type.readList texts = .error e ↔ ∃ earlier text later, texts = earlier ++ text :: later ∧
      (∀ other ∈ earlier, ∃ value, type.read other = .ok value) ∧ type.read text = .error e := by
  unfold readList
  constructor
  · intro failed
    induction texts with
    | nil => cases failed
    | cons first rest ih =>
      rw [List.mapM_cons] at failed
      cases read : type.read first with
      | error e' =>
        rw [read] at failed
        cases failed
        exact ⟨[], first, rest, rfl, List.forall_mem_nil _, read⟩
      | ok value =>
        cases others : rest.mapM type.read with
        | ok values =>
          rw [read, others] at failed
          cases failed
        | error e' =>
          rw [read, others] at failed
          cases failed
          obtain ⟨earlier, text, later, rfl, before, failed⟩ := ih others
          exact ⟨first :: earlier, text, later, rfl,
            List.forall_mem_cons.mpr ⟨⟨value, read⟩, before⟩, failed⟩
  · rintro ⟨earlier, text, later, rfl, before, failed⟩
    induction earlier with
    | nil =>
      rw [List.nil_append, List.mapM_cons, failed]
      rfl
    | cons first earlier ih =>
      obtain ⟨⟨value, read⟩, before⟩ := List.forall_mem_cons.mp before
      rw [List.cons_append, List.mapM_cons, read, ih before]
      rfl

/-- The refusals of registered rules are those of each rule. -/
theorem FieldSpec.checks_refusals {spec : FieldSpec} {rules : RuleRegistry}
    (known : ∀ rule ∈ spec.rules, rules.contains rule.name = true) (site : Site)
    (position : Option Position) (view : ValueView) :
    Checks rules site position spec.default view spec.rules
      (spec.refusals rules site position view) := by
  unfold refusals
  generalize spec.rules = declared at known ⊢
  induction declared with
  | nil => exact .nil
  | cons rule later ih =>
    obtain ⟨own, others⟩ := List.forall_mem_cons.mp known
    obtain ⟨check, registered⟩ := Option.isSome_iff_exists.mp own
    have others := ih others
    cases refusal : check.refusal? ⟨site.subject, rule.params, spec.default⟩ view with
    | none =>
      rw [List.filterMap_cons_none (by rw [registered, Option.bind_some, refusal]; rfl)]
      exact .passed registered refusal others
    | some message =>
      rw [List.filterMap_cons_some (by rw [registered, Option.bind_some, refusal]; rfl)]
      exact .refused registered refusal others

namespace Leaf

variable {kind : Leaf} {spec : FieldSpec} {rules : RuleRegistry} {site : Site}
  {source? : Option Occurrence} {source : Occurrence} {start : kind.Slot}
  {Fault : Directive → Leaf → ConversionError → Prop}

theorem Settled.of_converted {binding : Binding kind.Slot}
    (known : ∀ rule ∈ spec.rules, rules.contains rule.name = true)
    (converted : binding.converted = true) (silent : binding.report.diagnostics.items = [])
    (possible : ∀ source ∈ source?, ∀ e, ¬ Fault source.directive kind e) :
    kind.Settled spec rules site source? Fault start binding.slot
      (binding.reportChecked spec rules site (source?.map (·.position))) where
  failed source found e fault := absurd fault (possible source found e)
  checked _ := by
    rw [Binding.reportChecked, if_pos converted]
    change Checks _ _ _ _ _ _ (binding.report.diagnostics.items ++ _)
    rw [silent]
    exact FieldSpec.checks_refusals known site _ _

theorem settled_settle (known : ∀ rule ∈ spec.rules, rules.contains rule.name = true)
    {result : Except ConversionError kind.Slot}
    (faults : ∀ e, Fault source.directive kind e ↔ result = .error e) :
    kind.Settled spec rules site (some source) Fault start
      (Binding.settle start site source result).slot
      ((Binding.settle start site source result).reportChecked spec rules site
        (some source.position)) := by
  cases result with
  | ok value =>
    refine .of_converted known rfl rfl ?_
    rintro _ ⟨⟩ e fault
    exact nomatch (faults e).mp fault
  | error e =>
    constructor
    case failed =>
      rintro _ ⟨⟩ e' fault
      cases (faults e').mp fault
      exact ⟨rfl, rfl, rfl⟩
    case checked =>
      intro possible
      exact absurd ((faults e).mpr rfl) (possible source rfl e)

theorem settled_bindOwn (own : kind.source = .key)
    (known : ∀ rule ∈ spec.rules, rules.contains rule.name = true) :
    kind.Settled spec rules site source? OwnFault start (kind.bindOwn site source? start).slot
      ((kind.bindOwn site source? start).reportChecked spec rules site
        (source?.map (·.position))) := by
  cases source? with
  | none =>
    cases kind with
    | scalar | flag | list => exact .of_converted known rfl rfl (by rintro _ ⟨⟩)
    | optionFlag | options => cases own
  | some source =>
    cases kind with
    | scalar origin type =>
      refine settled_settle known fun e => ⟨?_, .scalar⟩
      rintro ⟨failed⟩
      exact failed
    | flag =>
      refine .of_converted known rfl rfl ?_
      rintro _ _ _ ⟨⟩
    | list type =>
      refine settled_settle known fun e => ⟨?_, ?_⟩
      · intro fault
        cases fault with
        | list split before failed =>
          exact ScalarType.readList_error_iff.mpr ⟨_, _, _, split, before, failed⟩
      · intro failed
        obtain ⟨_, _, _, split, before, failed⟩ := ScalarType.readList_error_iff.mp failed
        exact .list split before failed
    | optionFlag | options => cases own

/-- A directive of a composite has no value for a leaf where it reads as an error. -/
theorem inlineFault_iff {name : String} {directive : Directive} {e : ConversionError} :
    InlineFault name directive kind e ↔ kind.reading? name directive = some (.error e) := by
  constructor
  · intro fault
    cases fault with
    | value options failed =>
      rw [reading?, options, List.head?_cons, Option.map_some, failed]
    | param given failed => rw [reading?, given, Option.map_some, failed]
  · intro read
    cases kind with
    | scalar origin type =>
      cases origin with
      | key => cases read
      | value =>
        obtain ⟨text, first, failed⟩ := Option.map_eq_some_iff.mp read
        obtain ⟨others, options⟩ := List.head?_eq_some_iff.mp first
        exact .value options failed
      | param =>
        obtain ⟨text, given, failed⟩ := Option.map_eq_some_iff.mp read
        exact .param given failed
    | flag | list => cases read
    | optionFlag =>
      rw [reading?] at read
      split at read <;> cases read
    | options => cases read

theorem settled_bindInline (known : ∀ rule ∈ spec.rules, rules.contains rule.name = true) :
    kind.Settled spec rules site (some source) (InlineFault spec.name) start
      (kind.bindInline site spec.name source start).slot
      ((kind.bindInline site spec.name source start).reportChecked spec rules site
        (some source.position)) := by
  rw [bindInline_eq]
  cases read : kind.reading? spec.name source.directive with
  | none =>
    refine .of_converted known rfl rfl ?_
    rintro _ ⟨⟩ e fault
    exact nomatch read.symm.trans (inlineFault_iff.mp fault)
  | some result =>
    refine settled_settle known fun e => inlineFault_iff.trans ?_
    rw [read, Option.some.injEq]

theorem Settled.consume {final : kind.Slot} {own : Report}
    (settled : kind.Settled spec rules site source? Fault start final own)
    (key : String) (found : List Occurrence) :
    kind.Settled spec rules site source? Fault start final (.consume key found ++ own) where
  failed source given e fault := by
    obtain ⟨kept, trace, items⟩ := settled.failed source given e fault
    exact ⟨kept, (TextMap.empty_override own.trace).trans trace, items⟩
  checked := settled.checked

end Leaf

namespace Table

variable {rules : RuleRegistry} {index : DirectiveIndex} {schema : String} {taken : List String}

/-- The fields of an inline composite are leaves, each bound on its own. -/
theorem inlineSettled_bindInline {shape : Shape} {table : Table shape}
    (accepted : table.verify rules schema .inline taken = .ok ()) (source : Occurrence)
    (path : String) (record : shape.Record) :
    table.InlineSettled rules source path record (table.bindInline rules source path record).1
      (table.bindInline rules source path record).2 := by
  induction table generalizing taken with
  | nil => exact .nil
  | leaf spec kind next ih =>
    obtain ⟨specOk, -, nextOk⟩ := verify_leaf_ok_iff.mp accepted
    have known := (FieldSpec.verify_ok_iff.mp specOk).2
    exact .leaf (Leaf.settled_bindInline known) (ih nextOk record.2)
  | composite spec kind name inner next _ _ =>
    obtain ⟨-, kindOk, -⟩ := verify_composite_ok_iff.mp accepted
    exact nomatch (Composite.verify_ok_iff.mp kindOk).1

theorem elementsSettled {nested : Shape} {inner : Table nested}
    (accepted : inner.verify rules schema .inline taken = .ok ()) (path : String) (i : Nat)
    (sources : List Occurrence) :
    inner.ElementsSettled rules path i sources
      (sources.map fun source => inner.element source.directive)
      (inner.elementReports rules path i sources) := by
  induction sources generalizing i with
  | nil => exact .nil
  | cons source others ih =>
    have own := inlineSettled_bindInline accepted source s!"{path}[{i}]" nested.zero
    rw [(inner.bindInline_zero rules source _).1] at own
    rw [elementReports_cons]
    exact .cons own (ih (i + 1))

/-- Every field of an accepted table is settled, and reports for itself. -/
theorem settled_bind {shape : Shape} {table : Table shape}
    (accepted : table.verify rules schema .namespaced taken = .ok ()) (scope path : String)
    (record : shape.Record) :
    table.Settled rules index scope path record (table.bind rules index scope path record).1
      (table.bind rules index scope path record).2 := by
  induction table generalizing schema taken scope path with
  | nil => exact .nil
  | leaf spec kind next ih =>
    obtain ⟨specOk, kindOk, nextOk⟩ := verify_leaf_ok_iff.mp accepted
    have known := (FieldSpec.verify_ok_iff.mp specOk).2
    have own : kind.source = .key := Leaf.verify_ok_iff.mp kindOk rfl
    exact .leaf ((Leaf.settled_bindOwn own known).consume _ _) (ih nextOk scope path record.2)
  | composite spec kind name inner next innerIh ih =>
    obtain ⟨specOk, kindOk, innerOk, nextOk⟩ := verify_composite_ok_iff.mp accepted
    have others := ih nextOk scope path record.2
    have rulesOk := (Composite.verify_ok_iff.mp kindOk).2
    rw [bind_composite]
    cases kind with
    | group =>
      have unruled := rulesOk.resolve_left (by decide)
      exact .group unruled (innerIh innerOk _ _ record.1) others
    | inline =>
      have unruled := rulesOk.resolve_left (by decide)
      cases found : index.get? s!"{scope}-{spec.name}" with
      | none =>
        simp only [bindComposite, found, Report.empty_append]
        exact .absent unruled found rfl others
      | some source =>
        rw [bindComposite_inline rules index spec scope path inner record.1 found]
        exact .inline unruled found (inlineSettled_bindInline innerOk source _ _) others
    | inlineList =>
      let sources := index.getAll s!"{scope}-{spec.name}"
      let place := s!"{path}.{spec.ident}"
      have known := (FieldSpec.verify_ok_iff.mp specOk).2
      have elements := elementsSettled innerOk place 0 sources
      rw [← report_bindElements, ← (inner.bindElements_eq rules place sources).1] at elements
      have final : (bindComposite rules index spec scope path inner .inlineList record.1).1 =
          if sources = [] then record.1 else (inner.bindElements rules place sources).1 := by
        simp only [bindComposite, List.isEmpty_iff, sources, place]
      exact .inlineList rfl elements final (FieldSpec.checks_refusals known _ _ _) others

end Table

end DocOptions
