import DocOptions.Proofs.Schema.Fields
import DocOptions.Proofs.Schema.Paths

/-! Binding below another path. The path that a table is bound at shows in nothing but the trace:
the values, the findings and the consumed keys stay, and every entry of the trace stands below the
other path as it stood below the first. -/

namespace DocOptions

namespace PathWithin

theorem append {rest : String} (inside : PathWithin "" rest) (path : String) :
    PathWithin path (path ++ rest) := by
  obtain ⟨chars, whole, start⟩ := inside
  exact ⟨chars, by rw [String.toList_append, whole]; rfl, start⟩

end PathWithin

/-- The entries of a trace at or below one path, put at another. -/
structure Trace.Rerooted (origin target : String) (trace moved : Trace) : Prop where
  same : ∀ rest, moved.get? (target ++ rest) = trace.get? (origin ++ rest)
  within : ∀ path entry, trace.get? path = some entry → PathWithin origin path
  movedWithin : ∀ path entry, moved.get? path = some entry → PathWithin target path

/-- An outcome that shows the path it is bound at only in its trace. -/
structure Relocatable {α : Type} (outcome : String → α × Report) : Prop where
  value : ∀ path path', (outcome path).1 = (outcome path').1
  diagnostics : ∀ path path', (outcome path).2.diagnostics = (outcome path').2.diagnostics
  consumed : ∀ path path', (outcome path).2.consumed = (outcome path').2.consumed
  traced : ∃ marks : List (String × Occurrence), (∀ mark ∈ marks, PathWithin "" mark.1) ∧
    ∀ path, (outcome path).2.trace = .ofList (marks.map fun mark => (path ++ mark.1, mark.2))

namespace Relocatable

variable {α β γ : Type} {first : String → α × Report} {second : String → β × Report}

theorem fixed (same : ∀ path, first path = first "") (untraced : (first "").2.trace = ∅) :
    Relocatable first where
  value path path' := by rw [same path, same path']
  diagnostics path path' := by rw [same path, same path']
  consumed path path' := by rw [same path, same path']
  traced := ⟨[], fun _ member => (nomatch member), fun path => same path ▸ untraced⟩

theorem bound (source : Occurrence) (value : ∀ path, (first path).1 = (first "").1)
    (report : ∀ path, (first path).2 = .bound path source) : Relocatable first where
  value path path' := by rw [value path, value path']
  diagnostics path path' := by rw [report path, report path']; rfl
  consumed path path' := by rw [report path, report path']; rfl
  traced := by
    refine ⟨[("", source)], List.forall_mem_singleton.mpr (.refl ""), fun path => ?_⟩
    rw [report path, List.map_cons, List.map_nil, String.append_empty]
    rfl

/-- Findings and consumed keys alone. -/
theorem untraced {report : Report} (empty : report.trace = ∅) : Relocatable fun _ => ((), report) :=
  .fixed (fun _ => rfl) empty

/-- One entry at the path itself. -/
theorem marked (source : Occurrence) : Relocatable fun path => ((), Report.bound path source) :=
  .bound source (fun _ => rfl) fun _ => rfl

/-- Two outcomes, one after the other. -/
theorem both (relocatable : Relocatable first) (relocatable' : Relocatable second)
    (join : α → β → γ) : Relocatable fun path =>
      (join (first path).1 (second path).1, (first path).2 ++ (second path).2) where
  value path path' := by
    simp only [relocatable.value path path', relocatable'.value path path']
  diagnostics path path' := by
    simp only [Report.diagnostics_append, relocatable.diagnostics path path',
      relocatable'.diagnostics path path']
  consumed path path' := by
    simp only [Report.consumed_append, relocatable.consumed path path',
      relocatable'.consumed path path']
  traced := by
    obtain ⟨marks, within, traced⟩ := relocatable.traced
    obtain ⟨marks', within', traced'⟩ := relocatable'.traced
    refine ⟨marks ++ marks', List.forall_mem_append.mpr ⟨within, within'⟩, fun path => ?_⟩
    rw [Report.trace_append, traced, traced', List.map_append, TextMap.ofList_append]

/-- What is bound further down a path moves with the path. -/
theorem below (relocatable : Relocatable first) {rest : String} (inside : PathWithin "" rest) :
    Relocatable fun path => first (path ++ rest) where
  value _ _ := relocatable.value _ _
  diagnostics _ _ := relocatable.diagnostics _ _
  consumed _ _ := relocatable.consumed _ _
  traced := by
    obtain ⟨marks, within, traced⟩ := relocatable.traced
    refine ⟨marks.map fun mark => (rest ++ mark.1, mark.2), ?_, fun path => ?_⟩
    · intro mark member
      obtain ⟨mark, listed, rfl⟩ := List.mem_map.mp member
      exact inside.trans ((within mark listed).append rest)
    · rw [traced, List.map_map]
      simp only [Function.comp_def, String.append_assoc]

theorem map (relocatable : Relocatable first) (f : α → β) :
    Relocatable fun path => (f (first path).1, (first path).2) where
  value path path' := congrArg f (relocatable.value path path')
  diagnostics := relocatable.diagnostics
  consumed := relocatable.consumed
  traced := relocatable.traced

theorem field (relocatable : Relocatable first) (ident : String) :
    Relocatable fun path => first s!"{path}.{ident}" := by
  have joined (path : String) : s!"{path}.{ident}" = path ++ ("." ++ ident) :=
    String.append_assoc
  have inside := PathWithin.field "" ident
  rw [joined, String.empty_append] at inside
  simp only [joined]
  exact relocatable.below inside

theorem element (relocatable : Relocatable first) (i : Nat) :
    Relocatable fun path => first s!"{path}[{i}]" := by
  have joined (path : String) : s!"{path}[{i}]" = path ++ ("[" ++ (toString i ++ "]")) := by
    simp only [← String.append_assoc]
    rfl
  have inside := PathWithin.element "" i
  rw [joined, String.empty_append] at inside
  simp only [joined]
  exact relocatable.below inside

/-- Moved from one path to another, the trace is the same. -/
theorem rerooted (relocatable : Relocatable first) (origin target : String) :
    Trace.Rerooted origin target (first origin).2.trace (first target).2.trace := by
  obtain ⟨marks, within, traced⟩ := relocatable.traced
  have entries (path rest : String) : (first path).2.trace.get? (path ++ rest) =
      (marks.filter (·.1 == rest)).getLast?.map (·.2) := by
    have selected : ((fun entry : String × Occurrence => entry.1 == path ++ rest) ∘
        fun mark : String × Occurrence => (path ++ mark.1, mark.2)) =
          fun mark => mark.1 == rest := by
      funext mark
      rw [Function.comp_apply, Bool.eq_iff_iff, beq_iff_eq, beq_iff_eq, String.append_right_inj]
    rw [traced, TextMap.get?_ofList, List.filter_map, selected, List.getLast?_map,
      Option.map_map]
    rfl
  have inside (path place : String) (entry : Occurrence)
      (found : (first path).2.trace.get? place = some entry) : PathWithin path place := by
    rw [traced, TextMap.get?_ofList] at found
    obtain ⟨pair, last, -⟩ := Option.map_eq_some_iff.mp found
    obtain ⟨member, own⟩ := List.mem_filter.mp (List.mem_of_getLast? last)
    obtain ⟨mark, listed, rfl⟩ := List.mem_map.mp member
    exact beq_iff_eq.mp own ▸ (within mark listed).append path
  exact {
    same := fun rest => by rw [entries, entries]
    within := inside origin
    movedWithin := inside target }

end Relocatable

theorem Report.foldl_append (start : Report) (reports : List Report) :
    reports.foldl (· ++ ·) start = start ++ reports.foldl (· ++ ·) ∅ := by
  induction reports generalizing start with
  | nil => exact (append_empty start).symm
  | cons report rest ih =>
    rw [List.foldl_cons, List.foldl_cons, ih, ih (∅ ++ report), empty_append, append_assoc]

/-- The outcomes of a list, one after the other. -/
theorem Relocatable.all {α β : Type} (items : List α) {outcome : α → String → β × Report}
    (each : ∀ item ∈ items, Relocatable (outcome item)) :
    Relocatable fun path => (items.map fun item => (outcome item path).1,
      (items.map fun item => (outcome item path).2).foldl (· ++ ·) ∅) := by
  induction items with
  | nil => exact .fixed (fun _ => rfl) rfl
  | cons item rest ih =>
    obtain ⟨first, others⟩ := List.forall_mem_cons.mp each
    simp only [List.map_cons, List.foldl_cons, Report.empty_append,
      Report.foldl_append (outcome _ _).2]
    exact first.both (ih others) List.cons

section

variable {α : Type} (subject key : String)

/-- What a slot holds and whether it was converted, with the report. -/
def Binding.outcome (binding : Binding α) : (α × Bool) × Report :=
  ((binding.slot, binding.converted), binding.report)

theorem Binding.relocatable_settle (slot : α) (source : Occurrence)
    (result : Except ConversionError α) :
    Relocatable fun path => (Binding.settle slot ⟨subject, key, path⟩ source result).outcome := by
  cases result with
  | ok value => exact .bound source (fun _ => rfl) fun _ => rfl
  | error e => exact .fixed (fun _ => rfl) rfl

namespace Leaf

variable (kind : Leaf) (slot : kind.Slot)

theorem relocatable_bindOwn (found : Option Occurrence) :
    Relocatable fun path => (kind.bindOwn ⟨subject, key, path⟩ found slot).outcome := by
  cases found with
  | none => cases kind <;> exact .fixed (fun _ => rfl) rfl
  | some source =>
    cases kind with
    | scalar | list => exact Binding.relocatable_settle subject key slot source _
    | flag => exact .bound source (fun _ => rfl) fun _ => rfl
    | optionFlag | options => exact .fixed (fun _ => rfl) rfl

theorem relocatable_bindInline (name : String) (source : Occurrence) :
    Relocatable fun path => (kind.bindInline ⟨subject, key, path⟩ name source slot).outcome := by
  cases kind with
  | scalar origin type =>
    simp only [bindInline]
    cases inlineText? origin name source.directive with
    | none => exact .fixed (fun _ => rfl) rfl
    | some text => exact Binding.relocatable_settle subject key slot source _
  | flag | list => exact .fixed (fun _ => rfl) rfl
  | optionFlag =>
    simp only [bindInline]
    split
    · exact .bound source (fun _ => rfl) fun _ => rfl
    · exact .fixed (fun _ => rfl) rfl
  | options => exact .bound source (fun _ => rfl) fun _ => rfl

end Leaf

/-- The rules see the slot alone, so they refuse the same wherever it is bound. -/
theorem FieldSpec.refusals_path (spec : FieldSpec) (rules : RuleRegistry) (path origin : String)
    (position : Option Position) (view : ValueView) :
    spec.refusals rules ⟨subject, key, path⟩ position view =
      spec.refusals rules ⟨subject, key, origin⟩ position view := rfl

/-- A leaf is checked the same wherever it is bound. -/
theorem Relocatable.checked {kind : Leaf} {binding : String → Binding kind.Slot}
    (relocatable : Relocatable fun path => (binding path).outcome) (spec : FieldSpec)
    (rules : RuleRegistry) (position : Option Position) :
    Relocatable fun path => ((binding path).slot,
      (binding path).reportChecked spec rules ⟨subject, key, path⟩ position) := by
  have slot (path : String) : (binding path).slot = (binding "").slot :=
    congrArg Prod.fst (relocatable.value path "")
  have converted (path : String) : (binding path).converted = (binding "").converted :=
    congrArg Prod.snd (relocatable.value path "")
  cases settled : (binding "").converted with
  | true =>
    let checked := spec.refusals rules ⟨subject, key, ""⟩ position (kind.view (binding "").slot)
    have report (path : String) :
        (binding path).reportChecked spec rules ⟨subject, key, path⟩ position =
          (binding path).outcome.2 ++ .ofDiagnostics checked := by
      rw [Binding.reportChecked, if_pos ((converted path).trans settled), slot path,
        spec.refusals_path subject key rules path ""]
      rfl
    simp only [report]
    have refused : Relocatable fun _ => ((), Report.ofDiagnostics checked) := .untraced rfl
    exact relocatable.both refused fun value _ => value.1
  | false =>
    have report (path : String) :
        (binding path).reportChecked spec rules ⟨subject, key, path⟩ position =
          (binding path).outcome.2 := by
      rw [Binding.reportChecked, if_neg (by simp [converted path, settled])]
      rfl
    simp only [report]
    exact relocatable.map Prod.fst

end

namespace Table

variable (rules : RuleRegistry)

theorem relocatable_bindInline (source : Occurrence) {shape : Shape} (table : Table shape)
    (record : shape.Record) :
    Relocatable fun path => table.bindInline rules source path record := by
  induction table with
  | nil => exact .fixed (fun _ => rfl) rfl
  | leaf spec kind next ih =>
    exact (((kind.relocatable_bindInline s!"{source.key} {spec.name}" source.key record.1 spec.name
      source).checked _ _ spec rules (some source.position)).field spec.ident).both (ih record.2)
        Prod.mk
  | composite spec kind name inner next _ ih => exact (ih record.2).map (Prod.mk record.1)

theorem relocatable_bindElement (source : Occurrence) {shape : Shape} (table : Table shape) :
    Relocatable fun path => table.bindElement rules path source :=
  (Relocatable.marked source).both (table.relocatable_bindInline rules source shape.zero)
    fun _ record => record

theorem relocatable_bindElements (sources : List Occurrence) {shape : Shape} (table : Table shape) :
    Relocatable fun path => table.bindElements rules path sources := by
  simp only [bindElements, List.map_map]
  exact .all sources.zipIdx fun item _ =>
    (table.relocatable_bindElement rules item.1).element item.2

variable (index : DirectiveIndex) (spec : FieldSpec) (scope : String)

theorem relocatable_consume (key : String) (found : List Occurrence) :
    Relocatable fun _ => ((), Report.consume key found) :=
  .untraced rfl

theorem relocatable_bindLeaf (kind : Leaf) (slot : kind.Slot) :
    Relocatable fun path => bindLeaf rules index spec scope path kind slot := by
  let key := s!"{scope}-{spec.name}"
  have own := (kind.relocatable_bindOwn key key slot (index.get? key)).checked key key spec rules
    ((index.get? key).map (·.position))
  exact (relocatable_consume key _).both (own.field spec.ident) fun _ slot => slot

theorem relocatable_bindInlineField {nested : Shape} (inner : Table nested)
    (slot : nested.Record) :
    Relocatable fun path => bindComposite rules index spec scope path inner .inline slot := by
  simp only [bindComposite]
  cases index.get? s!"{scope}-{spec.name}" with
  | none => exact .fixed (fun _ => rfl) rfl
  | some source =>
    exact (relocatable_consume _ [source]).both
      ((inner.relocatable_bindElement rules source).field spec.ident) fun _ record => record

theorem relocatable_bindInlineList {nested : Shape} (inner : Table nested)
    (slot : List nested.Record) :
    Relocatable fun path => bindComposite rules index spec scope path inner .inlineList slot := by
  simp only [bindComposite]
  cases found : index.getAll s!"{scope}-{spec.name}" with
  | nil =>
    have refused (path : String) := spec.refusals_path s!"{scope}-{spec.name}"
      s!"{scope}-{spec.name}" rules s!"{path}.{spec.ident}" "" none (.ofList slot)
    refine .fixed (fun path => ?_) rfl
    exact congrArg (fun items => (slot, (∅ : Report) ++ .ofDiagnostics items)) (refused path)
  | cons source others =>
    have elements := (inner.relocatable_bindElements rules (source :: others)).field spec.ident
    -- the rules of the list see how many elements there are, and no path has a part in that
    have refused (path origin : String) :
        let key := s!"{scope}-{spec.name}"
        let bound (path : String) := inner.bindElements rules path (source :: others)
        spec.refusals rules ⟨key, key, s!"{path}.{spec.ident}"⟩ (some source.position)
            (.ofList (bound s!"{path}.{spec.ident}").1) =
          spec.refusals rules ⟨key, key, origin⟩ (some source.position)
            (.ofList (bound s!"{origin}.{spec.ident}").1) := by
      intro key bound
      rw [elements.value path origin]
      exact spec.refusals_path ..
    simp only [List.isEmpty_cons, Bool.false_eq_true, if_false, List.head?_cons, Option.map_some,
      refused _ ""]
    have bound := (relocatable_consume s!"{scope}-{spec.name}" (source :: others)).both elements
      fun _ elements => elements
    refine bound.both (.untraced ?_) fun elements _ => elements
    rfl

/-- A table binds the same values below every path, and its report moves with the path. -/
theorem relocatable_bind {shape : Shape} (table : Table shape) (scope : String)
    (record : shape.Record) :
    Relocatable fun path => table.bind rules index scope path record := by
  induction table generalizing scope with
  | nil => exact .fixed (fun _ => rfl) rfl
  | leaf spec kind next ih =>
    exact (relocatable_bindLeaf rules index spec scope kind record.1).both (ih scope record.2)
      Prod.mk
  | composite spec kind name inner next innerIh ih =>
    simp only [bind_composite]
    refine Relocatable.both ?_ (ih scope record.2) Prod.mk
    cases kind with
    | group => exact (innerIh s!"{scope}-{spec.name}" record.1).field spec.ident
    | inline => exact relocatable_bindInlineField rules index spec scope inner record.1
    | inlineList => exact relocatable_bindInlineList rules index spec scope inner record.1

end Table
end DocOptions
