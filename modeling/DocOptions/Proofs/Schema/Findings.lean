import DocOptions.Proofs.Schema.Elements

/-! The findings of a decode by what makes them. A field whose text has no value is found unreadable
and its rules do not run; every other finding is the refusal of a rule. -/

namespace DocOptions

inductive Finding
  /-- A text that cannot be converted. -/
  | unreadable (d : Diagnostic)
  /-- A value that a rule does not accept. -/
  | refused (d : Diagnostic)

namespace Finding

def diagnostic : Finding → Diagnostic
  | unreadable d => d
  | refused d => d

def unreadable? : Finding → Option Diagnostic
  | unreadable d => some d
  | refused _ => none

theorem map_diagnostic_unreadable (items : List Diagnostic) :
    (items.map unreadable).map diagnostic = items :=
  (List.map_map ..).trans (List.map_id items)

theorem map_diagnostic_refused (items : List Diagnostic) :
    (items.map refused).map diagnostic = items :=
  (List.map_map ..).trans (List.map_id items)

theorem filterMap_unreadable (items : List Diagnostic) :
    (items.map unreadable).filterMap unreadable? = items := by
  rw [List.filterMap_map]
  exact List.filterMap_some

theorem filterMap_refused (items : List Diagnostic) :
    (items.map refused).filterMap unreadable? = [] := by
  rw [List.filterMap_map]
  exact List.filterMap_eq_nil_iff.mpr fun _ _ => rfl

end Finding

namespace Binding

variable {kind : Leaf} (binding : Binding kind.Slot) (spec : FieldSpec) (rules : RuleRegistry)
  (site : Site) (position : Option Position)

/-- What is found when a leaf is bound, and then by its rules if they run. -/
def findings : List Finding :=
  binding.report.diagnostics.items.map .unreadable ++
    if binding.converted then
      (spec.refusals rules site position (kind.view binding.slot)).map .refused
    else []

theorem items_reportChecked :
    (binding.reportChecked spec rules site position).diagnostics.items =
      (binding.findings spec rules site position).map Finding.diagnostic := by
  unfold reportChecked findings
  rw [List.map_append, Finding.map_diagnostic_unreadable]
  split
  · rw [Finding.map_diagnostic_refused]
    rfl
  · exact (List.append_nil _).symm

theorem unreadable_findings :
    (binding.findings spec rules site position).filterMap Finding.unreadable? =
      binding.report.diagnostics.items := by
  unfold findings
  rw [List.filterMap_append, Finding.filterMap_unreadable]
  split
  · rw [Finding.filterMap_refused, List.append_nil]
  · exact List.append_nil _

end Binding

namespace Table

variable (rules : RuleRegistry)

/-- The findings about the fields of an inline composite. -/
def inlineFindings (source : Occurrence) (path : String) :
    {shape : Shape} → Table shape → shape.Record → List Finding
  | _, nil, _ => []
  | _, leaf spec kind next, (slot, rest) =>
    let site : Site := ⟨s!"{source.key} {spec.name}", source.key, s!"{path}.{spec.ident}"⟩
    (kind.bindInline site spec.name source slot).findings spec rules site (some source.position) ++
      next.inlineFindings source path rest
  | _, composite _ _ _ _ next, (_, rest) => next.inlineFindings source path rest

/-- The findings about the fields of a table, in the order in which they are made. -/
def findings (index : DirectiveIndex) :
    {shape : Shape} → Table shape → (scope path : String) → shape.Record → List Finding
  | _, nil, _, _, _ => []
  | _, leaf spec kind next, scope, path, (slot, rest) =>
    let key := s!"{scope}-{spec.name}"
    let site : Site := ⟨key, key, s!"{path}.{spec.ident}"⟩
    let found := index.get? key
    (kind.bindOwn site found slot).findings spec rules site (found.map (·.position)) ++
      next.findings index scope path rest
  | _, composite spec .group _ inner next, scope, path, (slot, rest) =>
    inner.findings index s!"{scope}-{spec.name}" s!"{path}.{spec.ident}" slot ++
      next.findings index scope path rest
  | .composite _ nested _, composite spec .inline _ inner next, scope, path, (_, rest) =>
    (index.get? s!"{scope}-{spec.name}").toList.flatMap (fun source =>
        inner.inlineFindings rules source s!"{path}.{spec.ident}" nested.zero) ++
      next.findings index scope path rest
  | .composite _ nested _, composite spec .inlineList _ inner next, scope, path, (slot, rest) =>
    let key := s!"{scope}-{spec.name}"
    let site : Site := ⟨key, key, s!"{path}.{spec.ident}"⟩
    let found := index.getAll key
    let slot := if found.isEmpty then slot else (inner.bindElements rules site.path found).1
    found.zipIdx.flatMap (fun (source, i) =>
        inner.inlineFindings rules source s!"{site.path}[{i}]" nested.zero) ++
      (spec.refusals rules site (found.head?.map (·.position)) (.ofList slot)).map .refused ++
        next.findings index scope path rest

theorem items_bindInline {shape : Shape} (table : Table shape) (source : Occurrence) (path : String)
    (record : shape.Record) :
    (table.bindInline rules source path record).2.diagnostics.items =
      (table.inlineFindings rules source path record).map Finding.diagnostic := by
  induction table with
  | nil => rfl
  | leaf spec kind next ih =>
    rw [inlineFindings, List.map_append, ← Binding.items_reportChecked, ← ih]
    rfl
  | composite spec kind name inner next _ ih => exact ih record.2

theorem items_bindElements {shape : Shape} (table : Table shape) (path : String)
    (sources : List Occurrence) :
    (table.bindElements rules path sources).2.diagnostics.items =
      (sources.zipIdx.flatMap fun (source, i) =>
        table.inlineFindings rules source s!"{path}[{i}]" shape.zero).map Finding.diagnostic := by
  simp only [bindElements, Report.items_foldl, List.map_map, List.flatMap_map, List.map_flatMap,
    ← items_bindInline]
  rfl

/-- The findings of a bound table are all that its report tells. -/
theorem items_bind (index : DirectiveIndex) {shape : Shape} (table : Table shape)
    (scope path : String) (record : shape.Record) :
    (table.bind rules index scope path record).2.diagnostics.items =
      (table.findings rules index scope path record).map Finding.diagnostic := by
  induction table generalizing scope path with
  | nil => rfl
  | leaf spec kind next ih =>
    rw [findings, List.map_append, ← Binding.items_reportChecked, ← ih]
    rfl
  | composite spec kind name inner next innerIh ih =>
    rw [bind_composite]
    cases kind with
    | group =>
      rw [findings, List.map_append, ← innerIh, ← ih]
      rfl
    | inline =>
      rw [findings, List.map_append, ← ih]
      refine congrArg (· ++ _) ?_
      simp only [bindComposite]
      cases index.get? s!"{scope}-{spec.name}" with
      | none => rfl
      | some source =>
        rw [Option.toList_some, List.flatMap_singleton, ← items_bindInline]
        rfl
    | inlineList =>
      rw [findings, List.map_append, List.map_append, Finding.map_diagnostic_refused,
        ← items_bindElements, ← ih]
      rfl

end Table
end DocOptions
