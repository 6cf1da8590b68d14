import DocOptions.Proofs.Schema.Report

/-! What one field of a table does when the table is bound. Every field reports for itself and the
reports are put one after the other, so a table is bound like its first field and the rest. -/

namespace DocOptions.Table

variable (rules : RuleRegistry) (index : DirectiveIndex) (spec : FieldSpec) (scope path : String)

/-- What a leaf holds and reports. -/
def bindLeaf (kind : Leaf) (slot : kind.Slot) : kind.Slot × Report :=
  let key := s!"{scope}-{spec.name}"
  let site : Site := ⟨key, key, s!"{path}.{spec.ident}"⟩
  let found := index.get? key
  let binding := kind.bindOwn site found slot
  (binding.slot, .consume key (if kind.ownsKey then found.toList else []) ++
    binding.reportChecked spec rules site (found.map (·.position)))

/-- What a composite holds and reports, the fields of a group included. -/
def bindComposite {nested : Shape} (inner : Table nested) :
    (kind : Composite) → kind.Slot nested.Record → kind.Slot nested.Record × Report
  | .group, slot => inner.bind rules index s!"{scope}-{spec.name}" s!"{path}.{spec.ident}" slot
  | .inline, slot =>
    let key := s!"{scope}-{spec.name}"
    match index.get? key with
    | none => (slot, ∅)
    | some source =>
      let (record, report) := inner.bindElement rules s!"{path}.{spec.ident}" source
      (record, .consume key [source] ++ report)
  | .inlineList, slot =>
    let key := s!"{scope}-{spec.name}"
    let site : Site := ⟨key, key, s!"{path}.{spec.ident}"⟩
    let found := index.getAll key
    let (elements, here) := inner.bindElements rules site.path found
    let slot := if found.isEmpty then slot else elements
    let checked := spec.refusals rules site (found.head?.map (·.position)) (.ofList slot)
    (slot, .consume key found ++ here ++ .ofDiagnostics checked)

variable {rules index spec scope path}

theorem bind_leaf {rest : Shape} (kind : Leaf) (next : Table rest)
    (record : (Shape.leaf kind rest).Record) :
    (leaf spec kind next).bind rules index scope path record =
      (((bindLeaf rules index spec scope path kind record.1).1,
        (next.bind rules index scope path record.2).1),
        (bindLeaf rules index spec scope path kind record.1).2 ++
          (next.bind rules index scope path record.2).2) := rfl

theorem bind_composite {nested rest : Shape} (kind : Composite) (name : String)
    (inner : Table nested) (next : Table rest)
    (record : (Shape.composite kind nested rest).Record) :
    (composite spec kind name inner next).bind rules index scope path record =
      (((bindComposite rules index spec scope path inner kind record.1).1,
        (next.bind rules index scope path record.2).1),
        (bindComposite rules index spec scope path inner kind record.1).2 ++
          (next.bind rules index scope path record.2).2) := by
  cases kind <;> rfl

end DocOptions.Table
