import DocOptions.Proofs.Schema.Accepted
import DocOptions.Proofs.Schema.Fields
import DocOptions.Proofs.Schema.Leaves

/-! The composites of a table, among its own fields or inside its groups. Binding a table binds each
of them at the key and the path that the groups around it lead to, and what it reports stands
between what the fields before it and those after it report. -/

namespace DocOptions

/-- The path that identifiers lead to, such as `Options.query.values`. -/
def pathBelow (root : String) (idents : List String) : String :=
  ".".intercalate (root :: idents)

theorem keyBelow_nil (scope : String) : keyBelow scope [] = scope :=
  String.intercalate_singleton

theorem pathBelow_nil (root : String) : pathBelow root [] = root :=
  String.intercalate_singleton

theorem pathBelow_cons (root ident : String) (idents : List String) :
    pathBelow root (ident :: idents) = pathBelow s!"{root}.{ident}" idents := by
  rw [pathBelow, pathBelow, String.intercalate_cons_cons, ← String.intercalate_cons_append]
  rfl

/-- A composite of a table, among its own fields or inside its groups. -/
inductive CompositeRef {nested : Shape} (spec : FieldSpec) (kind : Composite) (name : String)
    (inner : Table nested) : {shape : Shape} → Table shape → Type
  | here {rest : Shape} {next : Table rest} :
      CompositeRef spec kind name inner (.composite spec kind name inner next)
  | afterLeaf {rest : Shape} {other : FieldSpec} {leaf : Leaf} {next : Table rest} :
      CompositeRef spec kind name inner next →
      CompositeRef spec kind name inner (.leaf other leaf next)
  | afterComposite {passed rest : Shape} {other : FieldSpec} {passedKind : Composite}
      {passedName : String} {table : Table passed} {next : Table rest} :
      CompositeRef spec kind name inner next →
      CompositeRef spec kind name inner (.composite other passedKind passedName table next)
  | inGroup {around rest : Shape} {group : FieldSpec} {groupName : String} {table : Table around}
      {next : Table rest} :
      CompositeRef spec kind name inner table →
      CompositeRef spec kind name inner (.composite group .group groupName table next)

namespace CompositeRef

variable {nested shape : Shape} {spec : FieldSpec} {kind : Composite} {name : String}
  {inner : Table nested} {table : Table shape}

/-- The groups around the composite, from the outside in. -/
def groups : {shape : Shape} → {table : Table shape} → CompositeRef spec kind name inner table →
    List FieldSpec
  | _, _, here => []
  | _, _, afterLeaf ref => ref.groups
  | _, _, afterComposite ref => ref.groups
  | _, .composite group _ _ _ _, inGroup ref => group :: ref.groups

/-- The scope of the table that the composite is a field of. -/
def scope (ref : CompositeRef spec kind name inner table) (outer : String) : String :=
  keyBelow outer (ref.groups.map FieldSpec.name)

/-- The path of the table that the composite is a field of. -/
def root (ref : CompositeRef spec kind name inner table) (outer : String) : String :=
  pathBelow outer (ref.groups.map FieldSpec.ident)

/-- The key that the composite has below a scope. -/
def key (ref : CompositeRef spec kind name inner table) (outer : String) : String :=
  s!"{ref.scope outer}-{spec.name}"

/-- The path of the composite below the name of a schema. -/
def path (ref : CompositeRef spec kind name inner table) (outer : String) : String :=
  s!"{ref.root outer}.{spec.ident}"

/-- What a record holds in the composite. -/
def get : {shape : Shape} → {table : Table shape} → CompositeRef spec kind name inner table →
    shape.Record → kind.Slot nested.Record
  | _, _, here, (slot, _) => slot
  | _, _, afterLeaf ref, (_, rest) => ref.get rest
  | _, _, afterComposite ref, (_, rest) => ref.get rest
  | _, _, inGroup ref, (slot, _) => ref.get slot

variable (rules : RuleRegistry) (index : DirectiveIndex)

/-- What the fields before the composite report. -/
def before : {shape : Shape} → {table : Table shape} → CompositeRef spec kind name inner table →
    (scope path : String) → shape.Record → Report
  | _, _, here, _, _, _ => ∅
  | _, .leaf other leaf _, afterLeaf ref, scope, path, (slot, rest) =>
    (Table.bindLeaf rules index other scope path leaf slot).2 ++ ref.before scope path rest
  | _, .composite other passed _ table _, afterComposite ref, scope, path, (slot, rest) =>
    (Table.bindComposite rules index other scope path table passed slot).2 ++
      ref.before scope path rest
  | _, .composite group .group _ _ _, inGroup ref, scope, path, (slot, _) =>
    ref.before s!"{scope}-{group.name}" s!"{path}.{group.ident}" slot

/-- What the fields after the composite report, those after the groups around it included. -/
def after : {shape : Shape} → {table : Table shape} → CompositeRef spec kind name inner table →
    (scope path : String) → shape.Record → Report
  | _, .composite _ _ _ _ next, here, scope, path, (_, rest) =>
    (next.bind rules index scope path rest).2
  | _, _, afterLeaf ref, scope, path, (_, rest) => ref.after scope path rest
  | _, _, afterComposite ref, scope, path, (_, rest) => ref.after scope path rest
  | _, .composite group .group _ _ next, inGroup ref, scope, path, (slot, rest) =>
    ref.after s!"{scope}-{group.name}" s!"{path}.{group.ident}" slot ++
      (next.bind rules index scope path rest).2

/-- A composite is bound in its place, between the fields before it and those after it. -/
theorem bind_place {shape : Shape} {table : Table shape}
    (ref : CompositeRef spec kind name inner table) (scope path : String) (record : shape.Record) :
    let whole := table.bind rules index scope path record
    let own := Table.bindComposite rules index spec (ref.scope scope) (ref.root path) inner kind
      (ref.get record)
    ref.get whole.1 = own.1 ∧
      whole.2 = ref.before rules index scope path record ++ own.2 ++
        ref.after rules index scope path record := by
  induction ref generalizing scope path with
  | @here rest next =>
    have outer : (here : CompositeRef spec kind name inner
        (.composite spec kind name inner next)).scope scope = scope := keyBelow_nil scope
    have root : (here : CompositeRef spec kind name inner
        (.composite spec kind name inner next)).root path = path := pathBelow_nil path
    rw [Table.bind_composite, outer, root]
    exact ⟨rfl, congrArg (· ++ _) (Report.empty_append _).symm⟩
  | afterLeaf ref ih =>
    obtain ⟨slot, report⟩ := ih scope path record.2
    rw [Table.bind_leaf]
    refine ⟨slot, ?_⟩
    simp only [report, before, Report.append_assoc]
    rfl
  | afterComposite ref ih =>
    obtain ⟨slot, report⟩ := ih scope path record.2
    rw [Table.bind_composite]
    refine ⟨slot, ?_⟩
    simp only [report, before, Report.append_assoc]
    rfl
  | @inGroup _ _ group groupName table next ref ih =>
    obtain ⟨slot, report⟩ := ih s!"{scope}-{group.name}" s!"{path}.{group.ident}" record.1
    have outer : (inGroup ref : CompositeRef spec kind name inner
        (.composite group .group groupName table next)).scope scope =
          ref.scope s!"{scope}-{group.name}" := keyBelow_cons scope group.name _
    have root : (inGroup ref : CompositeRef spec kind name inner
        (.composite group .group groupName table next)).root path =
          ref.root s!"{path}.{group.ident}" := pathBelow_cons path group.ident _
    rw [Table.bind_composite, outer, root]
    refine ⟨slot, ?_⟩
    simp only [Table.bindComposite, report, before, Report.append_assoc]
    rfl

/-- A decode, and what a composite has of its report. -/
structure Decodes {shape : Shape} {schema : Schema shape}
    (ref : CompositeRef spec kind name inner schema.table) (rules : RuleRegistry) (scope : String)
    (index : DirectiveIndex) (start : shape.Record) (decoded : Decoded shape) (own : Report) :
    Prop where
  done : schema.decodeInto rules scope index start = .ok decoded
  report : decoded.report = ref.before rules index scope schema.name start ++ own ++
    ref.after rules index scope schema.name start

theorem exists_decodes {shape : Shape} {schema : Schema shape}
    (ref : CompositeRef spec kind name inner schema.table) {rules : RuleRegistry}
    (accepted : schema.verify rules = .ok ()) {scope : String} (nonempty : scope ≠ "")
    (index : DirectiveIndex) (start : shape.Record) :
    let own := Table.bindComposite rules index spec (ref.scope scope) (ref.root schema.name) inner
      kind (ref.get start)
    ∃ decoded, ref.Decodes rules scope index start decoded own.2 ∧
      ref.get decoded.value = own.1 := by
  obtain ⟨slot, report⟩ := ref.bind_place rules index scope schema.name start
  exact ⟨_, ⟨Schema.decodeInto_of_accepted accepted nonempty index start, report⟩, slot⟩

end CompositeRef
end DocOptions
