import DocOptions.Schema.Decode

/-! Tables that the checks accept. Acceptance is read off field by field, so what is proved of
accepted tables goes by induction on their fields. -/

namespace DocOptions

variable {rules : RuleRegistry} {schema : String} {mode : Mode} {taken : List String}
  {spec : FieldSpec}

theorem FieldSpec.verify_ok_iff :
    spec.verify rules schema taken = .ok () ↔
      spec.name ∉ taken ∧ ∀ rule ∈ spec.rules, rules.contains rule.name = true := by
  unfold FieldSpec.verify
  by_cases used : spec.name ∈ taken
  · simp [used]
  · cases unknown : spec.rules.find? fun rule => !rules.contains rule.name with
    | some rule =>
      have missing := List.find?_some unknown
      have declared := List.mem_of_find?_eq_some unknown
      simp only [used, if_false, reduceCtorEq, false_iff, not_false_eq_true, true_and]
      intro known
      simp [known rule declared] at missing
    | none => simpa [used] using unknown

theorem FieldSpec.verify_mono {fewer : List String}
    (accepted : spec.verify rules schema taken = .ok ()) (sub : fewer ⊆ taken) :
    spec.verify rules schema fewer = .ok () := by
  obtain ⟨fresh, known⟩ := verify_ok_iff.mp accepted
  exact verify_ok_iff.mpr ⟨fun used => fresh (sub used), known⟩

theorem Leaf.verify_ok_iff {kind : Leaf} {ident : String} :
    kind.verify mode schema ident = .ok () ↔ (mode = .namespaced → kind.source = .key) := by
  unfold Leaf.verify
  split <;> simp_all

theorem Composite.verify_ok_iff {kind : Composite} :
    kind.verify mode schema spec = .ok () ↔
      mode = .namespaced ∧ (kind = .inlineList ∨ spec.rules = []) := by
  unfold Composite.verify
  cases mode with
  | inline => simp
  | namespaced => by_cases list : kind = .inlineList <;> simp [list]

/-- A sequence of checks passes if both parts do. -/
theorem seq_ok_iff {first second : Except SchemaError Unit} :
    (do first; second) = .ok () ↔ first = .ok () ∧ second = .ok () := by
  cases first with
  | error e => simp [bind, Except.bind]
  | ok => simp [bind, Except.bind]

namespace Table

theorem verify_leaf_ok_iff {rest : Shape} {kind : Leaf} {next : Table rest} :
    (leaf spec kind next).verify rules schema mode taken = .ok () ↔
      spec.verify rules schema taken = .ok () ∧ kind.verify mode schema spec.ident = .ok () ∧
        next.verify rules schema mode (spec.name :: taken) = .ok () := by
  rw [verify, seq_ok_iff, seq_ok_iff]

theorem verify_composite_ok_iff {nested rest : Shape} {kind : Composite} {name : String}
    {inner : Table nested} {next : Table rest} :
    (composite spec kind name inner next).verify rules schema mode taken = .ok () ↔
      spec.verify rules schema taken = .ok () ∧ kind.verify mode schema spec = .ok () ∧
        inner.verify rules name kind.mode [] = .ok () ∧
          next.verify rules schema mode (spec.name :: taken) = .ok () := by
  rw [verify, seq_ok_iff, seq_ok_iff, seq_ok_iff]

/-- With fewer names taken nothing that was accepted is refused. -/
theorem verify_mono {shape : Shape} {table : Table shape} {fewer : List String}
    (accepted : table.verify rules schema mode taken = .ok ()) (sub : fewer ⊆ taken) :
    table.verify rules schema mode fewer = .ok () := by
  induction table generalizing taken fewer mode schema with
  | nil => rfl
  | leaf spec kind next ih =>
    obtain ⟨specOk, kindOk, nextOk⟩ := verify_leaf_ok_iff.mp accepted
    exact verify_leaf_ok_iff.mpr ⟨FieldSpec.verify_mono specOk sub, kindOk,
      ih nextOk (List.cons_subset_cons _ sub)⟩
  | composite spec kind name inner next _ ih =>
    obtain ⟨specOk, kindOk, innerOk, nextOk⟩ := verify_composite_ok_iff.mp accepted
    exact verify_composite_ok_iff.mpr ⟨FieldSpec.verify_mono specOk sub, kindOk, innerOk,
      ih nextOk (List.cons_subset_cons _ sub)⟩

end Table

namespace Schema

variable {shape : Shape} {scope : String}

/-- With no scope nothing is bound. -/
theorem decodeInto_of_empty (schema : Schema shape) (rules : RuleRegistry) (index : DirectiveIndex)
    (record : shape.Record) : schema.decodeInto rules "" index record = .error .emptyPrefix := rfl

/-- An accepted schema always gives a record. -/
theorem decodeInto_of_accepted {schema : Schema shape} (accepted : schema.verify rules = .ok ())
    (nonempty : scope ≠ "") (index : DirectiveIndex) (record : shape.Record) :
    schema.decodeInto rules scope index record =
      .ok ⟨(schema.table.bind rules index scope schema.name record).1,
        (schema.table.bind rules index scope schema.name record).2⟩ := by
  simp [decodeInto, accepted, nonempty, bind, Except.bind, pure, Except.pure]

end Schema
end DocOptions
