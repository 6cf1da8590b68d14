import DocOptions.Plugin.Http.Options
import DocOptions.Proofs.Schema.Composites
import DocOptions.Proofs.Schema.Relocation

/-! Groups as decodes of their own. A group at any depth is bound as its schema is decoded below the
key of the group: the same slot, findings and consumed keys, and the same trace below the path of
the group in place of the schema's name. Only a scope has to be there, which the key of a group
always is. -/

namespace DocOptions

namespace CompositeRef

variable {nested shape : Shape} {spec : FieldSpec} {kind : Composite} {name : String}
  {inner : Table nested} {table : Table shape}

/-- The table of a composite is accepted with the table around it. -/
theorem accepted_inner (ref : CompositeRef spec kind name inner table) {rules : RuleRegistry}
    {schema : String} {mode : Mode} {taken : List String}
    (accepted : table.verify rules schema mode taken = .ok ()) :
    inner.verify rules name kind.mode [] = .ok () := by
  induction ref generalizing schema mode taken with
  | here => exact (Table.verify_composite_ok_iff.mp accepted).2.2.1
  | afterLeaf ref ih => exact ih (Table.verify_leaf_ok_iff.mp accepted).2.2
  | afterComposite ref ih => exact ih (Table.verify_composite_ok_iff.mp accepted).2.2.2
  | inGroup ref ih => exact ih (Table.verify_composite_ok_iff.mp accepted).2.2.1

theorem key_ne_empty (ref : CompositeRef spec kind name inner table) (scope : String) :
    ref.key scope ≠ "" := by
  intro empty
  have joined : ref.key scope = ref.scope scope ++ "-" ++ spec.name := rfl
  have letters := congrArg String.toList (joined.symm.trans empty)
  simp at letters

end CompositeRef

namespace Schema

variable {shape : Shape}

/-- In a decode with an accepted schema a group, at any depth, holds and reports what a decode with
the group's schema below the group's key does, started from what the group holds. The trace of that
decode is put from the schema's name to the path of the group. -/
theorem decodeInto_group (schema : Schema shape) (rules : RuleRegistry)
    (accepted : schema.verify rules = .ok ()) (scope : String) (nonempty : scope ≠ "")
    (index : DirectiveIndex) (start : shape.Record) {nested : Shape} {spec : FieldSpec}
    {name : String} {inner : Table nested}
    (group : CompositeRef spec .group name inner schema.table) :
    ∃ whole own part, group.Decodes rules scope index start whole own ∧
      (⟨name, inner⟩ : Schema nested).decodeInto rules (group.key scope) index (group.get start) =
        .ok part ∧
      group.get whole.value = part.value ∧
      own.diagnostics = part.report.diagnostics ∧ own.consumed = part.report.consumed ∧
      Trace.Rerooted name (group.path schema.name) part.report.trace own.trace := by
  obtain ⟨whole, decodes, slot⟩ := group.exists_decodes accepted nonempty index start
  have innerAccepted : (⟨name, inner⟩ : Schema nested).verify rules = .ok () :=
    group.accepted_inner accepted
  have moves := inner.relocatable_bind rules index (group.key scope) (group.get start)
  refine ⟨whole, _, _, decodes,
    decodeInto_of_accepted innerAccepted (group.key_ne_empty scope) index (group.get start), ?_, ?_,
    ?_, ?_⟩
  · exact slot.trans (moves.value _ _)
  · exact moves.diagnostics _ _
  · exact moves.consumed _ _
  · exact moves.rerooted name (group.path schema.name)

/-- A group inside a group, with a list of elements in it. -/
theorem decodeInto_group_nested_query :
    let schema : Schema _ := ⟨"Options",
      .leaf (field "quiet") .flag <|
      .composite (field "method") .group "MethodOptions"
        (.composite (field "query") .group "QueryOpt" Http.QueryOptions.table .nil) .nil⟩
    let index := DirectiveIndex.ofList
      [⟨⟨"http-method-query-value", ["page", "1"], ∅⟩, .unknown⟩,
        ⟨⟨"http-method-query-value", [], ∅⟩, .unknown⟩]
    let start := schema.table.shape.zero
    let group : CompositeRef (field "query") .group "QueryOpt" Http.QueryOptions.table
      schema.table := .afterLeaf (.inGroup .here)
    let decoded := (⟨"QueryOpt", Http.QueryOptions.table⟩ : Schema _).decodeInto .standard
      "http-method-query" index start.2.1.1
    ∃ whole own part, group.Decodes .standard "http" index start whole own ∧ decoded = .ok part ∧
      whole.value.2.1.1 = part.value ∧ part.value.1.map (·.1) = ["page", ""] ∧
      own.diagnostics = part.report.diagnostics ∧ own.consumed = part.report.consumed ∧
      Trace.Rerooted "QueryOpt" "Options.method.query" part.report.trace own.trace := by
  intro schema index start group decoded
  obtain ⟨whole, own, part, decodes, done, slot, findings, consumed, trace⟩ :=
    schema.decodeInto_group .standard rfl "http" (by decide) index start group
  have done : decoded = .ok part := done
  have names : decoded.toOption.map (fun d => d.value.1.map fun element => (element.1 : String)) =
      some ["page", ""] := by decide +kernel
  rw [done] at names
  exact ⟨whole, own, part, decodes, done, slot, Option.some.inj names, findings, consumed, trace⟩

/-- Without a scope nothing is bound, but the key of a group is a scope all the same: a decode with
the group's own schema binds what the whole decode refuses to. -/
theorem decodeInto_group_without_scope :
    let inner := Table.leaf (field "limit") (.scalar .key (.plain .string)) .nil
    let schema : Schema _ := ⟨"Options", .composite (field "query") .group "QueryOpt" inner .nil⟩
    let index := DirectiveIndex.ofList [⟨⟨"-query-limit", ["x"], ∅⟩, .unknown⟩]
    let start := schema.table.shape.zero
    schema.verify .standard = .ok () ∧
    schema.decodeInto .standard "" index start = .error .emptyPrefix ∧
    ∃ part,
      (⟨"QueryOpt", inner⟩ : Schema _).decodeInto .standard "-query" index start.1 = .ok part ∧
      part.value = ("x", ()) ∧ part.value ≠ start.1 ∧
      part.report.consumed.contains "-query-limit" = true := by
  intro inner schema index start
  refine ⟨rfl, rfl, _, rfl, rfl, by decide, by decide +kernel⟩

end Schema
end DocOptions
