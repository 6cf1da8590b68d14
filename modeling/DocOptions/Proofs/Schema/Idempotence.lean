import DocOptions.Plugin.Http.Options
import DocOptions.Proofs.Schema.Accepted
import DocOptions.Proofs.Schema.Fields

/-! Decoding twice. What a field holds after a decode is what the same directives leave it with when
they are decoded once more, and its rules see the same value again. What a decode traces and
consumes is up to the directives alone: the record it starts from shows only in what the rules
refuse. -/

namespace DocOptions

namespace Binding

variable {α : Type} (site : Site) (source : Occurrence) (result : Except ConversionError α)

theorem settle_again (slot : α) :
    settle (settle slot site source result).slot site source result =
      settle slot site source result := by
  cases result with
  | ok value => rfl
  | error e => rfl

theorem settle_marks (left right : α) :
    (settle left site source result).report = (settle right site source result).report ∧
      (settle left site source result).converted =
        (settle right site source result).converted := by
  cases result with
  | ok value => exact ⟨rfl, rfl⟩
  | error e => exact ⟨rfl, rfl⟩

end Binding

namespace Leaf

variable (kind : Leaf) (site : Site) (found : Option Occurrence)

theorem bindOwn_again (slot : kind.Slot) :
    kind.bindOwn site found (kind.bindOwn site found slot).slot = kind.bindOwn site found slot := by
  cases found with
  | none => cases kind <;> rfl
  | some source =>
    cases kind with
    | scalar | list => exact Binding.settle_again site source _ slot
    | flag | optionFlag | options => rfl

/-- What the slot held before does not show in what its binding reports. -/
theorem bindOwn_marks (left right : kind.Slot) :
    (kind.bindOwn site found left).report = (kind.bindOwn site found right).report ∧
      (kind.bindOwn site found left).converted = (kind.bindOwn site found right).converted := by
  cases found with
  | none => cases kind <;> exact ⟨rfl, rfl⟩
  | some source =>
    cases kind with
    | scalar | list => exact Binding.settle_marks site source _ left right
    | flag | optionFlag | options => exact ⟨rfl, rfl⟩

end Leaf

namespace Binding

variable {kind : Leaf} (spec : FieldSpec) (rules : RuleRegistry) (site : Site)
  (position : Option Position)

theorem sameMarks_reportChecked {left right : Binding kind.Slot}
    (report : left.report = right.report) (converted : left.converted = right.converted) :
    (left.reportChecked spec rules site position).SameMarks
      (right.reportChecked spec rules site position) := by
  unfold reportChecked
  rw [report, converted]
  split
  · exact (Report.SameMarks.refl _).append (.ofDiagnostics _ _)
  · exact .refl _

end Binding

namespace Table

variable (rules : RuleRegistry) (index : DirectiveIndex)

section

variable (spec : FieldSpec) (scope path : String)

theorem bindLeaf_again (kind : Leaf) (slot : kind.Slot) :
    bindLeaf rules index spec scope path kind (bindLeaf rules index spec scope path kind slot).1 =
      bindLeaf rules index spec scope path kind slot := by
  simp only [bindLeaf, Leaf.bindOwn_again]

theorem sameMarks_bindLeaf (kind : Leaf) (left right : kind.Slot) :
    (bindLeaf rules index spec scope path kind left).2.SameMarks
      (bindLeaf rules index spec scope path kind right).2 := by
  obtain ⟨report, converted⟩ := kind.bindOwn_marks
    ⟨s!"{scope}-{spec.name}", s!"{scope}-{spec.name}", s!"{path}.{spec.ident}"⟩
    (index.get? s!"{scope}-{spec.name}") left right
  exact (Report.SameMarks.refl _).append
    (Binding.sameMarks_reportChecked spec rules _ _ report converted)

variable {nested : Shape} (inner : Table nested)

theorem bindInlineField_again (slot : nested.Record) :
    bindComposite rules index spec scope path inner .inline
        (bindComposite rules index spec scope path inner .inline slot).1 =
      bindComposite rules index spec scope path inner .inline slot := by
  simp only [bindComposite]
  cases index.get? s!"{scope}-{spec.name}" with
  | none => rfl
  | some source => rfl

theorem sameMarks_bindInlineField (left right : nested.Record) :
    (bindComposite rules index spec scope path inner .inline left).2.SameMarks
      (bindComposite rules index spec scope path inner .inline right).2 := by
  simp only [bindComposite]
  cases index.get? s!"{scope}-{spec.name}" with
  | none => exact .refl _
  | some source => exact .refl _

theorem bindInlineList_again (slot : List nested.Record) :
    bindComposite rules index spec scope path inner .inlineList
        (bindComposite rules index spec scope path inner .inlineList slot).1 =
      bindComposite rules index spec scope path inner .inlineList slot := by
  simp only [bindComposite]
  cases index.getAll s!"{scope}-{spec.name}" with
  | nil => rfl
  | cons source others => rfl

theorem sameMarks_bindInlineList (left right : List nested.Record) :
    (bindComposite rules index spec scope path inner .inlineList left).2.SameMarks
      (bindComposite rules index spec scope path inner .inlineList right).2 :=
  (Report.SameMarks.refl _).append (.ofDiagnostics _ _)

end

/-- A record that a table has been bound to is bound to the same once more, with the same report. -/
theorem bind_again {shape : Shape} (table : Table shape) (scope path : String)
    (record : shape.Record) :
    table.bind rules index scope path (table.bind rules index scope path record).1 =
      table.bind rules index scope path record := by
  induction table generalizing scope path with
  | nil => rfl
  | leaf spec kind next ih => simp only [bind_leaf, bindLeaf_again, ih]
  | composite spec kind name inner next innerIh ih =>
    cases kind with
    | group => simp only [bind_composite, bindComposite, innerIh, ih]
    | inline => simp only [bind_composite, bindInlineField_again, ih]
    | inlineList => simp only [bind_composite, bindInlineList_again, ih]

/-- The marks of a bound table are those of any other record. -/
theorem sameMarks_bind {shape : Shape} (table : Table shape) (scope path : String)
    (left right : shape.Record) :
    (table.bind rules index scope path left).2.SameMarks
      (table.bind rules index scope path right).2 := by
  induction table generalizing scope path with
  | nil => exact .refl _
  | leaf spec kind next ih =>
    rw [bind_leaf, bind_leaf]
    exact (sameMarks_bindLeaf rules index spec scope path kind _ _).append (ih scope path _ _)
  | composite spec kind name inner next innerIh ih =>
    rw [bind_composite, bind_composite]
    refine Report.SameMarks.append ?_ (ih scope path _ _)
    cases kind with
    | group => exact innerIh _ _ left.1 right.1
    | inline => exact sameMarks_bindInlineField rules index spec scope path inner left.1 right.1
    | inlineList => exact sameMarks_bindInlineList rules index spec scope path inner left.1 right.1

end Table

namespace Schema

variable {shape : Shape}

/-- A decode with an accepted schema gives what it gives when its result is decoded once more: the
same value, findings, traces and consumed keys. Traces and consumed keys are also those of a decode
that starts from any other record. -/
theorem decodeInto_idempotent (schema : Schema shape) (rules : RuleRegistry)
    (accepted : schema.verify rules = .ok ()) (scope : String) (index : DirectiveIndex)
    (start : shape.Record) :
    (scope = "" → ∀ record, schema.decodeInto rules scope index record = .error .emptyPrefix) ∧
    (scope ≠ "" → ∃ decoded, schema.decodeInto rules scope index start = .ok decoded ∧
      schema.decodeInto rules scope index decoded.value = .ok decoded ∧
      ∀ other, ∃ decoded', schema.decodeInto rules scope index other = .ok decoded' ∧
        decoded'.report.trace = decoded.report.trace ∧
        decoded'.report.consumed = decoded.report.consumed) := by
  constructor
  · rintro rfl record
    exact decodeInto_of_empty ..
  · intro nonempty
    refine ⟨_, decodeInto_of_accepted accepted nonempty index start, ?_, fun other => ?_⟩
    · rw [decodeInto_of_accepted accepted nonempty, Table.bind_again]
    · have same := schema.table.sameMarks_bind rules index scope schema.name other start
      exact ⟨_, decodeInto_of_accepted accepted nonempty index other, same.trace, same.consumed⟩

/-- A number that cannot be read and a list element, over a record that holds a number already. -/
theorem decodeInto_idempotent_kept_number :
    let schema : Schema _ := ⟨"Options",
      .leaf (field "limit").required (.scalar .key (.plain (.integer .int64))) <|
      .composite (field "query") .group "QueryOpt" Http.QueryOptions.table .nil⟩
    let index := DirectiveIndex.ofList
      [⟨⟨"http-limit", ["much"], ∅⟩, .unknown⟩, ⟨⟨"http-query-value", ["page", "1"], ∅⟩, .unknown⟩]
    let start : schema.table.shape.Record := ((7 : Int), ([], ()), ())
    ∃ decoded, schema.decodeInto .standard "http" index start = .ok decoded ∧
      schema.decodeInto .standard "http" index decoded.value = .ok decoded ∧
      decoded.value.1 = (7 : Int) ∧ decoded.value.2.1.1.map (·.2.1) = [["page", "1"]] := by
  intro schema index start
  obtain ⟨decoded, done, again, -⟩ :=
    (schema.decodeInto_idempotent .standard rfl "http" index start).2 (by decide)
  have evaluated : (schema.decodeInto .standard "http" index start).toOption.map
      (fun d => ((d.value.1 : Int), d.value.2.1.1.map fun element => (element.2.1 : List String))) =
      some (7, [["page", "1"]]) := by decide +kernel
  rw [done] at evaluated
  obtain ⟨number, elements⟩ := Prod.mk.inj (Option.some.inj evaluated)
  exact ⟨decoded, done, again, number, elements⟩

end Schema
end DocOptions
