import DocOptions.Plugin.Http.Options
import DocOptions.Proofs.Schema.Accepted
import DocOptions.Proofs.Schema.Fields

/-! Tables cut in two at any field. The fields before the cut and the fields from it on are bound
apart from each other: what one part converts or refuses shows neither in the slots of the other
nor in its report. -/

namespace DocOptions

namespace Shape

def take : Nat → Shape → Shape
  | 0, _ => nil
  | _ + 1, nil => nil
  | n + 1, leaf kind rest => leaf kind (rest.take n)
  | n + 1, composite kind nested rest => composite kind nested (rest.take n)

def drop : Nat → Shape → Shape
  | 0, shape => shape
  | _ + 1, nil => nil
  | n + 1, leaf _ rest => rest.drop n
  | n + 1, composite _ _ rest => rest.drop n

/-- The slots of the first fields. -/
def takeSlots : (n : Nat) → {shape : Shape} → shape.Record → (shape.take n).Record
  | 0, _, _ => ()
  | _ + 1, nil, _ => ()
  | n + 1, leaf _ _, (slot, rest) => (slot, takeSlots n rest)
  | n + 1, composite _ _ _, (slot, rest) => (slot, takeSlots n rest)

/-- The slots of the fields after the first ones. -/
def dropSlots : (n : Nat) → {shape : Shape} → shape.Record → (shape.drop n).Record
  | 0, _, record => record
  | _ + 1, nil, _ => ()
  | n + 1, leaf _ _, (_, rest) => dropSlots n rest
  | n + 1, composite _ _ _, (_, rest) => dropSlots n rest

end Shape

namespace Table

def take : (n : Nat) → {shape : Shape} → Table shape → Table (shape.take n)
  | 0, _, _ => nil
  | _ + 1, _, nil => nil
  | n + 1, _, leaf spec kind next => leaf spec kind (next.take n)
  | n + 1, _, composite spec kind name inner next => composite spec kind name inner (next.take n)

def drop : (n : Nat) → {shape : Shape} → Table shape → Table (shape.drop n)
  | 0, _, table => table
  | _ + 1, _, nil => nil
  | n + 1, _, leaf _ _ next => next.drop n
  | n + 1, _, composite _ _ _ _ next => next.drop n

section

variable {rules : RuleRegistry} {schema : String} {mode : Mode} {taken fewer : List String}

theorem verify_take {shape : Shape} {table : Table shape}
    (accepted : table.verify rules schema mode taken = .ok ()) (n : Nat) :
    (table.take n).verify rules schema mode taken = .ok () := by
  induction table generalizing taken mode schema n with
  | nil => cases n <;> rfl
  | leaf spec kind next ih =>
    cases n with
    | zero => rfl
    | succ n =>
      obtain ⟨specOk, kindOk, nextOk⟩ := verify_leaf_ok_iff.mp accepted
      exact verify_leaf_ok_iff.mpr ⟨specOk, kindOk, ih nextOk n⟩
  | composite spec kind name inner next _ ih =>
    cases n with
    | zero => rfl
    | succ n =>
      obtain ⟨specOk, kindOk, innerOk, nextOk⟩ := verify_composite_ok_iff.mp accepted
      exact verify_composite_ok_iff.mpr ⟨specOk, kindOk, innerOk, ih nextOk n⟩

/-- Later fields are accepted also when no name is taken by earlier ones. -/
theorem verify_drop {shape : Shape} {table : Table shape}
    (accepted : table.verify rules schema mode taken = .ok ()) (sub : fewer ⊆ taken) (n : Nat) :
    (table.drop n).verify rules schema mode fewer = .ok () := by
  induction table generalizing taken mode schema n with
  | nil => cases n <;> rfl
  | leaf spec kind next ih =>
    cases n with
    | zero => exact verify_mono accepted sub
    | succ n =>
      obtain ⟨-, -, nextOk⟩ := verify_leaf_ok_iff.mp accepted
      exact ih nextOk (List.subset_cons_of_subset _ sub) n
  | composite spec kind name inner next _ ih =>
    cases n with
    | zero => exact verify_mono accepted sub
    | succ n =>
      obtain ⟨-, -, -, nextOk⟩ := verify_composite_ok_iff.mp accepted
      exact ih nextOk (List.subset_cons_of_subset _ sub) n

end

variable (rules : RuleRegistry) (index : DirectiveIndex) (scope path : String)

/-- Either part of a table binds its own slots, and its report is its part of the whole report. -/
theorem bind_split (n : Nat) {shape : Shape} (table : Table shape) (record : shape.Record) :
    let whole := table.bind rules index scope path record
    let first := (table.take n).bind rules index scope path (Shape.takeSlots n record)
    let second := (table.drop n).bind rules index scope path (Shape.dropSlots n record)
    Shape.takeSlots n whole.1 = first.1 ∧ Shape.dropSlots n whole.1 = second.1 ∧
      whole.2 = first.2 ++ second.2 := by
  induction table generalizing n with
  | nil => cases n <;> exact ⟨rfl, rfl, (Report.empty_append ∅).symm⟩
  | leaf spec kind next ih =>
    cases n with
    | zero => exact ⟨rfl, rfl, (Report.empty_append _).symm⟩
    | succ n =>
      obtain ⟨before, after, report⟩ := ih n record.2
      exact ⟨congrArg (Prod.mk _) before, after,
        (congrArg (_ ++ ·) report).trans (Report.append_assoc _ _ _).symm⟩
  | composite spec kind name inner next _ ih =>
    cases n with
    | zero => exact ⟨rfl, rfl, (Report.empty_append _).symm⟩
    | succ n =>
      obtain ⟨before, after, report⟩ := ih n record.2
      cases kind <;>
        exact ⟨congrArg (Prod.mk _) before, after,
          (congrArg (_ ++ ·) report).trans (Report.append_assoc _ _ _).symm⟩

end Table

namespace Schema

variable {shape : Shape}

/-- The schema of the first fields alone. -/
def take (n : Nat) (schema : Schema shape) : Schema (shape.take n) :=
  ⟨schema.name, schema.table.take n⟩

/-- The schema of the other fields alone. -/
def drop (n : Nat) (schema : Schema shape) : Schema (shape.drop n) :=
  ⟨schema.name, schema.table.drop n⟩

end Schema

/-- A decode joins two decodes of its first fields and of the others: each slot is taken from the
decode of its part, the findings of the first part come first, the consumed keys are those of either
part, and the second part decides on a path that both have traced. -/
structure Decoded.Joins {shape : Shape} (n : Nat) (whole : Decoded shape)
    (first : Decoded (shape.take n)) (second : Decoded (shape.drop n)) : Prop where
  firstSlots : Shape.takeSlots n whole.value = first.value
  secondSlots : Shape.dropSlots n whole.value = second.value
  diagnostics : whole.report.diagnostics.items =
    first.report.diagnostics.items ++ second.report.diagnostics.items
  consumed : ∀ key, whole.report.consumed.contains key =
    (first.report.consumed.contains key || second.report.consumed.contains key)
  trace : ∀ path, whole.report.trace.get? path =
    (second.report.trace.get? path).or (first.report.trace.get? path)

namespace Schema

variable {shape : Shape}

/-- Decoding with an accepted schema is decoding with its first fields alone and with the others
alone, wherever it is cut, and joining the two. -/
theorem decodeInto_split (schema : Schema shape) (rules : RuleRegistry)
    (accepted : schema.verify rules = .ok ()) (n : Nat) (scope : String) (index : DirectiveIndex)
    (start : shape.Record) :
    (scope = "" →
      schema.decodeInto rules scope index start = .error .emptyPrefix ∧
      (schema.take n).decodeInto rules scope index (Shape.takeSlots n start) =
        .error .emptyPrefix ∧
      (schema.drop n).decodeInto rules scope index (Shape.dropSlots n start) =
        .error .emptyPrefix) ∧
    (scope ≠ "" → ∃ whole first second,
      schema.decodeInto rules scope index start = .ok whole ∧
      (schema.take n).decodeInto rules scope index (Shape.takeSlots n start) = .ok first ∧
      (schema.drop n).decodeInto rules scope index (Shape.dropSlots n start) = .ok second ∧
      whole.Joins n first second) := by
  constructor
  · rintro rfl
    exact ⟨decodeInto_of_empty .., decodeInto_of_empty .., decodeInto_of_empty ..⟩
  · intro nonempty
    have firstAccepted : (schema.take n).verify rules = .ok () := Table.verify_take accepted n
    have secondAccepted : (schema.drop n).verify rules = .ok () :=
      Table.verify_drop accepted (List.Subset.refl []) n
    refine ⟨_, _, _, decodeInto_of_accepted accepted nonempty index start,
      decodeInto_of_accepted firstAccepted nonempty index _,
      decodeInto_of_accepted secondAccepted nonempty index _, ?_⟩
    obtain ⟨firstSlots, secondSlots, report⟩ :=
      Table.bind_split rules index scope schema.name n schema.table start
    exact {
      firstSlots
      secondSlots
      diagnostics := congrArg (·.diagnostics.items) report
      consumed := fun key => by
        rw [report, Report.consumed_append, TextMap.contains_override]
        rfl
      trace := fun path => by
        rw [report, Report.trace_append, TextMap.get?_override]
        rfl }

/-- Cut behind a number that cannot be read, with a nested list in the other part. -/
theorem decodeInto_split_behind_number :
    let index := DirectiveIndex.ofList
      [⟨⟨"http-form-max-memory", ["much"], ∅⟩, .unknown⟩,
        ⟨⟨"http-query-value", ["page", "1"], ∅⟩, .unknown⟩]
    let schema := Http.MethodOptions.schema
    let start := Http.MethodOptions.table.shape.zero
    ∃ whole first second,
      schema.decodeInto .standard "http" index start = .ok whole ∧
      (schema.take 5).decodeInto .standard "http" index (Shape.takeSlots 5 start) = .ok first ∧
      (schema.drop 5).decodeInto .standard "http" index (Shape.dropSlots 5 start) = .ok second ∧
      whole.Joins 5 first second :=
  (Http.MethodOptions.schema.decodeInto_split .standard rfl 5 "http" _ _).2 (by decide)

end Schema
end DocOptions
