import DocOptions.Plugin.Http.Options
import DocOptions.Proofs.Schema.LookupReports

/-! The keys that a decode consumes, and the directives that it leaves unused. Every field but a
group consumes its key if there are directives with it, whether or not they can be converted or pass
the rules, so each directive at or below the scope is either looked up or reported unused. -/

namespace DocOptions

/-- With the looked up keys for the consumed ones, the unused directives are the others at or below
the scope. -/
theorem Decoded.unused_eq {shape : Shape} {decoded : Decoded shape} {index : DirectiveIndex}
    {keys : List String}
    (consumed : ∀ key, decoded.report.consumed.contains key = true ↔
      key ∈ keys ∧ ∃ source ∈ index.entries, source.key = key) (scope : String) :
    decoded.unused scope index =
      index.entries.filter fun source => AtOrBelow scope source.key ∧ source.key ∉ keys := by
  rw [unused, DirectiveIndex.under_eq, List.filter_filter]
  apply List.filter_congr
  intro source member
  have found : decoded.report.consumed.contains source.key = true ↔ source.key ∈ keys :=
    (consumed source.key).trans (and_iff_left ⟨source, member, rfl⟩)
  rw [Bool.eq_iff_iff, Bool.and_eq_true, Bool.not_eq_true', ← Bool.not_eq_true, found,
    decide_eq_true_iff, decide_eq_true_iff, and_comm]

namespace Schema

variable {shape : Shape}

/-- A decode with an accepted schema consumes exactly those keys of the table that directives have.
It leaves unused, in their order, exactly the directives at or below the scope that have none of
these keys. -/
theorem decodeInto_consumed (schema : Schema shape) (rules : RuleRegistry)
    (accepted : schema.verify rules = .ok ()) (scope : String) (nonempty : scope ≠ "")
    (index : DirectiveIndex) (start : shape.Record) :
    ∃ decoded, schema.decodeInto rules scope index start = .ok decoded ∧
      (∀ key, decoded.report.consumed.contains key = true ↔
        key ∈ schema.table.keys scope ∧ ∃ source ∈ index.entries, source.key = key) ∧
      decoded.unused scope index = index.entries.filter (fun source =>
        AtOrBelow scope source.key ∧ source.key ∉ schema.table.keys scope) ∧
      ∀ source ∈ index.entries, AtOrBelow scope source.key →
        (decoded.report.consumed.contains source.key = true ↔
          source.key ∉ (decoded.unused scope index).map Occurrence.key) := by
  obtain ⟨decoded, done, reported⟩ := decodeInto_reports accepted nonempty index start
  have consumed (key : String) : decoded.report.consumed.contains key = true ↔
      key ∈ schema.table.keys scope ∧ ∃ source ∈ index.entries, source.key = key := by
    rw [reported.contains_consumed_iff, Table.map_key_lookups, DirectiveIndex.getAll_ne_nil_iff]
  have unused := Decoded.unused_eq consumed scope
  refine ⟨decoded, done, consumed, unused, ?_⟩
  intro source member below
  have listed : source.key ∈ (decoded.unused scope index).map Occurrence.key ↔
      source.key ∉ schema.table.keys scope := by
    rw [unused]
    constructor
    · intro reported
      obtain ⟨other, inside, same⟩ := List.mem_map.mp reported
      have apart := of_decide_eq_true (List.mem_filter.mp inside).2
      exact same ▸ apart.2
    · intro foreign
      exact List.mem_map_of_mem (List.mem_filter.mpr ⟨member, decide_eq_true ⟨below, foreign⟩⟩)
  rw [listed, Decidable.not_not, consumed]
  exact and_iff_left ⟨source, member, rfl⟩

/-- A number that cannot be read is consumed; the key of a group is not, nor is the scope. -/
theorem decodeInto_consumed_stray :
    let index := DirectiveIndex.ofList
      [⟨⟨"http", ["x"], ∅⟩, .unknown⟩, ⟨⟨"http-openapi", ["stray"], ∅⟩, .unknown⟩,
        ⟨⟨"http-openapi-tags", ["a"], ∅⟩, .unknown⟩,
        ⟨⟨"http-form-max-memory", ["much"], ∅⟩, .unknown⟩, ⟨⟨"https", [], ∅⟩, .unknown⟩]
    ∃ decoded, Http.MethodOptions.schema.decodeInto .standard "http" index
        Http.MethodOptions.table.shape.zero = .ok decoded ∧
      decoded.report.consumed.contains "http-form-max-memory" = true ∧
      (decoded.unused "http" index).map Occurrence.key = ["http", "http-openapi"] := by
  intro index
  obtain ⟨decoded, done, consumed, unused, -⟩ := Http.MethodOptions.schema.decodeInto_consumed
    .standard rfl "http" (by decide) index Http.MethodOptions.table.shape.zero
  refine ⟨decoded, done, (consumed _).mpr (by decide +kernel), ?_⟩
  rw [unused]
  decide +kernel

end Schema
end DocOptions
