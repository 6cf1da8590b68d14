import DocOptions.Plugin.Http.Options
import DocOptions.Proofs.Schema.Accepted
import DocOptions.Proofs.Schema.Fields
import DocOptions.Proofs.Schema.Leaves

/-! The directives that a decode depends on. Every look-up of a field goes to one of the keys of the
table, so two indexes with the same occurrences of each of these keys are the same to a decode. No
other directive matters, nor does the order of directives with different keys. -/

namespace DocOptions

namespace DirectiveIndex

variable {left right : DirectiveIndex} {key : String}

theorem get?_congr (agree : left.getAll key = right.getAll key) : left.get? key = right.get? key :=
  congrArg List.head? agree

/-- Directives with keys outside a list can be left out of what is looked up under keys of it. -/
theorem getAll_restrict (index : DirectiveIndex) {keys : List String} (member : key ∈ keys) :
    (ofList (index.entries.filter (·.key ∈ keys))).getAll key = index.getAll key := by
  rw [getAll_eq, getAll_eq, entries_ofList, List.filter_filter]
  apply List.filter_congr
  intro a _
  by_cases same : a.key = key
  · simp [same, member]
  · simp [same]

/-- Neighbours with different keys can change places. -/
theorem getAll_swap {a b : Occurrence} (different : a.key ≠ b.key) (before after : List Occurrence)
    (key : String) :
    (ofList (before ++ a :: b :: after)).getAll key =
      (ofList (before ++ b :: a :: after)).getAll key := by
  simp only [getAll_eq, entries_ofList, List.filter_append, List.append_cancel_left_eq]
  by_cases first : a.key = key
  · have second : b.key ≠ key := fun same => different (first.trans same.symm)
    simp [first, second]
  · by_cases second : b.key = key
    · simp [first, second]
    · simp [first, second]

end DirectiveIndex

namespace Table

variable {rules : RuleRegistry} {left right : DirectiveIndex}

theorem bindLeaf_congr {spec : FieldSpec} {scope : String}
    (agree : left.getAll s!"{scope}-{spec.name}" = right.getAll s!"{scope}-{spec.name}")
    (path : String) (kind : Leaf) (slot : kind.Slot) :
    bindLeaf rules left spec scope path kind slot =
      bindLeaf rules right spec scope path kind slot := by
  simp only [bindLeaf, DirectiveIndex.get?_congr agree]

/-- A table is bound the same from two indexes that agree on its keys. -/
theorem bind_congr {shape : Shape} {table : Table shape} {scope : String}
    (agree : ∀ key ∈ table.keys scope, left.getAll key = right.getAll key) (path : String)
    (record : shape.Record) :
    table.bind rules left scope path record = table.bind rules right scope path record := by
  induction table generalizing scope path with
  | nil => rfl
  | leaf spec kind next ih =>
    rw [keys_leaf, List.forall_mem_cons] at agree
    obtain ⟨own, others⟩ := agree
    rw [bind_leaf, bind_leaf, bindLeaf_congr own, ih others]
  | composite spec kind name inner next innerIh ih =>
    cases kind with
    | group =>
      rw [keys_group, List.forall_mem_append] at agree
      obtain ⟨inside, others⟩ := agree
      simp only [bind_composite, bindComposite, innerIh inside, ih others]
    | inline =>
      rw [keys_inline, List.forall_mem_cons] at agree
      obtain ⟨own, others⟩ := agree
      simp only [bind_composite, bindComposite, DirectiveIndex.get?_congr own, ih others]
    | inlineList =>
      rw [keys_inlineList, List.forall_mem_cons] at agree
      obtain ⟨own, others⟩ := agree
      simp only [bind_composite, bindComposite, own, ih others]

end Table

namespace Schema

variable {shape : Shape}

theorem decodeInto_congr (schema : Schema shape) (rules : RuleRegistry) {scope : String}
    {left right : DirectiveIndex}
    (agree : ∀ key ∈ schema.table.keys scope, left.getAll key = right.getAll key)
    (start : shape.Record) :
    schema.decodeInto rules scope left start = schema.decodeInto rules scope right start := by
  simp only [decodeInto, Table.bind_congr agree]

/-- Indexes that agree on the keys of an accepted table decode to one outcome: value, diagnostics,
trace and consumed keys. So all other directives can be dropped, and directives with different keys
can be put in any order. -/
theorem decodeInto_relevance (schema : Schema shape) (rules : RuleRegistry)
    (accepted : schema.verify rules = .ok ()) (scope : String) (start : shape.Record) :
    (∀ left right : DirectiveIndex,
      (∀ key ∈ schema.table.keys scope, left.getAll key = right.getAll key) →
        schema.decodeInto rules scope left start = schema.decodeInto rules scope right start ∧
          (scope ≠ "" → ∃ decoded, schema.decodeInto rules scope left start = .ok decoded)) ∧
    (∀ index : DirectiveIndex,
      schema.decodeInto rules scope
          (.ofList (index.entries.filter (·.key ∈ schema.table.keys scope))) start =
        schema.decodeInto rules scope index start) ∧
    (∀ (before after : List Occurrence) (a b : Occurrence), a.key ≠ b.key →
      schema.decodeInto rules scope (.ofList (before ++ a :: b :: after)) start =
        schema.decodeInto rules scope (.ofList (before ++ b :: a :: after)) start) := by
  refine ⟨?_, ?_, ?_⟩
  · intro left right agree
    exact ⟨schema.decodeInto_congr rules agree start,
      fun nonempty => ⟨_, decodeInto_of_accepted accepted nonempty left start⟩⟩
  · intro index
    exact schema.decodeInto_congr rules (fun _ => index.getAll_restrict) start
  · intro before after a b different
    exact schema.decodeInto_congr rules
      (fun key _ => DirectiveIndex.getAll_swap different before after key) start

/-- A directive that no field has the key of, in front of the others, changes nothing. -/
theorem decodeInto_relevance_foreign_directive :
    ∃ decoded,
      Http.InterfaceOptions.schema.decodeInto .standard "http"
        (.ofList [⟨⟨"http", ["x"], ∅⟩, .unknown⟩, ⟨⟨"http-default-accept", ["json"], ∅⟩, .unknown⟩])
        Http.InterfaceOptions.table.shape.zero = .ok decoded ∧
      Http.InterfaceOptions.schema.decodeInto .standard "http"
        (.ofList [⟨⟨"http-default-accept", ["json"], ∅⟩, .unknown⟩])
        Http.InterfaceOptions.table.shape.zero = .ok decoded := by
  obtain ⟨same, succeeds⟩ := (Http.InterfaceOptions.schema.decodeInto_relevance .standard rfl "http"
    Http.InterfaceOptions.table.shape.zero).1
      (.ofList [⟨⟨"http", ["x"], ∅⟩, .unknown⟩, ⟨⟨"http-default-accept", ["json"], ∅⟩, .unknown⟩])
      (.ofList [⟨⟨"http-default-accept", ["json"], ∅⟩, .unknown⟩]) (by decide +kernel)
  obtain ⟨decoded, done⟩ := succeeds (by decide)
  exact ⟨decoded, done, same ▸ done⟩

end Schema
end DocOptions
