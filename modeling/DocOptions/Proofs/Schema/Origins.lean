import DocOptions.Plugin.Http.Options
import DocOptions.Proofs.Schema.LookupReports

/-! Where the findings and the trace of a decode come from, and that they account for all keys that
the decode has consumed. The look-ups are taken in order, and a trace of an earlier one stays
because the later ones trace other paths. -/

namespace DocOptions

namespace Lookup.Reports

variable {lookup : Lookup} {sources : List Occurrence} {report : Report} {place : String}
  {entry : Occurrence}

theorem traced (reported : lookup.Reports sources report)
    (found : report.trace.get? place = some entry) :
    entry ∈ sources ∧ PathWithin lookup.path place := by
  obtain ⟨within, -⟩ := reported
  exact within.traced place entry (by rwa [Report.trace_consume_append] at found)

theorem findings (reported : lookup.Reports sources report) :
    ∀ d ∈ report.diagnostics.items, d.About sources lookup.key := by
  obtain ⟨within, -⟩ := reported
  exact within.findings

theorem accounted (reported : lookup.Reports sources report) : lookup.Accounted sources report := by
  obtain ⟨-, accounted⟩ := reported
  intro found
  rcases accounted found with ⟨place, traced⟩ | failed
  · exact .inl ⟨place, by rwa [Report.trace_consume_append]⟩
  · exact .inr failed

end Lookup.Reports

namespace Reports

variable {index : DirectiveIndex} {lookups : List Lookup} {report : Report}

theorem traced (reported : Reports index lookups report) {place : String} {entry : Occurrence}
    (found : report.trace.get? place = some entry) :
    ∃ lookup ∈ lookups, entry ∈ index.getAll lookup.key ∧ PathWithin lookup.path place := by
  induction reported with
  | nil => cases found
  | @cons lookup lookups own others first rest ih =>
    rw [Report.trace_append, TextMap.get?_override, Option.or_eq_some_iff] at found
    rcases found with later | ⟨-, earlier⟩
    · obtain ⟨lookup, member, source⟩ := ih later
      exact ⟨lookup, List.mem_cons_of_mem _ member, source⟩
    · exact ⟨lookup, List.mem_cons_self, first.traced earlier⟩

theorem findings (reported : Reports index lookups report) :
    ∀ d ∈ report.diagnostics.items, ∃ lookup ∈ lookups,
      d.About (index.getAll lookup.key) lookup.key := by
  induction reported with
  | nil => exact fun _ member => nomatch member
  | @cons lookup lookups own others first rest ih =>
    refine List.forall_mem_append.mpr ⟨?_, ?_⟩
    · intro d member
      exact ⟨lookup, List.mem_cons_self, first.findings d member⟩
    · intro d member
      obtain ⟨lookup, inside, about⟩ := ih d member
      exact ⟨lookup, List.mem_cons_of_mem _ inside, about⟩

/-- Each key that was looked up and found left something in the report of all look-ups. -/
theorem accounted (reported : Reports index lookups report)
    (apart : lookups.Pairwise Lookup.Apart) :
    ∀ lookup ∈ lookups, index.getAll lookup.key ≠ [] →
      (∃ place entry, report.trace.get? place = some entry ∧ entry.key = lookup.key) ∨
        ∃ d ∈ report.diagnostics.items, ∃ kind ∈ lookup.leaf?,
          kind.ConversionFailure lookup.key (index.getAll lookup.key) d := by
  induction reported with
  | nil => exact fun _ member => nomatch member
  | @cons lookup lookups own others first rest ih =>
    obtain ⟨apartFirst, apartRest⟩ := List.pairwise_cons.mp apart
    refine List.forall_mem_cons.mpr ⟨fun found => ?_, fun later member found => ?_⟩
    · rcases first.accounted found with ⟨place, traced⟩ | ⟨d, member, failed⟩
      · obtain ⟨entry, here⟩ := Option.isSome_iff_exists.mp traced
        obtain ⟨source, inside⟩ := first.traced here
        -- a later look-up that traced the same path would not be apart from this one
        have untouched : others.trace.get? place = none := by
          rw [Option.eq_none_iff_forall_ne_some]
          intro other overridden
          obtain ⟨second, member, -, inside'⟩ := rest.traced overridden
          exact apartFirst second member place inside inside'
        refine .inl ⟨place, entry, ?_, index.getAll_key lookup.key entry source⟩
        rw [Report.trace_append, TextMap.get?_override, untouched, here, Option.none_or]
      · exact .inr ⟨d, List.mem_append_left _ member, failed⟩
    · rcases ih apartRest later member found with ⟨place, entry, here, key⟩ | ⟨d, member, failed⟩
      · refine .inl ⟨place, entry, ?_, key⟩
        rw [Report.trace_append, TextMap.get?_override, here, Option.some_or]
      · exact .inr ⟨d, List.mem_append_right _ member, failed⟩

end Reports

/-- The leaf that a look-up is for. -/
theorem Table.exists_leafRef_of_lookup {shape : Shape} {table : Table shape} {scope path : String} :
    ∀ lookup ∈ table.lookups scope path, ∀ kind ∈ lookup.leaf?,
      ∃ leaf : LeafRef kind table, leaf.key scope = lookup.key := by
  induction table generalizing scope path with
  | nil => exact fun _ member => nomatch member
  | leaf spec kind next ih =>
    refine List.forall_mem_cons.mpr ⟨?_, ?_⟩
    · rintro _ ⟨⟩
      exact ⟨.here, keyBelow_singleton scope spec.name⟩
    · intro lookup member kind own
      obtain ⟨leaf, key⟩ := ih lookup member kind own
      exact ⟨.afterLeaf leaf, key⟩
  | composite spec kind name inner next innerIh ih =>
    have others : ∀ lookup ∈ next.lookups scope path, ∀ leafKind ∈ lookup.leaf?,
        ∃ leaf : LeafRef leafKind (.composite spec kind name inner next),
          leaf.key scope = lookup.key := by
      intro lookup member leafKind own
      obtain ⟨leaf, key⟩ := ih lookup member leafKind own
      exact ⟨.afterComposite leaf, key⟩
    cases kind with
    | group =>
      refine List.forall_mem_append.mpr ⟨?_, others⟩
      intro lookup member leafKind own
      obtain ⟨leaf, key⟩ := innerIh lookup member leafKind own
      exact ⟨.inGroup leaf, (keyBelow_cons scope spec.name leaf.names).trans key⟩
    | inline | inlineList => exact List.forall_mem_cons.mpr ⟨fun _ own => (nomatch own), others⟩

/-- What a decode tells comes from the directives, and misses none that a field read. The fields are
traced to occurrences that have a key of the table. Every finding is a failure of such a key, at one
of its occurrences if there are any. Every consumed key has a trace, or the first occurrence of the
key has no value for a leaf and a finding says so. -/
structure Decoded.Originates {shape : Shape} (decoded : Decoded shape) (table : Table shape)
    (scope : String) (index : DirectiveIndex) : Prop where
  traced : ∀ path entry, decoded.report.trace.get? path = some entry →
    entry ∈ index.entries ∧ entry.key ∈ table.keys scope
  findings : ∀ d ∈ decoded.report.diagnostics.items, d.severity = .failure ∧
    ∃ key ∈ table.keys scope, d.key = some key ∧
      (d.position.isSome = true ↔ index.has key = true) ∧
      ∀ position ∈ d.position, ∃ source ∈ index.entries,
        source.key = key ∧ source.position = position
  accounted : ∀ key, decoded.report.consumed.contains key = true →
    (∃ path entry, decoded.report.trace.get? path = some entry ∧ entry.key = key) ∨
      ∃ d ∈ decoded.report.diagnostics.items, ∃ (kind : Leaf) (leaf : LeafRef kind table),
        leaf.key scope = key ∧ kind.ConversionFailure key (index.getAll key) d

theorem Reports.originates {shape : Shape} {table : Table shape} (named : table.WellNamed)
    {index : DirectiveIndex} {scope path : String} {decoded : Decoded shape}
    (reported : Reports index (table.lookups scope path) decoded.report) :
    decoded.Originates table scope index where
  traced := by
    intro place entry found
    obtain ⟨lookup, member, source, -⟩ := reported.traced found
    obtain ⟨inside, key⟩ := DirectiveIndex.mem_getAll_iff.mp source
    refine ⟨inside, ?_⟩
    rw [key, ← table.map_key_lookups scope path]
    exact List.mem_map_of_mem member
  findings := by
    intro d member
    obtain ⟨lookup, inside, about⟩ := reported.findings d member
    refine ⟨about.failure, lookup.key, ?_, about.key, ?_, ?_⟩
    · rw [← table.map_key_lookups scope path]
      exact List.mem_map_of_mem inside
    · rw [DirectiveIndex.has_iff, about.placed.1]
    · intro position placed
      obtain ⟨source, member, place⟩ := about.placed.2 position placed
      obtain ⟨inside, key⟩ := DirectiveIndex.mem_getAll_iff.mp member
      exact ⟨source, inside, key, place⟩
  accounted := by
    intro key consumed
    obtain ⟨looked, found⟩ := (reported.contains_consumed_iff key).mp consumed
    obtain ⟨lookup, member, rfl⟩ := List.mem_map.mp looked
    rcases reported.accounted (table.apart_lookups named scope path) lookup member found with
      traced | ⟨d, inside, kind, own, failed⟩
    · exact .inl traced
    · obtain ⟨leaf, key⟩ := Table.exists_leafRef_of_lookup lookup member kind own
      exact .inr ⟨d, inside, kind, leaf, key, failed⟩

namespace Schema

variable {shape : Shape}

/-- What a decode with an accepted schema tells originates from the directives, if the identifiers
in its tables can be told apart. -/
theorem decodeInto_origins (schema : Schema shape) (rules : RuleRegistry)
    (accepted : schema.verify rules = .ok ()) (named : schema.table.WellNamed) (scope : String)
    (index : DirectiveIndex) (start : shape.Record) :
    (scope = "" → schema.decodeInto rules scope index start = .error .emptyPrefix) ∧
      (scope ≠ "" → ∃ decoded, schema.decodeInto rules scope index start = .ok decoded ∧
        decoded.Originates schema.table scope index) := by
  constructor
  · rintro rfl
    exact decodeInto_of_empty ..
  · intro nonempty
    obtain ⟨decoded, done, reported⟩ := decodeInto_reports accepted nonempty index start
    exact ⟨decoded, done, reported.originates named⟩

/-- A number that cannot be read is accounted for by its finding, a list by the trace of its
elements. -/
theorem decodeInto_origins_bad_number :
    let schema : Schema _ := ⟨"Options",
      .leaf (field "limit") (.scalar .key (.plain (.integer .int64))) <|
      .composite (field "query") .group "QueryOpt" Http.QueryOptions.table .nil⟩
    let index := DirectiveIndex.ofList
      [⟨⟨"http-limit", ["much"], ∅⟩, .unknown⟩, ⟨⟨"http-query-value", ["page", "1"], ∅⟩, .unknown⟩]
    ∃ decoded, schema.decodeInto .standard "http" index schema.table.shape.zero = .ok decoded ∧
      decoded.Originates schema.table "http" index ∧
      decoded.report.diagnostics.items.map (·.key) = [some "http-limit"] ∧
      decoded.report.trace.keys = ["Options.query.values[0]", "Options.query.values[0].name",
        "Options.query.values[0].values"] := by
  intro schema index
  obtain ⟨decoded, done, origins⟩ := (schema.decodeInto_origins .standard rfl (by decide +kernel)
    "http" index schema.table.shape.zero).2 (by decide)
  have evaluated : (schema.decodeInto .standard "http" index schema.table.shape.zero).toOption.map
      (fun d => (d.report.diagnostics.items.map (·.key), d.report.trace.keys)) =
      some ([some "http-limit"], ["Options.query.values[0]", "Options.query.values[0].name",
        "Options.query.values[0].values"]) := by decide +kernel
  rw [done] at evaluated
  obtain ⟨keys, paths⟩ := Prod.mk.inj (Option.some.inj evaluated)
  exact ⟨decoded, done, origins, keys, paths⟩

end Schema
end DocOptions
