import DocOptions.Proofs.Plugin.Strays

/-! The comments that are meant for a backend. No marked comment above a declaration is rejected, so
a backend, which looks at the index alone, has them all: each that lies at or below its scope is
consumed by a field, or the backend warns of it. -/

namespace DocOptions

/-- The backend leaves out none of the sources above a declaration that are at or below its scope.
Where it reads no options it warns of them all; where it reads an accepted schema, those with the
key of a field are consumed and it warns of the others. -/
structure Backend.AccountsFor (backend : Backend) (name : String) (comments : List RawComment)
    (sources : List Occurrence) : Prop where
  scan : (backend.scan name comments).run = .ok ⟨(),
    ⟨(sources.filter fun source => AtOrBelow backend.scope source.key).map backend.unusedWarning⟩,
    ∅⟩
  decode : backend.scope ≠ "" → ∀ {shape : Shape} (schema : Schema shape) (rules : RuleRegistry)
    (path : String), schema.verify rules = .ok () →
    ∃ loaded decoded, (backend.decode schema rules path name comments).run = .ok loaded ∧
      schema.decode rules backend.scope (DocComments.ofRaw name comments).index = .ok decoded ∧
      loaded.value = decoded.value ∧
      (∀ source ∈ sources, source.key ∈ schema.table.keys backend.scope →
        decoded.report.consumed.contains source.key = true) ∧
      loaded.diagnostics.warnings = (sources.filter fun source =>
        AtOrBelow backend.scope source.key ∧
          source.key ∉ schema.table.keys backend.scope).map backend.unusedWarning

theorem Backend.accountsFor_entries (backend : Backend) (name : String)
    (comments : List RawComment) :
    backend.AccountsFor name comments (DocComments.ofRaw name comments).index.entries where
  scan := by rw [Loading.run, scan, DirectiveIndex.under_eq]
  decode nonempty shape schema rules path accepted := by
    have visited : (Visit.reads schema path name comments).Accepted rules := accepted
    have warned : ((Visit.reads schema path name comments).findings backend rules).filter
        Diagnostic.isWarning = (straysAbove backend.scope (schema.table.keys backend.scope) name
          comments).map backend.unusedWarning := Visit.warnings_findings visited
    rw [straysAbove, ← DocComments.entries_ofRaw] at warned
    refine ⟨_, backend.reading rules schema name comments,
      (backend.run_decode_ok_iff rules nonempty).mpr ⟨accepted, rfl⟩,
      Schema.decodeInto_of_accepted accepted nonempty _ _, rfl, ?_, warned⟩
    intro source member owned
    rw [(reports_reading accepted name comments).contains_consumed_iff, Table.map_key_lookups,
      DirectiveIndex.getAll_ne_nil_iff]
    exact ⟨owned, source, member, rfl⟩

/-- Nothing above a declaration is rejected. The index has one directive for each marked comment, in
their order, and no backend loses one. What marks a comment and is read of it is its text behind the
slashes and spaces at its start. -/
theorem DocComments.ofRaw_loses_none (name : String) (comments : List RawComment) :
    (ofRaw name comments).rejected = [] ∧
      (∀ comment ∈ comments, IsUncommented comment.text (uncomment comment.text)) ∧
      List.Forall₂ RawComment.Holds (comments.filter (·.IsMarked name))
        (ofRaw name comments).index.entries ∧
      ∀ backend : Backend, backend.AccountsFor name comments (ofRaw name comments).index.entries :=
  ⟨rejected_ofRaw name comments, fun _ _ => isUncommented_iff.mpr rfl,
    forall₂_entries_ofRaw name comments, fun backend => backend.accountsFor_entries name comments⟩

/-- A lone marker, an escape at the end and an unclosed quote are read; a title is not. -/
example : (DocComments.ofRaw "@Get" [⟨"//  @", none⟩, ⟨"@http\\\\\\", none⟩, ⟨"/// @a \"b c", none⟩,
    ⟨"// @Get x", none⟩]).index.entries.map (fun source => (source.key, source.directive.options)) =
      [("", []), ("http\\", []), ("a", ["\"b c"])] := by
  decide +kernel

end DocOptions
