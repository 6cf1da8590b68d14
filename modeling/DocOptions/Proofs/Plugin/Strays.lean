import DocOptions.Proofs.Plugin.Visits
import Mathlib.Data.List.Basic

/-! What a walk finds. Decoding reports failures alone, each with the key of a directive. Warnings
are of stray directives, which are under the backend's scope and belong to no field; the failures
without a key are those that the loader makes itself. -/

namespace DocOptions

/-- The directives above a declaration that are at or below a scope and have none of the keys, in
the order of their comments. -/
def straysAbove (scope : String) (keys : List String) (name : String) (comments : List RawComment) :
    List Occurrence :=
  (comments.filterMap (RawComment.occurrence? name)).filter fun source =>
    AtOrBelow scope source.key ∧ source.key ∉ keys

namespace Backend

variable {shape : Shape} {backend : Backend} {rules : RuleRegistry} {schema : Schema shape}

theorem reports_reading (accepted : schema.verify rules = .ok ()) (name : String)
    (comments : List RawComment) :
    Reports (DocComments.ofRaw name comments).index
      (schema.table.lookups backend.scope schema.name)
      (backend.reading rules schema name comments).report :=
  Table.reports_bind accepted backend.scope schema.name shape.zero

theorem unused_reading (accepted : schema.verify rules = .ok ()) (name : String)
    (comments : List RawComment) :
    (backend.reading rules schema name comments).unused backend.scope
        (DocComments.ofRaw name comments).index =
      straysAbove backend.scope (schema.table.keys backend.scope) name comments := by
  rw [straysAbove, ← DocComments.entries_ofRaw]
  apply Decoded.unused_eq
  intro key
  rw [(reports_reading accepted name comments).contains_consumed_iff, Table.map_key_lookups,
    DirectiveIndex.getAll_ne_nil_iff]

theorem findings_reading (accepted : schema.verify rules = .ok ()) (name : String)
    (comments : List RawComment) :
    ∀ d ∈ (backend.reading rules schema name comments).report.diagnostics.items,
      d.severity = .failure ∧ d.key ≠ none := by
  intro d member
  obtain ⟨lookup, -, about⟩ := (reports_reading accepted name comments).findings d member
  refine ⟨about.failure, ?_⟩
  rw [about.key]
  exact Option.some_ne_none _

end Backend

namespace Visit

/-- The directives of a visited declaration that no field is read from. -/
def strays (scope : String) : Visit → List Occurrence
  | reads schema _ name comments => straysAbove scope (schema.table.keys scope) name comments
  | scans name comments => straysAbove scope [] name comments
  | fails _ _ => []

def failure? : Visit → Option Diagnostic
  | fails message position => some ⟨.failure, message, none, position⟩
  | reads _ _ _ _ | scans _ _ => none

@[simp] theorem failure?_reads {shape : Shape} (schema : Schema shape) (path name : String)
    (comments : List RawComment) : (reads schema path name comments).failure? = none := rfl

@[simp] theorem failure?_fails (message : String) (position : Option Position) :
    (fails message position).failure? = some ⟨.failure, message, none, position⟩ := rfl

variable {backend : Backend} {rules : RuleRegistry}

theorem findings_scans (name : String) (comments : List RawComment) :
    (scans name comments).findings backend rules =
      ((scans name comments).strays backend.scope).map backend.unusedWarning := by
  rw [findings, strays, straysAbove, DirectiveIndex.under_eq, DocComments.entries_ofRaw]
  simp only [List.not_mem_nil, not_false_eq_true, and_true]

theorem findings_reads {shape : Shape} {schema : Schema shape}
    (accepted : schema.verify rules = .ok ()) (path name : String) (comments : List RawComment) :
    (reads schema path name comments).findings backend rules =
      (backend.reading rules schema name comments).report.diagnostics.items ++
        ((reads schema path name comments).strays backend.scope).map backend.unusedWarning := by
  rw [findings, strays, Backend.unused_reading accepted]

theorem filter_warnings_strays (sources : List Occurrence) :
    (sources.map backend.unusedWarning).filter Diagnostic.isWarning =
      sources.map backend.unusedWarning := by
  rw [List.filter_eq_self]
  intro d member
  obtain ⟨source, -, rfl⟩ := List.mem_map.mp member
  rfl

theorem filter_keyless_strays (sources : List Occurrence) :
    (sources.map backend.unusedWarning).filter (·.key.isNone) = [] := by
  rw [List.filter_eq_nil_iff]
  intro d member
  obtain ⟨source, -, rfl⟩ := List.mem_map.mp member
  exact Bool.false_ne_true

theorem warnings_findings {visit : Visit} (accepted : visit.Accepted rules) :
    (visit.findings backend rules).filter Diagnostic.isWarning =
      (visit.strays backend.scope).map backend.unusedWarning := by
  cases visit with
  | reads schema path name comments =>
    have failures : (backend.reading rules schema name comments).report.diagnostics.items.filter
        Diagnostic.isWarning = [] := by
      rw [List.filter_eq_nil_iff]
      intro d member
      obtain ⟨failure, -⟩ := Backend.findings_reading accepted name comments d member
      simp [Diagnostic.isWarning, failure]
    rw [findings_reads accepted, List.filter_append, failures, List.nil_append,
      filter_warnings_strays]
  | scans name comments => rw [findings_scans, filter_warnings_strays]
  | fails message position => rfl

theorem keyless_findings {visit : Visit} (accepted : visit.Accepted rules) :
    (visit.findings backend rules).filter (·.key.isNone) = visit.failure?.toList := by
  cases visit with
  | reads schema path name comments =>
    have keyed : (backend.reading rules schema name comments).report.diagnostics.items.filter
        (·.key.isNone) = [] := by
      rw [List.filter_eq_nil_iff]
      intro d member
      obtain ⟨-, keyed⟩ := Backend.findings_reading accepted name comments d member
      simpa using keyed
    rw [findings_reads accepted, List.filter_append, keyed, List.nil_append, filter_keyless_strays]
    rfl
  | scans name comments =>
    rw [findings_scans, filter_keyless_strays]
    rfl
  | fails message position => rfl

variable {visits : List Visit}

/-- A walk warns of the stray directives of the declarations it visits. -/
theorem warnings_outcome (accepted : ∀ visit ∈ visits, visit.Accepted rules) :
    (outcome backend rules visits).diagnostics.warnings =
      (visits.flatMap (strays backend.scope)).map backend.unusedWarning := by
  rw [outcome, Diagnostics.warnings, List.filter_flatMap, List.map_flatMap]
  exact List.flatMap_congr fun visit member => warnings_findings (accepted visit member)

theorem keyless_outcome (accepted : ∀ visit ∈ visits, visit.Accepted rules) :
    (outcome backend rules visits).diagnostics.items.filter (·.key.isNone) =
      visits.filterMap failure? := by
  rw [outcome, List.filter_flatMap, List.filterMap_eq_flatMap_toList]
  exact List.flatMap_congr fun visit member => keyless_findings (accepted visit member)

end Visit
end DocOptions
