import DocOptions.Proofs.Plugin.Visits
import DocOptions.Proofs.Schema.Relocation
import DocOptions.Proofs.Schema.TracedPlaces
import Mathlib.Data.List.Nodup

/-! What a walk traces. Each declaration that is read has its trace put below its own path. The walk
traces all of them together, and nothing is lost if no two of them name one place. -/

namespace DocOptions

namespace TextMap

variable {α : Type}

theorem nodup_keys (map : TextMap α) : map.keys.Nodup :=
  List.pairwise_map.mpr (map.sorted.imp String.ne_of_lt)

theorem get?_eq_some_iff {map : TextMap α} {key : String} {value : α} :
    map.get? key = some value ↔ (key, value) ∈ map.entries := by
  constructor
  · intro found
    obtain ⟨before, after, whole, -⟩ := List.lookup_eq_some_iff.mp found
    rw [whole]
    exact List.mem_append_right _ List.mem_cons_self
  · intro member
    have found := get?_ofList_of_unique member fun pair inside same =>
      List.inj_on_of_nodup_map map.nodup_keys inside member same
    rwa [ofList_entries] at found

/-- Pairs of different keys are all kept. -/
theorem perm_entries_ofList {pairs : List (String × α)} (distinct : (pairs.map Prod.fst).Nodup) :
    (ofList pairs).entries.Perm pairs := by
  refine (List.perm_ext_iff_of_nodup (.of_map _ (ofList pairs).nodup_keys)
    (.of_map _ distinct)).mpr fun pair => ⟨mem_entries_ofList, fun member => ?_⟩
  exact get?_eq_some_iff.mp (get?_ofList_of_unique member fun other inside same =>
    List.inj_on_of_nodup_map distinct inside member same)

end TextMap

namespace Trace

/-- The entries of a trace below a path. -/
def under (path : String) (trace : Trace) : List (String × Occurrence) :=
  trace.entries.map fun (place, entry) => (s!"{path}.{place}", entry)

theorem fieldPath_inj {path place other : String}
    (same : s!"{path}.{place}" = s!"{path}.{other}") : place = other := by
  have chars := congrArg String.toList same
  rw [toList_fieldPath, toList_fieldPath] at chars
  exact String.toList_inj.mp (List.tail_eq_of_cons_eq (List.append_cancel_left chars))

theorem nodup_keys_under (path : String) (trace : Trace) :
    ((trace.under path).map Prod.fst).Nodup := by
  have keys : (trace.under path).map Prod.fst = trace.keys.map fun place => s!"{path}.{place}" := by
    rw [under, TextMap.keys, List.map_map, List.map_map]
    rfl
  rw [keys]
  exact trace.nodup_keys.map fun _ _ => fieldPath_inj

theorem mem_under_iff {path place : String} {entry : Occurrence} {trace : Trace} :
    (place, entry) ∈ trace.under path ↔
      ∃ inner, trace.get? inner = some entry ∧ place = s!"{path}.{inner}" := by
  simp only [under, List.mem_map, Prod.exists, Prod.mk.injEq, TextMap.get?_eq_some_iff]
  constructor
  · rintro ⟨inner, entry, member, rfl, rfl⟩
    exact ⟨inner, member, rfl⟩
  · rintro ⟨inner, member, rfl⟩
    exact ⟨inner, entry, member, rfl, rfl⟩

/-- A trace has the entries of some traces, each below its own path, and no others. None of them is
put over another. -/
structure Gathers (whole : Trace) (parts : List (String × Trace)) : Prop where
  entries : whole.entries.Perm (parts.flatMap fun part => part.2.under part.1)
  found : ∀ place entry, whole.get? place = some entry ↔
    ∃ part ∈ parts, ∃ inner, part.2.get? inner = some entry ∧ place = s!"{part.1}.{inner}"

theorem gathers_of_perm {whole : Trace} {parts : List (String × Trace)}
    (entries : whole.entries.Perm (parts.flatMap fun part => part.2.under part.1)) :
    whole.Gathers parts where
  entries := entries
  found place entry := by
    rw [TextMap.get?_eq_some_iff, entries.mem_iff, List.mem_flatMap]
    simp only [mem_under_iff]

end Trace

namespace Backend

variable {shape : Shape} (backend : Backend) (rules : RuleRegistry)

/-- What the decode of a declaration traces by itself. -/
def ownTrace (schema : Schema shape) (name : String) (comments : List RawComment) : Trace :=
  match schema.decode rules backend.scope (DocComments.ofRaw name comments).index with
  | .ok decoded => decoded.report.trace
  | .error _ => ∅

theorem ownTrace_eq (nonempty : backend.scope ≠ "") {schema : Schema shape}
    (accepted : schema.verify rules = .ok ()) (name : String) (comments : List RawComment) :
    backend.ownTrace rules schema name comments =
      (backend.reading rules schema name comments).report.trace := by
  rw [ownTrace, Schema.decode, Schema.decodeInto_of_accepted accepted nonempty]
  rfl

end Backend

namespace Visit

/-- The path of a declaration that is read, with what its decode traces. -/
def ownTraces (backend : Backend) (rules : RuleRegistry) : Visit → List (String × Trace)
  | reads schema path name comments => [(path, backend.ownTrace rules schema name comments)]
  | scans _ _ | fails _ _ => []

/-- The places that all traces of a visit lie below. -/
def roots : Visit → List String
  | reads schema path _ _ => [s!"{path}.{schema.name}"]
  | scans _ _ | fails _ _ => []

/-- Whether the fields that a visit can trace are among some. -/
def HasFields (idents : List String) : Visit → Prop
  | reads schema _ _ _ => ∀ ident ∈ schema.table.allIdents, ident ∈ idents
  | scans _ _ | fails _ _ => True

/-- What a visit traces, each entry at its place in the trace of the walk. -/
def marks (backend : Backend) (rules : RuleRegistry) (visit : Visit) : List (String × Occurrence) :=
  (visit.ownTraces backend rules).flatMap fun part => part.2.under part.1

variable {backend : Backend} {rules : RuleRegistry}

theorem trace_eq_ofList (nonempty : backend.scope ≠ "") {visit : Visit}
    (accepted : visit.Accepted rules) :
    visit.trace backend rules = .ofList (visit.marks backend rules) := by
  cases visit with
  | reads schema path name comments =>
    rw [marks, ownTraces, List.flatMap_singleton, backend.ownTrace_eq rules nonempty accepted]
    rfl
  | scans | fails => rfl

theorem trace_outcome (nonempty : backend.scope ≠ "") {visits : List Visit}
    (accepted : ∀ visit ∈ visits, visit.Accepted rules) :
    (outcome backend rules visits).trace = .ofList (visits.flatMap (marks backend rules)) := by
  induction visits with
  | nil => rfl
  | cons visit rest ih =>
    obtain ⟨own, others⟩ := List.forall_mem_cons.mp accepted
    rw [List.flatMap_cons, TextMap.ofList_append, ← trace_eq_ofList nonempty own, ← ih others]
    rfl

theorem nodup_keys_marks (visit : Visit) : ((visit.marks backend rules).map Prod.fst).Nodup := by
  cases visit with
  | reads schema path name comments =>
    rw [marks, ownTraces, List.flatMap_singleton]
    exact Trace.nodup_keys_under ..
  | scans | fails => exact .nil

/-- A visit traces below its root, along its fields. -/
theorem stepsTo_of_mem_marks (nonempty : backend.scope ≠ "") {visit : Visit}
    (accepted : visit.Accepted rules) {idents : List String} (fields : visit.HasFields idents) :
    ∀ mark ∈ visit.marks backend rules, ∃ root ∈ visit.roots, StepsTo idents root mark.1 := by
  intro mark member
  cases visit with
  | @reads shape schema path name comments =>
    rw [marks, ownTraces, List.flatMap_singleton, backend.ownTrace_eq rules nonempty accepted]
      at member
    obtain ⟨inner, found, place⟩ := Trace.mem_under_iff.mp member
    obtain ⟨steps, areSteps, rfl⟩ := Table.tracesAt_bind rules
      (DocComments.ofRaw name comments).index schema.table fields backend.scope schema.name
      shape.zero inner mark.2 found
    refine ⟨_, List.mem_singleton_self _, steps, areSteps, ?_⟩
    rw [place, ← pathBelow_cons]
    exact (String.intercalate_cons_cons ..).symm
  | scans | fails => cases member

end Visit

/-- Visits that read each declaration at an address of its own. -/
structure ReadApart (rules : RuleRegistry) (schemas idents : List String)
    (addresses : List (List String)) (visits : List Visit) : Prop where
  accepted : ∀ visit ∈ visits, visit.Accepted rules
  fields : ∀ visit ∈ visits, visit.HasFields idents
  told : ToldApart schemas idents
  areAddresses : ∀ address ∈ addresses, IsAddress schemas address
  distinct : addresses.Nodup
  rooted : visits.flatMap Visit.roots = addresses.map ".".intercalate

namespace ReadApart

variable {backend : Backend} {rules : RuleRegistry} {schemas idents : List String}
  {addresses : List (List String)} {visits : List Visit}

theorem nodup_roots (apart : ReadApart rules schemas idents addresses visits) :
    (visits.flatMap Visit.roots).Nodup := by
  rw [apart.rooted]
  refine List.Nodup.map_on (fun address member address' member' same => ?_) apart.distinct
  have isAddress := apart.areAddresses address member
  have isAddress' := apart.areAddresses address' member'
  exact intercalate_unique isAddress.ne_nil isAddress'.ne_nil isAddress.dotFree
    isAddress'.dotFree same

/-- A place that two visits trace lies below one root. -/
theorem root_unique (apart : ReadApart rules schemas idents addresses visits) {root root' : String}
    (mine : root ∈ visits.flatMap Visit.roots) (mine' : root' ∈ visits.flatMap Visit.roots)
    {place : String} (leads : StepsTo idents root place) (leads' : StepsTo idents root' place) :
    root = root' := by
  rw [apart.rooted] at mine mine'
  obtain ⟨address, member, rfl⟩ := List.mem_map.mp mine
  obtain ⟨address', member', rfl⟩ := List.mem_map.mp mine'
  rw [StepsTo.address_unique apart.told (apart.areAddresses address member)
    (apart.areAddresses address' member') leads leads']

theorem nodup_keys (apart : ReadApart rules schemas idents addresses visits)
    (nonempty : backend.scope ≠ "") :
    ((visits.flatMap (Visit.marks backend rules)).map Prod.fst).Nodup := by
  rw [List.map_flatMap]
  refine List.nodup_flatMap.mpr ⟨fun visit _ => visit.nodup_keys_marks, ?_⟩
  -- A place that two visits trace would give them a root in common.
  refine (List.nodup_flatMap.mp apart.nodup_roots).2.imp_of_mem ?_
  intro visit visit' member member' disjoint place inside inside'
  obtain ⟨mark, own, rfl⟩ := List.mem_map.mp inside
  obtain ⟨mark', own', same⟩ := List.mem_map.mp inside'
  obtain ⟨root, mine, leads⟩ := visit.stepsTo_of_mem_marks nonempty
    (apart.accepted visit member) (apart.fields visit member) mark own
  obtain ⟨root', mine', leads'⟩ := visit'.stepsTo_of_mem_marks nonempty
    (apart.accepted visit' member') (apart.fields visit' member') mark' own'
  obtain rfl : root = root' :=
    apart.root_unique (List.mem_flatMap.mpr ⟨visit, member, mine⟩)
      (List.mem_flatMap.mpr ⟨visit', member', mine'⟩) leads (same ▸ leads')
  exact disjoint mine mine'

/-- The walk traces all that the declarations trace by themselves. -/
theorem gathers_outcome (apart : ReadApart rules schemas idents addresses visits)
    (nonempty : backend.scope ≠ "") :
    (Visit.outcome backend rules visits).trace.Gathers
      (visits.flatMap (Visit.ownTraces backend rules)) := by
  apply Trace.gathers_of_perm
  rw [Visit.trace_outcome nonempty apart.accepted, List.flatMap_assoc]
  exact TextMap.perm_entries_ofList (apart.nodup_keys nonempty)

end ReadApart
end DocOptions
