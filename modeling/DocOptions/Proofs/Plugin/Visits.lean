import DocOptions.Proofs.Directive.Comments
import DocOptions.Proofs.Plugin.Loading
import DocOptions.Proofs.Schema.Consumed
import DocOptions.Proofs.Schema.Origins

/-! Loading as a walk over declarations. What a loader finds and traces follows from the
declarations it visits and from nothing that it computes: a loading is the visits it makes, one
after the other, and then a value. -/

namespace DocOptions

/-- A step of a walk: options are read from a declaration, its directives are scanned, or a failure
without a key is reported. -/
inductive Visit
  | reads {shape : Shape} (schema : Schema shape) (path name : String) (comments : List RawComment)
  | scans (name : String) (comments : List RawComment)
  | fails (message : String) (position : Option Position)

namespace Backend

variable {shape : Shape} (backend : Backend) (rules : RuleRegistry)

/-- What a schema makes of the comments above a declaration, once it is accepted. -/
def reading (schema : Schema shape) (name : String) (comments : List RawComment) :
    Decoded shape :=
  let (value, report) := schema.table.bind rules (DocComments.ofRaw name comments).index
    backend.scope schema.name shape.zero
  ⟨value, report⟩

def perform : Visit → Loading Unit
  | .reads schema path name comments => do
    let _ ← backend.decode schema rules path name comments
  | .scans name comments => backend.scan name comments
  | .fails message position => .report ⟨.failure, message, none, position⟩

/-- Makes visits and returns a value. -/
def visiting {α : Type} (visits : List Visit) (value : α) : Loading α := do
  visits.forM (backend.perform rules)
  return value

end Backend

namespace Visit

/-- Whether the schema that is read, if any, is accepted. -/
def Accepted (rules : RuleRegistry) : Visit → Prop
  | reads schema _ _ _ => schema.verify rules = .ok ()
  | scans _ _ => True
  | fails _ _ => True

variable (backend : Backend) (rules : RuleRegistry)

def findings : Visit → List Diagnostic
  | reads schema _ name comments =>
    let decoded := backend.reading rules schema name comments
    decoded.report.diagnostics.items ++
      (decoded.unused backend.scope (DocComments.ofRaw name comments).index).map
        backend.unusedWarning
  | scans name comments =>
    ((DocComments.ofRaw name comments).index.under backend.scope).map backend.unusedWarning
  | fails message position => [⟨.failure, message, none, position⟩]

def trace : Visit → Trace
  | reads schema path name comments =>
    Trace.mergeUnder ∅ path (backend.reading rules schema name comments).report.trace
  | scans _ _ => ∅
  | fails _ _ => ∅

/-- What visits leave behind. -/
def outcome (visits : List Visit) : Loaded Unit :=
  ⟨(), ⟨visits.flatMap (findings backend rules)⟩,
    visits.foldr (fun visit later => (visit.trace backend rules).override later) ∅⟩

end Visit

namespace Backend

variable {shape : Shape} {α β : Type} (backend : Backend) (rules : RuleRegistry)

theorem run_decode (nonempty : backend.scope ≠ "") (schema : Schema shape) (path name : String)
    (comments : List RawComment) :
    (backend.decode schema rules path name comments).run =
      match schema.verify rules with
      | .error e => .error e
      | .ok () =>
        let visit := Visit.reads schema path name comments
        .ok ⟨(backend.reading rules schema name comments).value, ⟨visit.findings backend rules⟩,
          visit.trace backend rules⟩ := by
  cases accepted : schema.verify rules with
  | error e =>
    simp only [Loading.run, decode, Schema.decode, Schema.decodeInto, String.isEmpty_iff, nonempty,
      accepted]
    rfl
  | ok =>
    rw [Loading.run, decode, Schema.decode, Schema.decodeInto_of_accepted accepted nonempty]
    rfl

theorem run_decode_ok_iff (nonempty : backend.scope ≠ "") {schema : Schema shape}
    {path name : String} {comments : List RawComment} {loaded : Loaded shape.Record} :
    (backend.decode schema rules path name comments).run = .ok loaded ↔
      schema.verify rules = .ok () ∧
        loaded = ⟨(backend.reading rules schema name comments).value,
          ⟨(Visit.reads schema path name comments).findings backend rules⟩,
          (Visit.reads schema path name comments).trace backend rules⟩ := by
  rw [run_decode backend rules nonempty]
  cases schema.verify rules with
  | error e => simp
  | ok => simp [eq_comm]

theorem visiting_nil (value : α) : backend.visiting rules [] value = pure value := by
  simp [visiting]

theorem visiting_bind {visits later : List Visit} {value : α} {next : α → Loading β} {last : β}
    (visited : next value = backend.visiting rules later last) :
    backend.visiting rules visits value >>= next =
      backend.visiting rules (visits ++ later) last := by
  simp [visiting, visited]

theorem visiting_return (visits : List Visit) (value : α) (f : α → β) :
    (do
      let a ← backend.visiting rules visits value
      return f a) = backend.visiting rules visits (f value) := by
  simp [visiting]

theorem mapM_visiting {step : α → Loading β} {visits : α → List Visit} {value : α → β}
    (visited : ∀ a, step a = backend.visiting rules (visits a) (value a)) (all : List α) :
    all.mapM step = backend.visiting rules (all.flatMap visits) (all.map value) := by
  induction all with
  | nil => exact (backend.visiting_nil rules _).symm
  | cons a rest ih => simp [visited a, ih, visiting]

theorem mapM_visiting_each {step : α → Loading β} {visit : α → Visit} {value : α → β}
    (visited : ∀ a, step a = backend.visiting rules [visit a] (value a)) (all : List α) :
    all.mapM step = backend.visiting rules (all.map visit) (all.map value) := by
  rw [backend.mapM_visiting rules visited, List.map_eq_flatMap (f := visit)]

theorem visiting_single (visit : Visit) (value : α) :
    backend.visiting rules [visit] value = do
      backend.perform rules visit
      return value := by
  simp [visiting]

theorem perform_eq_visiting (visit : Visit) :
    backend.perform rules visit = backend.visiting rules [visit] () :=
  (bind_pure _).symm.trans (backend.visiting_single rules visit ()).symm

theorem decode_eq_visiting (nonempty : backend.scope ≠ "") (schema : Schema shape)
    (path name : String) (comments : List RawComment) :
    backend.decode schema rules path name comments =
      backend.visiting rules [.reads schema path name comments]
        (backend.reading rules schema name comments).value := by
  rw [visiting_single]
  simp only [perform, bind_assoc, pure_bind]
  -- The visit drops the record that was decoded, and the value that follows it is the same record.
  refine (Loading.bind_return_of_value ?_).symm
  intro loaded done
  obtain ⟨-, rfl⟩ := (run_decode_ok_iff backend rules nonempty).mp done
  rfl

variable {backend rules}

theorem run_perform_ok_iff (nonempty : backend.scope ≠ "") {visit : Visit} {loaded : Loaded Unit} :
    (backend.perform rules visit).run = .ok loaded ↔
      visit.Accepted rules ∧
        loaded = ⟨(), ⟨visit.findings backend rules⟩, visit.trace backend rules⟩ := by
  cases visit with
  | reads schema path name comments =>
    rw [perform, Loading.run_bind_ok_iff, Visit.Accepted]
    constructor
    · rintro ⟨a, b, done, last, rfl⟩
      obtain ⟨accepted, rfl⟩ := (run_decode_ok_iff backend rules nonempty).mp done
      obtain rfl := Loading.run_pure_ok_iff.mp last
      exact ⟨accepted, Loaded.andThen_empty (α := Unit) ⟨(), _, _⟩⟩
    · rintro ⟨accepted, rfl⟩
      exact ⟨_, _, (run_decode_ok_iff backend rules nonempty).mpr ⟨accepted, rfl⟩, rfl,
        (Loaded.andThen_empty (α := Unit) ⟨(), _, _⟩).symm⟩
  | scans | fails =>
    constructor
    · intro done
      exact ⟨trivial, (Except.ok.inj done).symm⟩
    · rintro ⟨-, rfl⟩
      rfl

theorem run_forM_perform_ok_iff (nonempty : backend.scope ≠ "") {visits : List Visit}
    {loaded : Loaded Unit} :
    (visits.forM (backend.perform rules)).run = .ok loaded ↔
      (∀ visit ∈ visits, visit.Accepted rules) ∧ loaded = Visit.outcome backend rules visits := by
  induction visits generalizing loaded with
  | nil =>
    constructor
    · intro done
      exact ⟨fun _ member => (nomatch member), Loading.run_pure_ok_iff.mp done⟩
    · rintro ⟨-, rfl⟩
      rfl
  | cons visit rest ih =>
    change (backend.perform rules visit >>= fun _ => rest.forM (backend.perform rules)).run = _ ↔ _
    rw [Loading.run_bind_ok_iff, List.forall_mem_cons]
    constructor
    · rintro ⟨a, b, first, later, rfl⟩
      obtain ⟨own, rfl⟩ := (run_perform_ok_iff nonempty).mp first
      obtain ⟨others, rfl⟩ := ih.mp later
      exact ⟨⟨own, others⟩, rfl⟩
    · rintro ⟨⟨own, others⟩, rfl⟩
      exact ⟨_, _, (run_perform_ok_iff nonempty).mpr ⟨own, rfl⟩, ih.mpr ⟨others, rfl⟩, rfl⟩

/-- Visits are made to their end if each schema among them is accepted. -/
theorem run_visiting_ok_iff (nonempty : backend.scope ≠ "") {visits : List Visit} {value : α}
    {loaded : Loaded α} :
    (backend.visiting rules visits value).run = .ok loaded ↔
      (∀ visit ∈ visits, visit.Accepted rules) ∧
        loaded = (Visit.outcome backend rules visits).map fun _ => value := by
  rw [visiting, Loading.run_bind_ok_iff]
  constructor
  · rintro ⟨a, b, done, last, rfl⟩
    obtain ⟨accepted, rfl⟩ := (run_forM_perform_ok_iff nonempty).mp done
    obtain rfl := Loading.run_pure_ok_iff.mp last
    exact ⟨accepted, Loaded.andThen_empty ⟨value, _, _⟩⟩
  · rintro ⟨accepted, rfl⟩
    exact ⟨_, _, (run_forM_perform_ok_iff nonempty).mpr ⟨accepted, rfl⟩, rfl,
      (Loaded.andThen_empty ⟨value, _, _⟩).symm⟩

end Backend
end DocOptions
