import DocOptions.Plugin.Registry
import DocOptions.Proofs.Plugin.Http.Visits
import DocOptions.Proofs.Plugin.MetricsVisits

/-! When loading fails. A walk stops at the first declaration whose schema is refused, and a schema
of a loader is refused only for a rule that is not registered. So it is the registry that decides,
and whether the module has a method at all; what the declarations are called and what stands above
them has no part in it. -/

namespace DocOptions

namespace Backend

variable {shape : Shape} {α : Type} {backend : Backend} {rules : RuleRegistry}

theorem run_forM_perform_error (nonempty : backend.scope ≠ "") {before after : List Visit}
    (passed : ∀ visit ∈ before, visit.Accepted rules) {schema : Schema shape} {error : SchemaError}
    (refused : schema.verify rules = .error error) (path name : String)
    (comments : List RawComment) :
    ((before ++ .reads schema path name comments :: after).forM (backend.perform rules)).run =
      .error error := by
  induction before with
  | nil =>
    refine Loading.run_bind_error_iff.mpr (.inl (Loading.run_bind_error_iff.mpr (.inl ?_)))
    rw [run_decode backend rules nonempty, refused]
  | cons visit rest ih =>
    obtain ⟨own, others⟩ := List.forall_mem_cons.mp passed
    exact Loading.run_bind_error_iff.mpr
      (.inr ⟨_, (run_perform_ok_iff nonempty).mpr ⟨own, rfl⟩, ih others⟩)

/-- A walk ends at the first schema that is refused, with the fault of that schema. -/
theorem run_visiting_error (nonempty : backend.scope ≠ "") {before after : List Visit}
    (passed : ∀ visit ∈ before, visit.Accepted rules) {schema : Schema shape} {error : SchemaError}
    (refused : schema.verify rules = .error error) (path name : String)
    (comments : List RawComment) (value : α) :
    (backend.visiting rules (before ++ .reads schema path name comments :: after) value).run =
      .error error :=
  Loading.run_bind_error_iff.mpr
    (.inl (run_forM_perform_error nonempty passed refused path name comments))

end Backend

namespace Http

variable {rules : RuleRegistry}

/-- The fault of a registry that lacks a rule of the HTTP loader. -/
def missingRule (rules : RuleRegistry) : SchemaError :=
  if rules.contains "in" then .unknownRule "QueryValue" "name" "required"
  else .unknownRule "MethodOptions" "method" "in"

theorem verify_methodOptions_error (missing : ¬ HasRules rules) :
    MethodOptions.schema.verify rules = .error (missingRule rules) := by
  have standard : MethodOptions.schema.verify .standard = .ok () := rfl
  have uses : MethodOptions.table.ruleUses "MethodOptions" =
      [⟨"MethodOptions", "method", "in"⟩, ⟨"QueryValue", "name", "required"⟩] := rfl
  rw [Schema.verify, Table.verify_eq_requirements standard rules]
  change (MethodOptions.table.ruleUses "MethodOptions").forM rules.require = _
  rw [uses, missingRule]
  cases hasIn : rules.contains "in" with
  | false => simp [RuleRegistry.require, hasIn, bind, Except.bind]
  | true =>
    have hasRequired : rules.contains "required" = false := by
      simpa [HasRules, hasIn] using missing
    simp [RuleRegistry.require, hasIn, hasRequired, bind, Except.bind]

/-- Without methods the loader reads the options of interfaces alone, which name no rules. -/
theorem accepted_visits_iff (source : SourceModule) :
    (∀ visit ∈ visits source, visit.Accepted rules) ↔
      HasRules rules ∨ ∀ interface ∈ source.interfaces, interface.methods = [] := by
  constructor
  · intro accepted
    by_cases registered : HasRules rules
    · exact .inl registered
    · refine .inr fun interface declared => List.eq_nil_iff_forall_not_mem.mpr ?_
      intro method member
      exact registered (hasRules_of_accepted accepted declared member)
  · rintro (registered | bare) visit member
    · exact accepted_visits registered source visit member
    · obtain ⟨interface, declared, inside⟩ := List.mem_flatMap.mp member
      rw [interfaceVisits, bare interface declared] at inside
      obtain rfl := List.mem_singleton.mp inside
      exact verify_interfaceOptions

/-- Only interfaces are visited before the first method. -/
theorem exists_first_methodVisit {interfaces : List Interface}
    (declared : ∃ interface ∈ interfaces, interface.methods ≠ []) :
    ∃ before path name comments after, interfaces.flatMap interfaceVisits =
        before ++ .reads MethodOptions.schema path name comments :: after ∧
      ∀ visit ∈ before, visit.Accepted rules := by
  -- The first interface with a method is found by going past those that have none.
  induction interfaces with
  | nil => obtain ⟨_, member, -⟩ := declared; cases member
  | cons interface rest ih =>
    have own : (Visit.reads InterfaceOptions.schema interface.name interface.name
        interface.comments).Accepted rules := verify_interfaceOptions
    cases methods : interface.methods with
    | nil =>
      have later : ∃ interface ∈ rest, interface.methods ≠ [] := by
        obtain ⟨other, member, nonempty⟩ := declared
        rcases List.mem_cons.mp member with rfl | inside
        · exact absurd methods nonempty
        · exact ⟨other, inside, nonempty⟩
      obtain ⟨before, path, name, comments, after, split, passed⟩ := ih later
      refine ⟨_ :: before, path, name, comments, after, ?_, List.forall_mem_cons.mpr ⟨own, passed⟩⟩
      rw [List.flatMap_cons, split, interfaceVisits, methods]
      rfl
    | cons method others =>
      let own' :=
        Visit.reads InterfaceOptions.schema interface.name interface.name interface.comments
      refine ⟨[own'], s!"{interface.name}.{method.name}", method.name, method.comments,
        (methodVisits interface.name method).tail ++ others.flatMap (methodVisits interface.name) ++
          rest.flatMap interfaceVisits, ?_, List.forall_mem_singleton.mpr own⟩
      rw [List.flatMap_cons, interfaceVisits, methods, List.flatMap_cons, methodVisits]
      rfl

theorem exists_run_load {source : SourceModule}
    (loads : HasRules rules ∨ ∀ interface ∈ source.interfaces, interface.methods = []) :
    ∃ loaded, (load rules source).run = .ok loaded := by
  have accepted := (accepted_visits_iff source).mpr loads
  rw [load_eq]
  exact ⟨_, (backend.run_visiting_ok_iff scope_ne).mpr ⟨accepted, rfl⟩⟩

theorem run_load_error (missing : ¬ HasRules rules) {source : SourceModule}
    (declared : ∃ interface ∈ source.interfaces, interface.methods ≠ []) :
    (load rules source).run = .error (missingRule rules) := by
  obtain ⟨before, path, name, comments, after, split, passed⟩ := exists_first_methodVisit declared
  rw [load_eq, visits, split]
  exact backend.run_visiting_error scope_ne passed (verify_methodOptions_error missing) path name
    comments _

end Http

namespace Plugin

theorem run_load_http (rules : RuleRegistry) (source : SourceModule) :
    (http.load rules source).run = (Http.load rules source).run.map
      (Loaded.map fun configs => .array (configs.map (·.toJson))) :=
  Loading.run_bind_return _ _

theorem run_load_metrics (rules : RuleRegistry) (source : SourceModule) :
    (metrics.load rules source).run = (Metrics.load rules source).run.map
      (Loaded.map fun configs => .array (configs.map (·.toJson))) :=
  Loading.run_bind_return _ _

/-- The metrics plugin loads every module. The HTTP plugin fails if a rule is missing and there is a
method to load, and for nothing else. -/
theorem run_load_failures (rules : RuleRegistry) (source : SourceModule) :
    (∃ loaded, (metrics.load rules source).run = .ok loaded) ∧
    ((∃ loaded, (http.load rules source).run = .ok loaded) ↔
      Http.HasRules rules ∨ ∀ interface ∈ source.interfaces, interface.methods = []) ∧
    ∀ error, (http.load rules source).run.mapError PluginError.schema = .error error ↔
      ¬ Http.HasRules rules ∧ (∃ interface ∈ source.interfaces, interface.methods ≠ []) ∧
        error = .schema (Http.missingRule rules) := by
  have metricsDone : ∃ loaded, (metrics.load rules source).run = .ok loaded := by
    rw [run_load_metrics, Metrics.run_load]
    exact ⟨_, rfl⟩
  refine ⟨metricsDone, ?_⟩
  rw [run_load_http]
  by_cases loads : Http.HasRules rules ∨ ∀ interface ∈ source.interfaces, interface.methods = []
  · obtain ⟨loaded, done⟩ := Http.exists_run_load loads
    rw [done]
    refine ⟨⟨fun _ => loads, fun _ => ⟨_, rfl⟩⟩, fun error => ⟨fun failed => (nomatch failed), ?_⟩⟩
    rintro ⟨missing, ⟨interface, declared, nonempty⟩, -⟩
    exact absurd (loads.resolve_left missing interface declared) nonempty
  · obtain ⟨missing, declared⟩ := not_or.mp loads
    have declared : ∃ interface ∈ source.interfaces, interface.methods ≠ [] := by
      simpa using declared
    rw [Http.run_load_error missing declared]
    refine ⟨⟨fun ⟨_, done⟩ => (nomatch done), fun able => absurd able loads⟩, fun error => ?_⟩
    constructor
    · rintro ⟨⟩
      exact ⟨missing, declared, rfl⟩
    · rintro ⟨-, -, rfl⟩
      rfl

/-- A module with one method, and registries that have both rules, only the first or none. -/
theorem run_load_failures_one_method :
    let source : SourceModule := ⟨[⟨"Empty", none, [⟨"// @http-default-accept", none⟩], []⟩,
      ⟨"Users", none, [], [⟨"Get", none, [⟨"// @http-method \"", none⟩], [], []⟩]⟩]⟩
    let onlyIn : RuleRegistry := .singleton "in" Rule.required
    (∃ loaded, (http.load .standard source).run = .ok loaded) ∧
    (http.load onlyIn source).run.mapError PluginError.schema =
      .error (.schema (.unknownRule "QueryValue" "name" "required")) ∧
    (http.load ∅ source).run.mapError PluginError.schema =
      .error (.schema (.unknownRule "MethodOptions" "method" "in")) ∧
    ∃ loaded, (metrics.load ∅ source).run = .ok loaded := by
  intro source onlyIn
  have declared : ∃ interface ∈ source.interfaces, interface.methods ≠ [] := by decide
  have lacks : ¬ Http.HasRules onlyIn := by simp [Http.HasRules, onlyIn, TextMap.contains]
  have lacksBoth : ¬ Http.HasRules ∅ := by simp [Http.HasRules, TextMap.contains]
  obtain ⟨-, loads, -⟩ := run_load_failures .standard source
  obtain ⟨-, -, fails⟩ := run_load_failures onlyIn source
  obtain ⟨metricsLoads, -, failsBoth⟩ := run_load_failures ∅ source
  exact ⟨loads.mpr (.inl ⟨rfl, rfl⟩), (fails _).mpr ⟨lacks, declared, rfl⟩,
    (failsBoth _).mpr ⟨lacksBoth, declared, rfl⟩, metricsLoads⟩

end Plugin
end DocOptions
