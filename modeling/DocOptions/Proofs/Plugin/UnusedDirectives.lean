import DocOptions.Proofs.Plugin.Http.Visits
import DocOptions.Proofs.Plugin.MetricsVisits
import DocOptions.Proofs.Plugin.Strays

/-! The warnings of a whole run. They tell which directives the walk of a loader came upon and left
unread, so they show how far the walk got. -/

namespace DocOptions

/-- The directives that the HTTP loader leaves unread above a method, its parameters and its
results. -/
def Http.straysOf (method : Method) : List Occurrence :=
  let scope := Http.backend.scope
  straysAbove scope (MethodOptions.table.keys scope) method.name method.comments ++
    if TakesContext method then
      (method.params.flatMap fun param =>
        straysAbove scope (ParamOptions.table.keys scope) param.name param.comments) ++
      if ReturnsError method then
        method.results.flatMap fun result =>
          straysAbove scope (ResultOptions.table.keys scope) result.name result.comments
      else []
    else []

def Http.strays (source : SourceModule) : List Occurrence :=
  let scope := Http.backend.scope
  source.interfaces.flatMap fun interface =>
    straysAbove scope (InterfaceOptions.table.keys scope) interface.name interface.comments ++
      interface.methods.flatMap straysOf

def Metrics.strays (source : SourceModule) : List Occurrence :=
  let scope := Metrics.backend.scope
  source.interfaces.flatMap fun interface =>
    straysAbove scope [] interface.name interface.comments ++
      interface.methods.flatMap fun method =>
        straysAbove scope (MethodOptions.table.keys scope) method.name method.comments

theorem Http.strays_visits (source : SourceModule) :
    (visits source).flatMap (Visit.strays Http.backend.scope) = strays source :=
  flatMap_visits _ source

theorem Metrics.strays_visits (source : SourceModule) :
    (visits source).flatMap (Visit.strays Metrics.backend.scope) = strays source := by
  rw [visits, strays, List.flatMap_assoc]
  congr 1
  funext interface
  rw [interfaceVisits, List.flatMap_cons, List.flatMap_map]
  rfl

theorem Backend.unusedWarning_eq {backend : Backend} {told : String}
    (names : s!": annotation is not used by the {backend.name} plugin" = told)
    (stray : Occurrence) :
    backend.unusedWarning stray =
      ⟨.warning, s!"{stray.key}{told}", some stray.key, some stray.position⟩ := by
  rw [← names]
  simp only [Backend.unusedWarning, toString, String.append_assoc]

/-- A run warns of each directive that its loader came upon and left unread, once and in the order
of the source. The warning has the key of the directive and stands at its place. -/
theorem run_load_warnings {rules : RuleRegistry} (registered : Http.HasRules rules)
    (source : SourceModule) :
    (∃ loaded, (Http.load rules source).run = .ok loaded ∧
      loaded.diagnostics.warnings = (Http.strays source).map fun stray =>
        ⟨.warning, s!"{stray.key}: annotation is not used by the http plugin", some stray.key,
          some stray.position⟩) ∧
    ∃ loaded, (Metrics.load rules source).run = .ok loaded ∧
      loaded.diagnostics.warnings = (Metrics.strays source).map fun stray =>
        ⟨.warning, s!"{stray.key}: annotation is not used by the metrics-middleware plugin",
          some stray.key, some stray.position⟩ := by
  constructor
  · have warned :
        (Visit.outcome Http.backend rules (Http.visits source)).diagnostics.warnings =
          (Http.strays source).map Http.backend.unusedWarning := by
      rw [← Http.strays_visits]
      exact Visit.warnings_outcome (Http.accepted_visits registered source)
    exact ⟨_, Http.run_load registered source,
      warned.trans (List.map_congr_left fun stray _ => Backend.unusedWarning_eq rfl stray)⟩
  · have warned :
        (Visit.outcome Metrics.backend rules (Metrics.visits source)).diagnostics.warnings =
          (Metrics.strays source).map Metrics.backend.unusedWarning := by
      rw [← Metrics.strays_visits]
      exact Visit.warnings_outcome (Metrics.accepted_visits source)
    exact ⟨_, Metrics.run_load source,
      warned.trans (List.map_congr_left fun stray _ => Backend.unusedWarning_eq rfl stray)⟩

/-- The second method has no context, so its parameter is not come upon; the first has no error, so
its result is not. -/
theorem run_load_warnings_half_read :
    let declare (name text : String) (isContext : Bool) : Variable :=
      ⟨name, "", isContext, false, [⟨text, none⟩]⟩
    let line (number : UInt64) : Position := ⟨"users.go", number, 1⟩
    let source : SourceModule := ⟨[⟨"Users", none,
      [⟨"// @metrics-skip", some (line 1)⟩, ⟨"@http", some (line 2)⟩], [
      ⟨"Get", none, [⟨"// @metrics-skip", some (line 4)⟩, ⟨"// @http-openapi", some (line 5)⟩],
        [declare "ctx" "// @http-path /users" true], [declare "user" "@http-path" false]⟩,
      ⟨"Put", none, [⟨"// @http-wrong", some (line 7)⟩, ⟨"// @https", some (line 8)⟩],
        [declare "user" "// @http-path" false], []⟩]⟩]⟩
    (∃ loaded, (Http.load .standard source).run = .ok loaded ∧
      loaded.diagnostics.warnings =
        [⟨.warning, "http: annotation is not used by the http plugin", some "http", some (line 2)⟩,
          ⟨.warning, "http-openapi: annotation is not used by the http plugin",
            some "http-openapi", some (line 5)⟩,
          ⟨.warning, "http-path: annotation is not used by the http plugin", some "http-path",
            some .unknown⟩,
          ⟨.warning, "http-wrong: annotation is not used by the http plugin", some "http-wrong",
            some (line 7)⟩]) ∧
    ∃ loaded, (Metrics.load .standard source).run = .ok loaded ∧
      loaded.diagnostics.warnings =
        [⟨.warning, "metrics-skip: annotation is not used by the metrics-middleware plugin",
            some "metrics-skip", some (line 1)⟩] := by
  intro declare line source
  have registered : Http.HasRules .standard := ⟨rfl, rfl⟩
  obtain ⟨⟨http, doneHttp, warned⟩, metrics, doneMetrics, warned'⟩ :=
    run_load_warnings registered source
  constructor
  · refine ⟨http, doneHttp, ?_⟩
    rw [warned]
    decide +kernel
  · refine ⟨metrics, doneMetrics, ?_⟩
    rw [warned']
    decide +kernel

end DocOptions
