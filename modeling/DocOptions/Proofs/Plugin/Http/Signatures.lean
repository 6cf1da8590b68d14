import DocOptions.Proofs.Plugin.Http.Partition
import DocOptions.Proofs.Plugin.Strays

/-! Methods that cannot be served. The loader leaves them out and reports each of them once; what
decoding reports has a key, so these failures can be told apart as the ones without. -/

namespace DocOptions.Http

/-- What is wrong with the signature of a method, if anything. -/
def signatureFault? (method : Method) : Option String :=
  if TakesContext method then
    if ReturnsError method then none else some "the last result must be an error"
  else some "the first parameter must be a context"

theorem signatureFault?_eq_none_iff {method : Method} :
    signatureFault? method = none ↔ IsServed method := by
  unfold signatureFault? IsServed
  split <;> simp_all

def signatureFailure? (interface : String) (method : Method) : Option Diagnostic :=
  (signatureFault? method).map fun fault =>
    ⟨.failure, s!"{interface}.{method.name}: invalid method signature, {fault}", none,
      method.position⟩

theorem filterMap_failure_methodVisits (interface : String) (method : Method) :
    (methodVisits interface method).filterMap Visit.failure? =
      (signatureFailure? interface method).toList := by
  have params (path : String) :
      (method.params.map (paramVisit path)).filterMap Visit.failure? = [] := by
    simp [paramVisit]
  have results (path : String) :
      (method.results.map (resultVisit path)).filterMap Visit.failure? = [] := by
    simp [resultVisit]
  rw [methodVisits, signatureFailure?, signatureFault?, List.filterMap_cons_none (by simp)]
  by_cases context : TakesContext method
  · rw [if_pos context, if_pos context, List.filterMap_append, params, List.nil_append]
    by_cases error : ReturnsError method
    · rw [if_pos error, if_pos error]
      exact results _
    · rw [if_neg error, if_neg error]
      rfl
  · rw [if_neg context, if_neg context]
    rfl

theorem filterMap_failure_visits (source : SourceModule) :
    (visits source).filterMap Visit.failure? = source.interfaces.flatMap fun interface =>
      interface.methods.filterMap (signatureFailure? interface.name) := by
  rw [visits, List.filterMap_flatMap]
  congr 1
  funext interface
  rw [interfaceVisits, List.filterMap_cons_none (Visit.failure?_reads _ _ _ _),
    List.filterMap_flatMap, List.filterMap_eq_flatMap_toList]
  congr 1
  funext method
  exact filterMap_failure_methodVisits interface.name method

variable {rules : RuleRegistry}

theorem exists_signatureFailure {method : Method} (refused : ¬IsServed method)
    (interface : String) :
    ∃ d, signatureFailure? interface method = some d ∧ d.isFailure = true := by
  cases fault : signatureFault? method with
  | none => exact absurd (signatureFault?_eq_none_iff.mp fault) refused
  | some reason => exact ⟨_, by rw [signatureFailure?, fault, Option.map_some], rfl⟩

theorem map_var_params (defaults : InterfaceOptions) (method : Method) :
    (methodConfig rules defaults method).params.map (·.var) = method.params.map (·.name) := by
  rw [methodConfig, MethodConfig.of, bindPath_map, List.map_map]
  exact List.map_congr_left fun _ _ => ParamConfig.var_bindSegments _ _

theorem map_var_results (defaults : InterfaceOptions) (method : Method) :
    (methodConfig rules defaults method).results.map (·.var) = method.results.map (·.name) := by
  rw [methodConfig, MethodConfig.of, List.map_map]
  rfl

/-- With its rules registered, the loader returns every interface with the methods that can be
served, and reports one failure without a key for each of the others. -/
theorem run_load_signatures (registered : HasRules rules) (source : SourceModule) :
    ∃ loaded, (load rules source).run = .ok loaded ∧
      List.Forall₂ (fun interface config => config.name = interface.name ∧
          List.Forall₂ (fun method served => served.name = method.name ∧
              served.params.map (·.var) = method.params.map (·.name) ∧
              served.results.map (·.var) = method.results.map (·.name))
            (interface.methods.filter (IsServed ·)) config.methods)
        source.interfaces loaded.value ∧
      loaded.diagnostics.items.filter (·.key.isNone) = (source.interfaces.flatMap fun interface =>
        interface.methods.filterMap (signatureFailure? interface.name)) ∧
      ((∃ interface ∈ source.interfaces, ∃ method ∈ interface.methods, ¬IsServed method) →
        loaded.hasFailures = true) := by
  have keyless : (Visit.outcome backend rules (visits source)).diagnostics.items.filter
      (·.key.isNone) = _ := Visit.keyless_outcome (accepted_visits registered source)
  rw [filterMap_failure_visits] at keyless
  refine ⟨_, run_load registered source, ?_, keyless, ?_⟩
  · change List.Forall₂ _ source.interfaces (source.interfaces.map (interfaceConfig rules))
    rw [List.forall₂_map_right_iff, List.forall₂_same]
    intro interface _
    refine ⟨rfl, ?_⟩
    rw [interfaceConfig, List.forall₂_map_right_iff, List.forall₂_same]
    intro method _
    exact ⟨rfl, map_var_params _ method, map_var_results _ method⟩
  · rintro ⟨interface, declared, method, member, refused⟩
    obtain ⟨d, reported, failure⟩ := exists_signatureFailure refused interface.name
    have found : d ∈ (Visit.outcome backend rules (visits source)).diagnostics.items.filter
        (·.key.isNone) := by
      rw [keyless]
      exact List.mem_flatMap.mpr
        ⟨interface, declared, List.mem_filterMap.mpr ⟨method, member, reported⟩⟩
    exact List.any_eq_true.mpr ⟨d, List.mem_of_mem_filter found, failure⟩

/-- Methods without parameters, without results, and with both faults. -/
theorem run_load_signatures_three_faults :
    let declare (name : String) (isContext isError : Bool) : Variable :=
      ⟨name, "", isContext, isError, [⟨"// @http-type", none⟩]⟩
    let source : SourceModule := ⟨[⟨"Users", none, [], [
      ⟨"Ping", some ⟨"users.go", 4, 2⟩, [], [], [declare "err" false true]⟩,
      ⟨"Get", none, [], [declare "ctx" true false], [declare "err" false true]⟩,
      ⟨"Put", none, [⟨"// @http-form-max-memory much", none⟩], [declare "ctx" true false], []⟩,
      ⟨"Drop", none, [], [], []⟩]⟩]⟩
    ∃ loaded, (load .standard source).run = .ok loaded ∧
      loaded.value.map (fun config => config.methods.map (·.name)) = [["Get"]] ∧
      loaded.diagnostics.items.filter (·.key.isNone) =
        [⟨.failure, "Users.Ping: invalid method signature, the first parameter must be a context",
            none, some ⟨"users.go", 4, 2⟩⟩,
          ⟨.failure, "Users.Put: invalid method signature, the last result must be an error", none,
            none⟩,
          ⟨.failure, "Users.Drop: invalid method signature, the first parameter must be a context",
            none, none⟩] ∧
      loaded.hasFailures = true := by
  intro declare source
  have registered : HasRules .standard := ⟨rfl, rfl⟩
  obtain ⟨loaded, done, -, keyless, failed⟩ := run_load_signatures registered source
  refine ⟨loaded, done, ?_, keyless.trans (by decide +kernel), failed (by decide)⟩
  cases (run_load registered source).symm.trans done
  change (configs .standard source).map _ = _
  decide +kernel

end DocOptions.Http
