import DocOptions.Plugin.Http.Load
import DocOptions.Proofs.Plugin.Visits
import DocOptions.Proofs.Schema.RuleNames

/-! The walk of the HTTP loader, and what it makes of the declarations. How far the walk gets into a
method depends on the signature of the method alone. -/

namespace DocOptions.Http

/-- The first parameter of a method is a context. -/
def TakesContext (method : Method) : Prop :=
  ∃ first rest, method.params = first :: rest ∧ first.isContext = true

/-- The last result of a method is an error. -/
def ReturnsError (method : Method) : Prop :=
  ∃ others last, method.results = others ++ [last] ∧ last.isError = true

theorem startsWithContext_iff {method : Method} :
    startsWithContext method = true ↔ TakesContext method := by
  unfold startsWithContext TakesContext
  cases method.params <;> simp

theorem endsWithError_iff {method : Method} :
    endsWithError method = true ↔ ReturnsError method := by
  unfold endsWithError ReturnsError
  cases method.results using List.reverseRecOn with
  | nil => simp
  | append_singleton others last => simp

instance : DecidablePred TakesContext := fun _ => decidable_of_iff _ startsWithContext_iff

instance : DecidablePred ReturnsError := fun _ => decidable_of_iff _ endsWithError_iff

/-- A method that can be served takes a context first and returns an error last. -/
def IsServed (method : Method) : Prop :=
  TakesContext method ∧ ReturnsError method

instance : DecidablePred IsServed := fun _ => inferInstanceAs (Decidable (_ ∧ _))

variable (rules : RuleRegistry)

def refusalVisit (path : String) (method : Method) (reason : String) : Visit :=
  .fails s!"{path}: invalid method signature, {reason}" method.position

def paramVisit (path : String) (param : Variable) : Visit :=
  .reads ParamOptions.schema s!"{path}.{param.name}" param.name param.comments

def resultVisit (path : String) (result : Variable) : Visit :=
  .reads ResultOptions.schema s!"{path}.{result.name}" result.name result.comments

def methodVisits (interface : String) (method : Method) : List Visit :=
  let path := s!"{interface}.{method.name}"
  .reads MethodOptions.schema path method.name method.comments ::
    if TakesContext method then
      method.params.map (paramVisit path) ++
        if ReturnsError method then method.results.map (resultVisit path)
        else [refusalVisit path method "the last result must be an error"]
    else [refusalVisit path method "the first parameter must be a context"]

def interfaceVisits (interface : Interface) : List Visit :=
  .reads InterfaceOptions.schema interface.name interface.name interface.comments ::
    interface.methods.flatMap (methodVisits interface.name)

/-- The visits of a whole module. -/
def visits (source : SourceModule) : List Visit :=
  source.interfaces.flatMap interfaceVisits

section

variable {β : Type} (f : Visit → List β)

theorem flatMap_methodVisits (interface : String) (method : Method) :
    let path := s!"{interface}.{method.name}"
    (methodVisits interface method).flatMap f =
      f (.reads MethodOptions.schema path method.name method.comments) ++
        if TakesContext method then
          (method.params.flatMap fun param => f (paramVisit path param)) ++
            if ReturnsError method then
              method.results.flatMap fun result => f (resultVisit path result)
            else f (refusalVisit path method "the last result must be an error")
        else f (refusalVisit path method "the first parameter must be a context") := by
  rw [methodVisits, List.flatMap_cons]
  congr 1
  split
  · rw [List.flatMap_append, List.flatMap_map]
    congr 1
    split
    · exact List.flatMap_map _ _ _
    · exact List.flatMap_singleton ..
  · exact List.flatMap_singleton ..

/-- What the visits of a module come to, declaration by declaration. -/
theorem flatMap_visits (source : SourceModule) :
    (visits source).flatMap f = source.interfaces.flatMap fun interface =>
      f (.reads InterfaceOptions.schema interface.name interface.name interface.comments) ++
        interface.methods.flatMap fun method =>
          let path := s!"{interface.name}.{method.name}"
          f (.reads MethodOptions.schema path method.name method.comments) ++
            if TakesContext method then
              (method.params.flatMap fun param => f (paramVisit path param)) ++
                if ReturnsError method then
                  method.results.flatMap fun result => f (resultVisit path result)
                else f (refusalVisit path method "the last result must be an error")
            else f (refusalVisit path method "the first parameter must be a context") := by
  rw [visits, List.flatMap_assoc]
  simp only [interfaceVisits, List.flatMap_cons, List.flatMap_assoc, flatMap_methodVisits]

end

def paramConfig (param : Variable) : ParamConfig :=
  .of param (.ofRecord (backend.reading rules ParamOptions.schema param.name param.comments).value)

def resultConfig (result : Variable) : ResultConfig :=
  .of result
    (.ofRecord (backend.reading rules ResultOptions.schema result.name result.comments).value)

def methodOptions (defaults : InterfaceOptions) (method : Method) : MethodOptions :=
  MethodOptions.complete
    (.ofRecord (backend.reading rules MethodOptions.schema method.name method.comments).value)
    defaults

/-- A method with its parameters and results grouped. -/
def MethodConfig.of (method : Method) (options : MethodOptions) (params : List ParamConfig)
    (results : List ResultConfig) : MethodConfig where
  name := method.name
  options
  context := lastNamed (·.isContext) method.params
  error := lastNamed (·.isError) method.results
  params
  results
  bodyParams := paramsBy .body method.params params
  queryParams := paramsBy .query method.params params
  headerParams := paramsBy .header method.params params
  cookieParams := paramsBy .cookie method.params params
  pathParams := paramsBy .path method.params params
  bodyResults := resultsBy .body method.results results
  headerResults := resultsBy .header method.results results
  cookieResults := resultsBy .cookie method.results results

def methodConfig (defaults : InterfaceOptions) (method : Method) : MethodConfig :=
  let options := methodOptions rules defaults method
  .of method options (bindPath options.path (method.params.map (paramConfig rules)))
    (method.results.map (resultConfig rules))

def interfaceConfig (interface : Interface) : InterfaceConfig :=
  let options : InterfaceOptions :=
    .ofRecord
      (backend.reading rules InterfaceOptions.schema interface.name interface.comments).value
  ⟨interface.name, options,
    (interface.methods.filter (IsServed ·)).map (methodConfig rules options)⟩

/-- What the loader makes of a module. -/
def configs (source : SourceModule) : List InterfaceConfig :=
  source.interfaces.map (interfaceConfig rules)

theorem scope_ne : backend.scope ≠ "" := by decide

theorem loadParam_eq (path : String) (param : Variable) :
    loadParam rules path param =
      backend.visiting rules [paramVisit path param] (paramConfig rules param) := by
  rw [loadParam, backend.decode_eq_visiting rules scope_ne]
  exact backend.visiting_return rules _ _ _

theorem loadResult_eq (path : String) (result : Variable) :
    loadResult rules path result =
      backend.visiting rules [resultVisit path result] (resultConfig rules result) := by
  rw [loadResult, backend.decode_eq_visiting rules scope_ne]
  exact backend.visiting_return rules _ _ _

theorem refused_eq (path : String) (method : Method) (reason : String) :
    (do
      invalidSignature path method reason
      return (none : Option MethodConfig)) =
      backend.visiting rules [refusalVisit path method reason] none := by
  have reported : invalidSignature path method reason =
      backend.visiting rules [refusalVisit path method reason] () :=
    backend.perform_eq_visiting rules (refusalVisit path method reason)
  rw [reported]
  exact backend.visiting_return rules _ _ fun _ => none

theorem loadMethod_eq (interface : String) (defaults : InterfaceOptions) (method : Method) :
    loadMethod rules interface defaults method =
      backend.visiting rules (methodVisits interface method)
        (if IsServed method then some (methodConfig rules defaults method) else none) := by
  rw [loadMethod, methodVisits, backend.decode_eq_visiting rules scope_ne]
  -- The signature is looked at twice, with the parameters read in between.
  by_cases context : TakesContext method
  · rw [if_pos context]
    refine backend.visiting_bind rules ?_
    simp only [startsWithContext_iff.mpr context, Bool.not_true, Bool.false_eq_true, if_false]
    rw [backend.mapM_visiting_each rules (loadParam_eq rules _)]
    by_cases error : ReturnsError method
    · rw [if_pos error, if_pos ⟨context, error⟩]
      refine backend.visiting_bind rules ?_
      simp only [endsWithError_iff.mpr error, Bool.not_true, Bool.false_eq_true, if_false]
      rw [backend.mapM_visiting_each rules (loadResult_eq rules _)]
      exact backend.visiting_return rules _ _ _
    · rw [if_neg error, if_neg fun served => error served.2]
      refine backend.visiting_bind rules ?_
      rw [Bool.eq_false_iff.mpr (mt endsWithError_iff.mp error)]
      exact refused_eq rules _ method _
  · rw [if_neg context, if_neg fun served => context served.1]
    refine backend.visiting_bind rules ?_
    rw [Bool.eq_false_iff.mpr (mt startsWithContext_iff.mp context)]
    exact refused_eq rules _ method _

theorem loadInterface_eq (interface : Interface) :
    loadInterface rules interface =
      backend.visiting rules (interfaceVisits interface) (interfaceConfig rules interface) := by
  rw [loadInterface, backend.decode_eq_visiting rules scope_ne]
  refine backend.visiting_bind rules ?_
  simp only [backend.mapM_visiting rules (loadMethod_eq rules interface.name _)]
  rw [backend.visiting_return, List.filterMap_map, Function.id_comp]
  congr 1
  rw [interfaceConfig, ← List.filterMap_eq_map, List.filterMap_filter]
  simp only [decide_eq_true_eq]
  rfl

/-- The loader makes the visits of a module and returns its configuration. -/
theorem load_eq (source : SourceModule) :
    load rules source = backend.visiting rules (visits source) (configs rules source) :=
  backend.mapM_visiting rules (loadInterface_eq rules) source.interfaces

/-- The rules that fields of the loader's schemas name. -/
def HasRules : Prop :=
  rules.contains "in" = true ∧ rules.contains "required" = true

variable {rules}

theorem verify_methodOptions_iff : MethodOptions.schema.verify rules = .ok () ↔ HasRules rules := by
  have standard : MethodOptions.schema.verify .standard = .ok () := rfl
  have names : MethodOptions.schema.table.ruleNames = ["in", "required"] := rfl
  rw [Schema.verify_ok_iff_registered standard, names, HasRules]
  simp

theorem verify_interfaceOptions : InterfaceOptions.schema.verify rules = .ok () := by
  have standard : InterfaceOptions.schema.verify .standard = .ok () := rfl
  exact (Schema.verify_ok_iff_registered standard rules).mpr fun _ member => nomatch member

theorem verify_paramOptions (registered : HasRules rules) :
    ParamOptions.schema.verify rules = .ok () := by
  have standard : ParamOptions.schema.verify .standard = .ok () := rfl
  exact (Schema.verify_ok_iff_registered standard rules).mpr
    (List.forall_mem_singleton.mpr registered.1)

theorem verify_resultOptions (registered : HasRules rules) :
    ResultOptions.schema.verify rules = .ok () := by
  have standard : ResultOptions.schema.verify .standard = .ok () := rfl
  exact (Schema.verify_ok_iff_registered standard rules).mpr
    (List.forall_mem_singleton.mpr registered.1)

/-- The kinds of visits that the loader makes. -/
theorem forall_visits {P : Visit → Prop} (source : SourceModule)
    (interface : ∀ path name comments, P (.reads InterfaceOptions.schema path name comments))
    (method : ∀ path name comments, P (.reads MethodOptions.schema path name comments))
    (param : ∀ path name comments, P (.reads ParamOptions.schema path name comments))
    (result : ∀ path name comments, P (.reads ResultOptions.schema path name comments))
    (refusal : ∀ message position, P (.fails message position)) :
    ∀ visit ∈ visits source, P visit := by
  intro visit member
  obtain ⟨declared, -, inside⟩ := List.mem_flatMap.mp member
  rcases List.mem_cons.mp inside with rfl | inside
  · exact interface ..
  · obtain ⟨served, -, inside⟩ := List.mem_flatMap.mp inside
    have params : ∀ visit ∈ served.params.map (paramVisit s!"{declared.name}.{served.name}"),
        P visit := List.forall_mem_map.mpr fun _ _ => param ..
    have results : ∀ visit ∈ served.results.map (resultVisit s!"{declared.name}.{served.name}"),
        P visit := List.forall_mem_map.mpr fun _ _ => result ..
    rcases List.mem_cons.mp inside with rfl | inside
    · exact method ..
    · split at inside
      · rcases List.mem_append.mp inside with inside | inside
        · exact params visit inside
        · split at inside
          · exact results visit inside
          · exact List.mem_singleton.mp inside ▸ refusal ..
      · exact List.mem_singleton.mp inside ▸ refusal ..

theorem accepted_visits (registered : HasRules rules) (source : SourceModule) :
    ∀ visit ∈ visits source, visit.Accepted rules :=
  forall_visits source (fun _ _ _ => verify_interfaceOptions)
    (fun _ _ _ => verify_methodOptions_iff.mpr registered)
    (fun _ _ _ => verify_paramOptions registered) (fun _ _ _ => verify_resultOptions registered)
    fun _ _ => trivial

/-- The options of a method are accepted with the rules of the loader alone. -/
theorem hasRules_of_accepted {source : SourceModule}
    (accepted : ∀ visit ∈ visits source, visit.Accepted rules) {interface : Interface}
    (declared : interface ∈ source.interfaces) {method : Method}
    (member : method ∈ interface.methods) : HasRules rules := by
  let visit := Visit.reads MethodOptions.schema s!"{interface.name}.{method.name}" method.name
    method.comments
  have visited : visit ∈ visits source := by
    refine List.mem_flatMap.mpr ⟨interface, declared, List.mem_cons_of_mem _ ?_⟩
    exact List.mem_flatMap.mpr ⟨method, member, List.mem_cons_self⟩
  exact verify_methodOptions_iff.mp (accepted visit visited)

/-- With its rules registered, the loader always comes to an end. -/
theorem run_load (registered : HasRules rules) (source : SourceModule) :
    (load rules source).run =
      .ok ((Visit.outcome backend rules (visits source)).map fun _ => configs rules source) := by
  rw [load_eq]
  exact (backend.run_visiting_ok_iff scope_ne).mpr ⟨accepted_visits registered source, rfl⟩

end DocOptions.Http
