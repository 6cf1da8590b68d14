import DocOptions.Proofs.Plugin.Http.Groups
import DocOptions.Proofs.Plugin.Http.PathSegments
import DocOptions.Proofs.Plugin.Http.Visits
import Mathlib.Data.List.Forall2

/-! What the loader makes of the parameters and results of a method: each has the options that its
comments give it, unless the path of the method ties it, and each that travels is in one group. -/

namespace DocOptions.Http

open Text

/-- The record that the comments above a declaration are decoded to. -/
def DecodesTo {shape : Shape} (rules : RuleRegistry) (schema : Schema shape) (name : String)
    (comments : List RawComment) (record : shape.Record) : Prop :=
  ∃ decoded, schema.decode rules backend.scope (DocComments.ofRaw name comments).index =
    .ok decoded ∧ decoded.value = record

theorem decodesTo_reading {shape : Shape} {rules : RuleRegistry} {schema : Schema shape}
    (accepted : schema.verify rules = .ok ()) (name : String) (comments : List RawComment) :
    DecodesTo rules schema name comments (backend.reading rules schema name comments).value :=
  ⟨_, Schema.decodeInto_of_accepted accepted scope_ne _ _, rfl⟩

/-- A declared parameter and what became of it below a path, given the options it was decoded to. -/
structure ParamConfig.Settles (path : String) (declared : Variable) (own : ParamOptions)
    (param : ParamConfig) : Prop where
  var : param.var = declared.name
  typeName : param.typeName = declared.typeName
  index (j : Nat) : param.pathIndex = some j ↔
    IsLastAt (":" ++ Naming.lowerCamel declared.name) (cut path '/') j
  tied (j : Nat) : param.pathIndex = some j →
    param.options.httpType = "path" ∧ param.options.required = true ∧
      param.pathName = some (Naming.lowerCamel declared.name)
  free : param.pathIndex = none →
    param.options.httpType = (if own.httpType = "" then "body" else own.httpType) ∧
      param.options.required = own.required ∧ param.pathName = none

/-- A declared result and what became of it, given the options it was decoded to. -/
structure ResultConfig.Settles (declared : Variable) (own : ResultOptions)
    (result : ResultConfig) : Prop where
  var : result.var = declared.name
  typeName : result.typeName = declared.typeName
  options : result.options = own

/-- A method whose parameters and results are those declared, shared out over groups. -/
structure MethodConfig.SharesOut (rules : RuleRegistry) (method : Method) (config : MethodConfig) :
    Prop where
  path : ∃ record, DecodesTo rules MethodOptions.schema method.name method.comments record ∧
    config.options.path = (MethodOptions.ofRecord record).path
  params : List.Forall₂ (fun declared param => ∃ record,
      DecodesTo rules ParamOptions.schema declared.name declared.comments record ∧
        param.Settles config.options.path declared (.ofRecord record))
    method.params config.params
  queryParams : config.queryParams = namesBy (!·.isContext) (· == "query") method.params
    (config.params.map (·.options.httpType))
  headerParams : config.headerParams = namesBy (!·.isContext) (· == "header") method.params
    (config.params.map (·.options.httpType))
  cookieParams : config.cookieParams = namesBy (!·.isContext) (· == "cookie") method.params
    (config.params.map (·.options.httpType))
  pathParams : config.pathParams = namesBy (!·.isContext) (· == "path") method.params
    (config.params.map (·.options.httpType))
  bodyParams : config.bodyParams =
    namesBy (!·.isContext) (fun type => type ∉ ["query", "header", "cookie", "path"]) method.params
      (config.params.map (·.options.httpType))
  eachParam : (config.queryParams ++ config.headerParams ++ config.cookieParams ++
      config.pathParams ++ config.bodyParams).Perm
    ((method.params.filter (!·.isContext)).map (·.name))
  results : List.Forall₂ (fun declared result => ∃ record,
      DecodesTo rules ResultOptions.schema declared.name declared.comments record ∧
        result.Settles declared (.ofRecord record))
    method.results config.results
  headerResults : config.headerResults = namesBy (!·.isError) (· == "header") method.results
    (config.results.map (·.options.httpType))
  cookieResults : config.cookieResults = namesBy (!·.isError) (· == "cookie") method.results
    (config.results.map (·.options.httpType))
  bodyResults : config.bodyResults =
    namesBy (!·.isError) (fun type => type ∉ ["header", "cookie"]) method.results
      (config.results.map (·.options.httpType))
  eachResult : (config.headerResults ++ config.cookieResults ++ config.bodyResults).Perm
    ((method.results.filter (!·.isError)).map (·.name))

variable {rules : RuleRegistry}

theorem settles_paramConfig (path : String) (declared : Variable) :
    ((paramConfig rules declared).bindSegments (cut path '/')).Settles path declared
      (.ofRecord
        (backend.reading rules ParamOptions.schema declared.name declared.comments).value) := by
  have index := (paramConfig rules declared).pathIndex_bindSegments rfl (cut path '/')
  rcases (paramConfig rules declared).bindSegments_cases (cut path '/') with
    ⟨-, kept⟩ | ⟨last, -, tied⟩
  · rw [kept] at index ⊢
    exact ⟨rfl, rfl, index, fun _ placed => (nomatch placed),
      fun _ => ⟨httpType_of _ _, rfl, rfl⟩⟩
  · rw [tied] at index ⊢
    exact ⟨rfl, rfl, index, fun _ _ => ⟨rfl, rfl, rfl⟩, fun placed => nomatch placed⟩

theorem path_complete (options : MethodOptions) (defaults : InterfaceOptions) :
    (options.complete defaults).path = options.path := rfl

theorem sharesOut_of (method : Method) (options : MethodOptions) {params : List ParamConfig}
    {results : List ResultConfig}
    (path : ∃ record, DecodesTo rules MethodOptions.schema method.name method.comments record ∧
      options.path = (MethodOptions.ofRecord record).path)
    (paramsAligned : params = method.params.map fun declared =>
      (paramConfig rules declared).bindSegments (cut options.path '/'))
    (resultsAligned : results = method.results.map (resultConfig rules))
    (registered : HasRules rules) :
    (MethodConfig.of method options params results).SharesOut rules method := by
  have named (declared : Variable) :
      ((paramConfig rules declared).bindSegments (cut options.path '/')).var = declared.name :=
    ParamConfig.var_bindSegments _ _
  have byType {carrier : Carrier} {carried : String → Bool}
      (same : ∀ type, (Carrier.ofName type == carrier) = carried type) :=
    paramsBy_eq named paramsAligned same
  have resultsByType {carrier : Carrier} {carried : String → Bool}
      (same : ∀ type, (resultCarrier type == carrier) = carried type) :=
    resultsBy_eq (fun _ => rfl) resultsAligned same
  exact {
    path
    params := by
      rw [MethodConfig.of, paramsAligned, List.forall₂_map_right_iff, List.forall₂_same]
      intro declared _
      exact ⟨_, decodesTo_reading (verify_paramOptions registered) _ _,
        settles_paramConfig _ declared⟩
    queryParams := byType fun type => (ofName_beq type).1
    headerParams := byType fun type => (ofName_beq type).2.1
    cookieParams := byType fun type => (ofName_beq type).2.2.1
    pathParams := byType fun type => (ofName_beq type).2.2.2.1
    bodyParams := byType fun type => (ofName_beq type).2.2.2.2
    eachParam := perm_paramsBy named paramsAligned
    results := by
      rw [MethodConfig.of, resultsAligned, List.forall₂_map_right_iff, List.forall₂_same]
      intro declared _
      exact ⟨_, decodesTo_reading (verify_resultOptions registered) _ _, rfl, rfl, rfl⟩
    headerResults := resultsByType fun type => (resultCarrier_beq type).1
    cookieResults := resultsByType fun type => (resultCarrier_beq type).2.1
    bodyResults := resultsByType fun type => (resultCarrier_beq type).2.2
    eachResult := perm_resultsBy (fun _ => rfl) resultsAligned }

theorem sharesOut_methodConfig (registered : HasRules rules) (defaults : InterfaceOptions)
    (method : Method) : (methodConfig rules defaults method).SharesOut rules method := by
  -- The path is that of the decoded options: completing them leaves it alone.
  have accepted := verify_methodOptions_iff.mpr registered
  exact sharesOut_of method (methodOptions rules defaults method)
    ⟨_, decodesTo_reading accepted _ _, path_complete _ _⟩ (bindPath_map _ _ _) rfl registered

/-- A module with a method that the loader comes to the end of has the rules of the loader. -/
theorem hasRules_of_run_load {source : SourceModule} {loaded : Loaded (List InterfaceConfig)}
    (done : (load rules source).run = .ok loaded) {interface : Interface}
    (declared : interface ∈ source.interfaces) {method : Method}
    (member : method ∈ interface.methods) : HasRules rules := by
  rw [load_eq, backend.run_visiting_ok_iff scope_ne] at done
  exact hasRules_of_accepted done.1 declared member

/-- The methods of a loaded module are those that can be served, each with the parameters and
results that it declares, shared out over groups. -/
theorem run_load_partitions {source : SourceModule} {loaded : Loaded (List InterfaceConfig)}
    (done : (load rules source).run = .ok loaded) :
    List.Forall₂ (fun interface config => List.Forall₂ (MethodConfig.SharesOut rules)
        (interface.methods.filter (IsServed ·)) config.methods)
      source.interfaces loaded.value := by
  have value : loaded.value = source.interfaces.map (interfaceConfig rules) := by
    rw [load_eq, backend.run_visiting_ok_iff scope_ne] at done
    rw [done.2]
    rfl
  rw [value, List.forall₂_map_right_iff, List.forall₂_same]
  intro interface declared
  rw [interfaceConfig, List.forall₂_map_right_iff, List.forall₂_same]
  intro method member
  have registered := hasRules_of_run_load done declared (List.mem_of_mem_filter member)
  exact sharesOut_methodConfig registered _ method

/-- A parameter that the path names twice, against its own options. -/
theorem run_load_partitions_named_twice :
    let declare (name text : String) (isContext isError : Bool) : Variable :=
      ⟨name, "", isContext, isError, [⟨text, none⟩]⟩
    let source : SourceModule := ⟨[⟨"Users", none, [], [⟨"Get", none,
      [⟨"// @http-path /:userId/of/:userId", none⟩],
      [declare "ctx" "" true false, declare "user_id" "// @http-type header" false false,
        declare "filter" "// @http-type query" false false, declare "page" "" false false],
      [declare "total" "// @http-type header" false false, declare "err" "" false true]⟩]⟩]⟩
    ∃ loaded, (load .standard source).run = .ok loaded ∧
      List.Forall₂ (fun interface config => List.Forall₂ (MethodConfig.SharesOut .standard)
        (interface.methods.filter (IsServed ·)) config.methods) source.interfaces loaded.value ∧
      loaded.value.flatMap (fun config => config.methods.map fun method =>
        (method.params.map (·.pathIndex), method.pathParams, method.queryParams,
          method.bodyParams, method.headerResults)) =
        [([none, some 3, none, none], ["user_id"], ["filter"], ["page"], ["total"])] := by
  intro declare source
  have registered : HasRules .standard := ⟨rfl, rfl⟩
  have done := run_load registered source
  refine ⟨_, done, run_load_partitions done, ?_⟩
  change (configs .standard source).flatMap _ = _
  decide +kernel

end DocOptions.Http
