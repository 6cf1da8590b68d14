import DocOptions.Naming.Format
import DocOptions.Plugin.Http.Config
import DocOptions.Plugin.Loading
import DocOptions.Source.Model
import DocOptions.Text.Pieces

/-! Loading the options of the HTTP generator. Options that a method leaves open are filled in, and
its parameters and results are grouped by how they travel. -/

namespace DocOptions.Http

open Text

def backend : Backend := ⟨"http", "http"⟩

/-- Thirty-two mebibytes. -/
def defaultFormMaxMemory : Int := 33554432

/-- How a parameter or result travels. -/
inductive Carrier
  | body
  | query
  | header
  | cookie
  | path
  deriving DecidableEq

/-- The carrier that a directive names; everything else travels in the body. -/
def Carrier.ofName (name : String) : Carrier :=
  match name with
  | "query" => query
  | "header" => header
  | "cookie" => cookie
  | "path" => path
  | _ => body

/-- The parts of a path; no path has none. -/
def WrapOptions.split (o : WrapOptions) : WrapOptions :=
  if o.path.isEmpty then o else { o with parts := cut o.path '.' }

/-- What an interface says about content types, where a method says nothing. -/
def DefaultOptions.inherit (own inherited : DefaultOptions) : DefaultOptions where
  contentType := if own.contentType.isEmpty then inherited.contentType else own.contentType
  accept := if own.accept.isEmpty then inherited.accept else own.accept

/-- The options of a method with everything filled in that was left open. -/
def MethodOptions.complete (o : MethodOptions) (interface : InterfaceOptions) : MethodOptions :=
  { o with
    formMaxMemory := if o.formMaxMemory = 0 then defaultFormMaxMemory else o.formMaxMemory
    default := o.default.inherit interface.default
    wrapRequest := o.wrapRequest.split
    wrapResponse := o.wrapResponse.split }

/-- A parameter with its options; one without a carrier travels in the body. -/
def ParamConfig.of (param : Variable) (options : ParamOptions) : ParamConfig where
  var := param.name
  typeName := param.typeName
  name := Naming.wireName options.name.value param.name options.name.format
  options :=
    { options with httpType := if options.httpType.isEmpty then "body" else options.httpType }
  pathIndex := none
  pathName := none

/-- Ties a parameter to the segment of a path that is a colon and the parameter's name in camel
case. -/
def ParamConfig.bindSegment (param : ParamConfig) (segment : String) (index : Nat) : ParamConfig :=
  let name := Naming.lowerCamel param.var
  if segment = ":" ++ name then
    { param with
      options := { param.options with httpType := "path", required := true }
      pathIndex := some index
      pathName := some name }
  else param

/-- Ties parameters to the segments of a path, from left to right. -/
def bindPath (path : String) (params : List ParamConfig) : List ParamConfig :=
  (cut path '/').zipIdx.foldl (fun params (segment, index) =>
    params.map (·.bindSegment segment index)) params

/-- The names of the parameters that travel by a carrier. Contexts do not travel. -/
def paramsBy (carrier : Carrier) (declared : List Variable) (params : List ParamConfig) :
    List String :=
  ((params.zip declared).filter fun (param, var) =>
    !var.isContext && Carrier.ofName param.options.httpType == carrier).map (·.1.var)

def ResultConfig.of (result : Variable) (options : ResultOptions) : ResultConfig where
  var := result.name
  typeName := result.typeName
  name := Naming.wireName options.name.value result.name options.name.format
  options

/-- The carrier of a result: a header or a cookie if a directive names it, else the body. -/
def resultCarrier (httpType : String) : Carrier :=
  match Carrier.ofName httpType with
  | .header => .header
  | .cookie => .cookie
  | _ => .body

/-- The names of the results that travel by a carrier. Errors do not travel. -/
def resultsBy (carrier : Carrier) (declared : List Variable) (results : List ResultConfig) :
    List String :=
  ((results.zip declared).filter fun (result, var) =>
    !var.isError && resultCarrier result.options.httpType == carrier).map (·.1.var)

/-- The name of the last variable with a property. -/
def lastNamed (property : Variable → Bool) (vars : List Variable) : Option String :=
  (vars.filter property).getLast?.map (·.name)

variable (rules : RuleRegistry)

def loadParam (path : String) (param : Variable) : Loading ParamConfig := do
  let options ← backend.decode ParamOptions.schema rules s!"{path}.{param.name}" param.name
    param.comments
  return .of param (.ofRecord options)

def loadResult (path : String) (result : Variable) : Loading ResultConfig := do
  let options ← backend.decode ResultOptions.schema rules s!"{path}.{result.name}" result.name
    result.comments
  return .of result (.ofRecord options)

/-- Reports that a method cannot be served. -/
def invalidSignature (path : String) (method : Method) (reason : String) : Loading Unit :=
  .report ⟨.failure, s!"{path}: invalid method signature, {reason}", none, method.position⟩

def startsWithContext (method : Method) : Bool :=
  method.params.head?.any (·.isContext)

def endsWithError (method : Method) : Bool :=
  method.results.getLast?.any (·.isError)

/-- Loads a method, unless it does not start with a context or does not end with an error. The
parameters of a method that only lacks the error are read too. -/
def loadMethod (interface : String) (defaults : InterfaceOptions) (method : Method) :
    Loading (Option MethodConfig) := do
  let path := s!"{interface}.{method.name}"
  let record ← backend.decode MethodOptions.schema rules path method.name method.comments
  let options := (MethodOptions.ofRecord record).complete defaults
  if !startsWithContext method then
    invalidSignature path method "the first parameter must be a context"
    return none
  let unbound ← method.params.mapM (loadParam rules path)
  let params := bindPath options.path unbound
  if !endsWithError method then
    invalidSignature path method "the last result must be an error"
    return none
  let results ← method.results.mapM (loadResult rules path)
  return some {
    name := method.name
    options
    context := lastNamed (·.isContext) method.params
    error := lastNamed (·.isError) method.results
    params
    results
    bodyParams := paramsBy .body method.params params
    queryParams := paramsBy .query method.params params
    headerParams := paramsBy .header method.params params
    cookieParams := paramsBy .cookie method.params params
    pathParams := paramsBy .path method.params params
    bodyResults := resultsBy .body method.results results
    headerResults := resultsBy .header method.results results
    cookieResults := resultsBy .cookie method.results results }

def loadInterface (interface : Interface) : Loading InterfaceConfig := do
  let record ← backend.decode InterfaceOptions.schema rules interface.name interface.name
    interface.comments
  let options := InterfaceOptions.ofRecord record
  let methods ← interface.methods.mapM (loadMethod rules interface.name options)
  return ⟨interface.name, options, methods.filterMap id⟩

/-- Loads every interface of a module, in order. -/
def load (source : SourceModule) : Loading (List InterfaceConfig) :=
  source.interfaces.mapM (loadInterface rules)

end DocOptions.Http
