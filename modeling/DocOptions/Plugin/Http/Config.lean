import DocOptions.Json.Sorted
import DocOptions.Plugin.Http.Options

/-! What the HTTP generator is told about a module, and its JSON form. -/

namespace DocOptions.Http

/-- A parameter with its name on the wire, and its place in the path if it has one. -/
structure ParamConfig where
  var : String
  typeName : String
  name : String
  options : ParamOptions
  pathIndex : Option Nat
  pathName : Option String
  deriving DecidableEq

/-- A result with its name on the wire. -/
structure ResultConfig where
  var : String
  typeName : String
  name : String
  options : ResultOptions
  deriving DecidableEq

/-- A method with its options, and the names of its parameters and results grouped by how they
travel. -/
structure MethodConfig where
  name : String
  options : MethodOptions
  context : Option String
  error : Option String
  params : List ParamConfig
  results : List ResultConfig
  bodyParams : List String
  queryParams : List String
  headerParams : List String
  cookieParams : List String
  pathParams : List String
  bodyResults : List String
  headerResults : List String
  cookieResults : List String
  deriving DecidableEq

structure InterfaceConfig where
  name : String
  options : InterfaceOptions
  methods : List MethodConfig
  deriving DecidableEq

open Json (sortedRecord optionalText)

def DefaultOptions.toJson (o : DefaultOptions) : Json :=
  sortedRecord [("content_type", .text o.contentType), ("accept", .text o.accept)]

def InterfaceOptions.toJson (o : InterfaceOptions) : Json :=
  sortedRecord [("default", o.default.toJson), ("copy_dto_types", .bool o.copyDtoTypes)]

def OpenapiOptions.toJson (o : OpenapiOptions) : Json :=
  sortedRecord [("tags", .texts o.tags)]

def QueryValue.toJson (v : QueryValue) : Json :=
  sortedRecord [("name", .text v.name), ("values", .texts v.values)]

def QueryOptions.toJson (o : QueryOptions) : Json :=
  sortedRecord [("values", .array (o.values.map QueryValue.toJson))]

def WrapOptions.toJson (o : WrapOptions) : Json :=
  sortedRecord [("path", .text o.path), ("path_parts", .texts o.parts)]

def SingleOptions.toJson (o : SingleOptions) : Json :=
  sortedRecord [("req", .bool o.request), ("resp", .bool o.response)]

def UseOptions.toJson (o : UseOptions) : Json :=
  sortedRecord [("multipart", .bool o.multipart), ("url_encoded", .bool o.urlEncoded)]

def MethodOptions.toJson (o : MethodOptions) : Json :=
  sortedRecord
    [("time_format", .text o.timeFormat), ("method", .text o.method), ("path", .text o.path),
      ("openapi", o.openapi.toJson), ("form_max_memory", .integer o.formMaxMemory),
      ("query", o.query.toJson), ("wrap_req", o.wrapRequest.toJson),
      ("wrap_resp", o.wrapResponse.toJson), ("single", o.single.toJson),
      ("default", o.default.toJson), ("use", o.use.toJson)]

def NameOptions.toJson (o : NameOptions) : Json :=
  sortedRecord
    [("value", .text o.value), ("omitempty", .bool o.omitEmpty), ("format", .text o.format)]

def ParamOptions.toJson (o : ParamOptions) : Json :=
  sortedRecord
    [("name", o.name.toJson), ("http_type", .text o.httpType), ("required", .bool o.required)]

def ResultOptions.toJson (o : ResultOptions) : Json :=
  sortedRecord
    [("name", o.name.toJson), ("http_type", .text o.httpType), ("required", .bool o.required),
      ("flat", .bool o.flat)]

def ParamConfig.toJson (c : ParamConfig) : Json :=
  sortedRecord
    ([("var", .text c.var), ("type_name", .text c.typeName), ("name", .text c.name),
      ("options", c.options.toJson)] ++
      (c.pathIndex.map fun i => ("path_param_index", Json.integer i)).toList ++
      (c.pathName.map fun name => ("path_param_name", Json.text name)).toList)

def ResultConfig.toJson (c : ResultConfig) : Json :=
  sortedRecord
    [("var", .text c.var), ("type_name", .text c.typeName), ("name", .text c.name),
      ("options", c.options.toJson)]

def MethodConfig.toJson (c : MethodConfig) : Json :=
  sortedRecord
    [("name", .text c.name), ("options", c.options.toJson), ("context", optionalText c.context),
      ("error", optionalText c.error), ("params", .array (c.params.map ParamConfig.toJson)),
      ("results", .array (c.results.map ResultConfig.toJson)),
      ("body_params", .texts c.bodyParams), ("query_params", .texts c.queryParams),
      ("header_params", .texts c.headerParams), ("cookie_params", .texts c.cookieParams),
      ("path_params", .texts c.pathParams), ("body_results", .texts c.bodyResults),
      ("header_results", .texts c.headerResults), ("cookie_results", .texts c.cookieResults)]

def InterfaceConfig.toJson (c : InterfaceConfig) : Json :=
  sortedRecord
    [("name", .text c.name), ("options", c.options.toJson),
      ("methods", .array (c.methods.map MethodConfig.toJson))]

end DocOptions.Http
