import DocOptions.Schema.Basic

/-! Options of the HTTP generator, with the tables that bind them from `http-` directives. -/

namespace DocOptions.Http

/-- A text with a directive of its own. -/
abbrev textLeaf : Leaf := .scalar .key (.plain .string)

/-- Content types of requests and responses. -/
structure DefaultOptions where
  contentType : String
  accept : String
  deriving DecidableEq

namespace DefaultOptions

def table :=
  Table.leaf (field "content_type") textLeaf <|
  Table.leaf (field "accept") textLeaf .nil

def ofRecord : table.shape.Record → DefaultOptions
  | (contentType, accept, ()) => ⟨contentType, accept⟩

end DefaultOptions

/-- Options above an interface. -/
structure InterfaceOptions where
  default : DefaultOptions
  copyDtoTypes : Bool
  deriving DecidableEq

namespace InterfaceOptions

def table :=
  Table.composite (field "default") .group "DefaultOpt" DefaultOptions.table <|
  Table.leaf (field "copy_dto_types") .flag .nil

def schema : Schema table.shape := ⟨"InterfaceOptions", table⟩

def ofRecord : table.shape.Record → InterfaceOptions
  | (default, copyDtoTypes, ()) => ⟨.ofRecord default, copyDtoTypes⟩

end InterfaceOptions

structure OpenapiOptions where
  tags : List String
  deriving DecidableEq

namespace OpenapiOptions

def table :=
  Table.leaf (field "tags") (.list (.plain .string)) .nil

def ofRecord : table.shape.Record → OpenapiOptions
  | (tags, ()) => ⟨tags⟩

end OpenapiOptions

/-- A query parameter with fixed values. The name is the first of the values. -/
structure QueryValue where
  name : String
  values : List String
  deriving DecidableEq

namespace QueryValue

def table :=
  Table.leaf (field "name").required (.scalar .value (.plain .string)) <|
  Table.leaf (field "values") .options .nil

def ofRecord : table.shape.Record → QueryValue
  | (name, values, ()) => ⟨name, values⟩

end QueryValue

structure QueryOptions where
  values : List QueryValue
  deriving DecidableEq

namespace QueryOptions

def table :=
  Table.composite ((field "values").named "value") .inlineList "QueryValue" QueryValue.table .nil

def ofRecord : table.shape.Record → QueryOptions
  | (values, ()) => ⟨values.map QueryValue.ofRecord⟩

end QueryOptions

/-- The dotted path that a body is nested under, and its parts. Directives give the path alone. -/
structure WrapOptions where
  path : String
  parts : List String
  deriving DecidableEq

namespace WrapOptions

def table :=
  Table.leaf (field "path") textLeaf .nil

def ofRecord : table.shape.Record → WrapOptions
  | (path, ()) => ⟨path, []⟩

end WrapOptions

/-- Whether a body is the one value itself, not an object that holds it. -/
structure SingleOptions where
  request : Bool
  response : Bool
  deriving DecidableEq

namespace SingleOptions

def table :=
  Table.leaf (field "req") .flag <|
  Table.leaf (field "resp") .flag .nil

def ofRecord : table.shape.Record → SingleOptions
  | (request, response, ()) => ⟨request, response⟩

end SingleOptions

/-- The encodings of request bodies. -/
structure UseOptions where
  multipart : Bool
  urlEncoded : Bool
  deriving DecidableEq

namespace UseOptions

def table :=
  Table.leaf (field "multipart") .flag <|
  Table.leaf (field "url_encoded") .flag .nil

def ofRecord : table.shape.Record → UseOptions
  | (multipart, urlEncoded, ()) => ⟨multipart, urlEncoded⟩

end UseOptions

/-- Options above a method. -/
structure MethodOptions where
  timeFormat : String
  method : String
  path : String
  openapi : OpenapiOptions
  formMaxMemory : Int
  query : QueryOptions
  wrapRequest : WrapOptions
  wrapResponse : WrapOptions
  single : SingleOptions
  default : DefaultOptions
  use : UseOptions
  deriving DecidableEq

namespace MethodOptions

/-- The verbs of requests. -/
def verbs : List String :=
  ["GET", "HEAD", "POST", "PUT", "DELETE", "CONNECT", "OPTIONS", "TRACE", "PATCH"]

def defaultVerb : String := "POST"

def table :=
  Table.leaf (field "time_format") textLeaf <|
  Table.leaf (((field "method").oneOf verbs).defaultValue defaultVerb) textLeaf <|
  Table.leaf (field "path") textLeaf <|
  Table.composite (field "openapi") .group "OpenapiOpt" OpenapiOptions.table <|
  Table.leaf (field "form_max_memory") (.scalar .key (.plain (.integer .int64))) <|
  Table.composite (field "query") .group "QueryOpt" QueryOptions.table <|
  Table.composite (field "wrap_req") .group "WrapOpt" WrapOptions.table <|
  Table.composite (field "wrap_resp") .group "WrapOpt" WrapOptions.table <|
  Table.composite (field "single") .group "SingleOpt" SingleOptions.table <|
  Table.composite (field "default") .group "DefaultOpt" DefaultOptions.table <|
  Table.composite ((field "use_opt").named "use") .group "UseOpt" UseOptions.table .nil

def schema : Schema table.shape := ⟨"MethodOptions", table⟩

def ofRecord : table.shape.Record → MethodOptions
  | (timeFormat, method, path, openapi, formMaxMemory, query, wrapRequest, wrapResponse, single,
      default, use, ()) =>
    { timeFormat, method, path, formMaxMemory
      openapi := .ofRecord openapi
      query := .ofRecord query
      wrapRequest := .ofRecord wrapRequest
      wrapResponse := .ofRecord wrapResponse
      single := .ofRecord single
      default := .ofRecord default
      use := .ofRecord use }

end MethodOptions

/-- The name of a parameter or result on the wire, as `@http-name` gives it. -/
structure NameOptions where
  value : String
  omitEmpty : Bool
  format : String
  deriving DecidableEq

namespace NameOptions

def formats : List String :=
  ["lowerCamel", "kebab", "screamingKebab", "snake", "screamingSnake"]

def defaultFormat : String := "lowerCamel"

def table :=
  Table.leaf (field "value") (.scalar .value (.plain .string)) <|
  Table.leaf (field "omitempty") .optionFlag <|
  Table.leaf (((field "format").oneOf formats).defaultValue defaultFormat)
    (.scalar .param (.plain .string)) .nil

def ofRecord : table.shape.Record → NameOptions
  | (value, omitEmpty, format, ()) => ⟨value, omitEmpty, format⟩

end NameOptions

/-- Options above a parameter of a method. -/
structure ParamOptions where
  name : NameOptions
  httpType : String
  required : Bool
  deriving DecidableEq

namespace ParamOptions

def table :=
  Table.composite (field "name") .inline "NameOpt" NameOptions.table <|
  Table.leaf ((field "http_type").named "type") textLeaf <|
  Table.leaf (field "required") .flag .nil

def schema : Schema table.shape := ⟨"ParamOptions", table⟩

def ofRecord : table.shape.Record → ParamOptions
  | (name, httpType, required, ()) => ⟨.ofRecord name, httpType, required⟩

end ParamOptions

/-- Options above a result of a method. -/
structure ResultOptions where
  name : NameOptions
  httpType : String
  required : Bool
  flat : Bool
  deriving DecidableEq

namespace ResultOptions

def table :=
  Table.composite (field "name") .inline "NameOpt" NameOptions.table <|
  Table.leaf ((field "http_type").named "type") textLeaf <|
  Table.leaf (field "required") .flag <|
  Table.leaf (field "flat") .flag .nil

def schema : Schema table.shape := ⟨"ResultOptions", table⟩

def ofRecord : table.shape.Record → ResultOptions
  | (name, httpType, required, flat, ()) => ⟨.ofRecord name, httpType, required, flat⟩

end ResultOptions
end DocOptions.Http
