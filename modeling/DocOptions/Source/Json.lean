import DocOptions.Json.Record
import DocOptions.Json.Write
import DocOptions.Source.Model

/-! The JSON form of directives, comments and source modules. A member with an unset position is
left out. -/

namespace DocOptions

/-- A member that is left out where there is no value. -/
def Json.optionalMember {α : Type} (name : String) (encode : α → Json) (value : Option α) :
    List (String × Json) :=
  match value with
  | none => []
  | some value => [(name, encode value)]

namespace Position

def ofJson? (json : Json) : Option Position := do
  let members ← json.asRecord ["file", "line", "column"]
  return {
    file := ← members.withDefault "file" "" Json.asText
    line := ← members.withDefault "line" 0 Json.asWord
    column := ← members.withDefault "column" 0 Json.asWord }

def toJson (p : Position) : Json :=
  .record [("file", .text p.file), ("line", .integer p.line.toNat),
    ("column", .integer p.column.toNat)]

end Position

namespace Directive

def ofMembers? (members : Json.Members) : Option Directive := do
  return {
    key := ← members.required "key" Json.asText
    options := ← members.withDefault "options" [] (Json.asList Json.asText)
    params := ← members.withDefault "params" ∅ Json.asTextMap }

def jsonNames : List String := ["key", "options", "params"]

def ofJson? (json : Json) : Option Directive :=
  (json.asRecord jsonNames).bind ofMembers?

def jsonMembers (d : Directive) : List (String × Json) :=
  [("key", .text d.key), ("options", .texts d.options),
    ("params", .record (d.params.entries.map fun (name, value) => (name, .text value)))]

def toJson (d : Directive) : Json :=
  .record d.jsonMembers

end Directive

namespace Occurrence

/-- The deepest nesting that a held value may have inside the object of an occurrence. -/
def depthLimit : Nat := 126

/-- Reads the members of a directive and its position from one object. All members but the position
are held until it is known which of them belong to the directive. -/
def ofJson? : Json → Option Occurrence
  | .object members => do
    let (own, held) := members.partition fun member => member.1 == some "position"
    if Json.membersHoldable held && Json.depthMembers held ≤ depthLimit then
      let directive ← (Json.knownMembers Directive.jsonNames held).bind Directive.ofMembers?
      match own with
      | [] => return ⟨directive, .unknown⟩
      | [(_, position)] => return ⟨directive, ← Position.ofJson? position⟩
      | _ => none
    else none
  | _ => none

def toJson (o : Occurrence) : Json :=
  .record (o.directive.jsonMembers ++ [("position", o.position.toJson)])

end Occurrence

namespace CommentKind

def name : CommentKind → String
  | title => "title"
  | doc => "doc"
  | directive => "annotation"

def ofName? (name : String) : Option CommentKind :=
  [title, doc, directive].find? (·.name == name)

/-- Reads the name of a kind, alone or as the one member of an object with the value null. -/
def ofJson? : Json → Option CommentKind
  | .string text => text.bind ofName?
  | .object [(name, .null)] => name.bind ofName?
  | _ => none

end CommentKind

namespace CommentLine

def ofJson? (json : Json) : Option CommentLine := do
  let members ← json.asRecord ["text", "kind", "position"]
  return {
    text := ← members.required "text" Json.asText
    kind := ← members.required "kind" CommentKind.ofJson?
    position := ← members.withDefault "position" .unknown Position.ofJson? }

def toJson (line : CommentLine) : Json :=
  .record [("text", .text line.text), ("kind", .text line.kind.name),
    ("position", line.position.toJson)]

end CommentLine

namespace RawComment

def ofJson? (json : Json) : Option RawComment := do
  let members ← json.asRecord ["text", "position"]
  return {
    text := ← members.required "text" Json.asText
    position := ← members.optional "position" Position.ofJson? }

def toJson (comment : RawComment) : Json :=
  .record ([("text", .text comment.text)] ++
    Json.optionalMember "position" Position.toJson comment.position)

def listOfJson? : Json → Option (List RawComment) :=
  Json.asList ofJson?

def listToJson (comments : List RawComment) : Json :=
  .array (comments.map toJson)

end RawComment

namespace Variable

def ofJson? (json : Json) : Option Variable := do
  let members ← json.asRecord ["name", "type_name", "is_context", "is_error", "comments"]
  return {
    name := ← members.required "name" Json.asText
    typeName := ← members.withDefault "type_name" "" Json.asText
    isContext := ← members.withDefault "is_context" false Json.asBool
    isError := ← members.withDefault "is_error" false Json.asBool
    comments := ← members.withDefault "comments" [] RawComment.listOfJson? }

def toJson (v : Variable) : Json :=
  .record [("name", .text v.name), ("type_name", .text v.typeName),
    ("is_context", .bool v.isContext), ("is_error", .bool v.isError),
    ("comments", RawComment.listToJson v.comments)]

end Variable

namespace Method

def ofJson? (json : Json) : Option Method := do
  let members ← json.asRecord ["name", "position", "comments", "params", "results"]
  return {
    name := ← members.required "name" Json.asText
    position := ← members.optional "position" Position.ofJson?
    comments := ← members.withDefault "comments" [] RawComment.listOfJson?
    params := ← members.withDefault "params" [] (Json.asList Variable.ofJson?)
    results := ← members.withDefault "results" [] (Json.asList Variable.ofJson?) }

def toJson (m : Method) : Json :=
  .record ([("name", .text m.name)] ++ Json.optionalMember "position" Position.toJson m.position ++
    [("comments", RawComment.listToJson m.comments),
      ("params", .array (m.params.map Variable.toJson)),
      ("results", .array (m.results.map Variable.toJson))])

end Method

namespace Interface

def ofJson? (json : Json) : Option Interface := do
  let members ← json.asRecord ["name", "position", "comments", "methods"]
  return {
    name := ← members.required "name" Json.asText
    position := ← members.optional "position" Position.ofJson?
    comments := ← members.withDefault "comments" [] RawComment.listOfJson?
    methods := ← members.withDefault "methods" [] (Json.asList Method.ofJson?) }

def toJson (i : Interface) : Json :=
  .record ([("name", .text i.name)] ++ Json.optionalMember "position" Position.toJson i.position ++
    [("comments", RawComment.listToJson i.comments),
      ("methods", .array (i.methods.map Method.toJson))])

end Interface

namespace SourceModule

def ofJson? (json : Json) : Option SourceModule := do
  let members ← json.asRecord ["interfaces"]
  return { interfaces := ← members.withDefault "interfaces" [] (Json.asList Interface.ofJson?) }

def toJson (m : SourceModule) : Json :=
  .record [("interfaces", .array (m.interfaces.map Interface.toJson))]

/-- Reads a module from JSON text. -/
def read (text : String) : Option SourceModule :=
  (Json.read text).bind ofJson?

end SourceModule
end DocOptions
