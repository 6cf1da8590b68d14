import DocOptions.Json.Basic
import DocOptions.TextMap

/-! Objects for configurations, with their members in the order of their names. -/

namespace DocOptions.Json

/-- An object with its members in the order of their names. -/
def sortedRecord (members : List (String × Json)) : Json :=
  .record (TextMap.ofList members).entries

/-- A text or null. -/
def optionalText : Option String → Json
  | none => .null
  | some s => .text s

end DocOptions.Json
