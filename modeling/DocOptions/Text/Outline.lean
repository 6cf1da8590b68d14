import DocOptions.Text.Quoted

/-! Values outlined for readers of a program: records with the names of their fields, lists and
maps. -/

namespace DocOptions.Text

/-- A record such as `Point { x: 1, y: 2 }`. -/
def outlineRecord (name : String) (fields : List (String × String)) : String :=
  let items := ", ".intercalate (fields.map fun (field, value) => field ++ ": " ++ value)
  name ++ " \x7b " ++ items ++ " \x7d"

def outlineList (items : List String) : String :=
  "[" ++ ", ".intercalate items ++ "]"

/-- A map with its keys in quotes. -/
def outlineMap (entries : List (String × String)) : String :=
  let items := ", ".intercalate (entries.map fun (key, value) => quoted key ++ ": " ++ quoted value)
  "\x7b" ++ items ++ "\x7d"

/-- A text that may be missing. -/
def outlineOption : Option String → String
  | none => "None"
  | some text => "Some(" ++ quoted text ++ ")"

end DocOptions.Text
