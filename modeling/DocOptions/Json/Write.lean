import DocOptions.Json.Basic

/-! Writing JSON over several lines, with two spaces for each level. -/

namespace DocOptions.Json

/-- A character inside a string: escaped if it is a quote, a backslash or a control below the
space. -/
def escapeChar (c : Char) : List Char :=
  match c with
  | '"' => ['\\', '"']
  | '\\' => ['\\', '\\']
  | '\x08' => ['\\', 'b']
  | '\x0c' => ['\\', 'f']
  | '\n' => ['\\', 'n']
  | '\r' => ['\\', 'r']
  | '\t' => ['\\', 't']
  | c =>
    if c.toNat < 0x20 then
      ['\\', 'u', '0', '0', Nat.digitChar (c.toNat / 16), Nat.digitChar (c.toNat % 16)]
    else [c]

def writeString (text : String) : List Char :=
  '"' :: text.toList.flatMap escapeChar ++ ['"']

/-- A line break before text at a level. -/
def lineBreak (level : Nat) : List Char :=
  '\n' :: List.replicate (2 * level) ' '

mutual

/-- Writes a value whose first line stands at a level. A string that denotes no text is written like
an empty one. -/
def writeValue (level : Nat) : Json → List Char
  | .null => "null".toList
  | .bool b => (if b then "true" else "false").toList
  | .integer n => (toString n).toList
  | .numeral literal => literal
  | .string text => writeString (text.getD "")
  | .array [] => ['[', ']']
  | .array (item :: rest) =>
    '[' :: lineBreak (level + 1) ++ writeValue (level + 1) item ++ writeItems (level + 1) rest ++
      lineBreak level ++ [']']
  | .object [] => ['\x7b', '\x7d']
  | .object ((name, value) :: rest) =>
    '\x7b' :: lineBreak (level + 1) ++ writeString (name.getD "") ++ [':', ' '] ++
      writeValue (level + 1) value ++ writeMembers (level + 1) rest ++ lineBreak level ++ ['\x7d']

/-- Writes the items after the first, each on a line of its own. -/
def writeItems (level : Nat) : List Json → List Char
  | [] => []
  | item :: rest => ',' :: lineBreak level ++ writeValue level item ++ writeItems level rest

/-- Writes the members after the first, each on a line of its own. -/
def writeMembers (level : Nat) : List (Option String × Json) → List Char
  | [] => []
  | (name, value) :: rest =>
    ',' :: lineBreak level ++ writeString (name.getD "") ++ [':', ' '] ++ writeValue level value ++
      writeMembers level rest

end

def write (json : Json) : String :=
  String.ofList (writeValue 0 json)

end DocOptions.Json
