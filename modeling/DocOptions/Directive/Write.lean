import DocOptions.Directive.Read

/-! Writing a directive as a line that reads back as the directive. -/

namespace DocOptions

open Text

/-- Whether a text needs quotes to be read back as one token that holds it. -/
def needsQuotes (chars : List Char) : Bool :=
  chars.isEmpty || chars.any fun c => isBlank c || c == '=' || isQuote c || c == '\\'

/-- The characters inside double quotes. -/
def escapeChars (chars : List Char) : List Char :=
  chars.flatMap fun c => if c == '"' || c == '\\' then ['\\', c] else [c]

/-- A text as it is written in a line: as it is, or between double quotes. -/
def writeText (text : String) : String :=
  if needsQuotes text.toList then String.ofList ('"' :: escapeChars text.toList ++ ['"']) else text

/-- The line of a directive: the key, the options in order, the parameters in the order of their
names. -/
def Directive.text (a : Directive) : String :=
  let options := a.options.map fun option => " " ++ writeText option
  let params := a.params.entries.map fun (name, value) =>
    " " ++ writeText name ++ "=" ++ writeText value
  "@" ++ a.key ++ String.join options ++ String.join params

end DocOptions
