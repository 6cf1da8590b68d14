import DocOptions.Directive.Basic
import DocOptions.Directive.Tokenize

/-! Reading a directive from its line: `@key`, then options and `name=value` parameters in any
order. -/

namespace DocOptions

open Text

/-- Why a line is no directive. -/
inductive GrammarError
  | empty
  | missingMarker (line : String)
  deriving DecidableEq

def GrammarError.message : GrammarError → String
  | .empty => "annotation is empty"
  | .missingMarker line => s!"annotation marker '@' not found: {line}"

namespace Directive

/-- The character that starts a directive. -/
def marker : Char := '@'

/-- The parameter that a token gives if a bare `=` separates a name from a value. -/
def paramOf? (token : Token) : Option (String × String) :=
  token.split?.map fun (name, value) => (trim name.unquoted, value.unquoted)

/-- The option that a token gives if it is no parameter. -/
def optionOf? (token : Token) : Option String :=
  match token.split? with
  | some _ => none
  | none => some token.unquoted

/-- The directive of a line's tokens; with no token there is none. The key is the first token
without its marker, whatever quotes it has. The last of several parameters with a name counts. -/
def ofTokens : List Token → Except GrammarError Directive
  | [] => .error .empty
  | head :: rest =>
    .ok {
      key := textOf (head.chars.drop 1)
      options := rest.filterMap optionOf?
      params := .ofList (rest.filterMap paramOf?) }

/-- Reads a line without regard to the blanks around it. -/
def read (line : String) : Except GrammarError Directive :=
  let trimmed := trim line
  match trimmed.toList with
  | [] => .error .empty
  | c :: _ =>
    if c = marker then ofTokens (tokenize trimmed) else .error (.missingMarker trimmed)

end Directive
end DocOptions
