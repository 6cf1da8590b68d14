import DocOptions.TextMap
import DocOptions.Text.Outline
import DocOptions.Text.Pieces
import DocOptions.Value

/-! Named rules that check the values of fields. -/

namespace DocOptions

open Text

/-- What a rule knows about the field it checks: how messages name it, the rule's parameters, and
the field's default. -/
structure RuleContext where
  subject : String
  params : TextMap String
  default : Option String

/-- A check of a value: a message if the value is refused. -/
structure Rule where
  refusal? : RuleContext → ValueView → Option String

namespace Rule

/-- Refuses the zero value. -/
def required : Rule where
  refusal? context view := if view.isZero then some s!"{context.subject}: required" else none

/-- The parameter that lists the literals of the rule `in`, with blanks between them. -/
def literalsParam : String := "params"

/-- The text that is looked up among the literals: the default stands in for a zero value. -/
def effectiveText (context : RuleContext) (view : ValueView) : String :=
  if view.isZero then context.default.getD "" else view.text?.getD ""

/-- Refuses a value whose text is none of the literals. -/
def oneOf : Rule where
  refusal? context view :=
    let literals := ((context.params.get? literalsParam).map words).getD []
    let text := effectiveText context view
    if text ∈ literals then none
    else
      let listed := " ".intercalate literals
      some s!"{context.subject}: value {quoted text} is not one of [{listed}]"

end Rule

/-- A rule as a field names it, with its parameters. -/
structure RuleSpec where
  name : String
  params : TextMap String
  deriving DecidableEq

namespace RuleSpec

def required : RuleSpec := ⟨"required", ∅⟩

/-- Restricts a field to literals. -/
def oneOf (literals : List String) : RuleSpec :=
  ⟨"in", .singleton Rule.literalsParam (" ".intercalate literals)⟩

end RuleSpec

/-- The rules that fields can name. -/
abbrev RuleRegistry := TextMap Rule

namespace RuleRegistry

/-- The rules `required` and `in`. -/
def standard : RuleRegistry :=
  (TextMap.empty.insert "required" Rule.required).insert "in" Rule.oneOf

def outline (rules : RuleRegistry) : String :=
  outlineRecord "RuleRegistry" [("rules", outlineList (rules.keys.map quoted))]

end RuleRegistry
end DocOptions
