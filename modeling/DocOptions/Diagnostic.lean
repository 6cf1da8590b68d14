import DocOptions.Position

/-! Failures and warnings about directives, and their report. -/

namespace DocOptions

inductive Severity
  | warning
  | failure
  deriving DecidableEq

def Severity.text : Severity → String
  | .warning => "warning"
  | .failure => "failure"

/-- One finding, tied to a directive's key and place where there is one. -/
structure Diagnostic where
  severity : Severity
  message : String
  key : Option String
  position : Option Position
  deriving DecidableEq

namespace Diagnostic

def isFailure (d : Diagnostic) : Bool :=
  d.severity == .failure

def isWarning (d : Diagnostic) : Bool :=
  d.severity == .warning

/-- The message, after the place where the place is known. -/
def text (d : Diagnostic) : String :=
  match d.position with
  | some position => if position.isValid then s!"{position.text}: {d.message}" else d.message
  | none => d.message

end Diagnostic

/-- Findings in the order they were made; none is merged with another or dropped. -/
structure Diagnostics where
  items : List Diagnostic
  deriving DecidableEq

namespace Diagnostics

def empty : Diagnostics := ⟨[]⟩

instance : EmptyCollection Diagnostics := ⟨empty⟩

instance : Inhabited Diagnostics := ⟨∅⟩

def push (ds : Diagnostics) (d : Diagnostic) : Diagnostics :=
  ⟨ds.items ++ [d]⟩

def append (first second : Diagnostics) : Diagnostics :=
  ⟨first.items ++ second.items⟩

instance : Append Diagnostics := ⟨append⟩

def failures (ds : Diagnostics) : List Diagnostic :=
  ds.items.filter Diagnostic.isFailure

def warnings (ds : Diagnostics) : List Diagnostic :=
  ds.items.filter Diagnostic.isWarning

/-- The failures and the others. -/
def partition (ds : Diagnostics) : List Diagnostic × List Diagnostic :=
  ds.items.partition Diagnostic.isFailure

def hasFailures (ds : Diagnostics) : Bool :=
  ds.items.any Diagnostic.isFailure

def size (ds : Diagnostics) : Nat :=
  ds.items.length

def isEmpty (ds : Diagnostics) : Bool :=
  ds.items.isEmpty

/-- A heading with the number of findings, then one bullet each. -/
def bulleted (noun : String) (items : List Diagnostic) : String :=
  let plural := if items.length = 1 then "" else "s"
  s!"{items.length} {noun}{plural}:" ++ String.join (items.map ("\n\t* " ++ ·.text))

/-- The failures, then the warnings; a section without findings is left out. -/
def summary (ds : Diagnostics) : String :=
  let (failures, warnings) := ds.partition
  let sections := (if failures.isEmpty then [] else [bulleted "error" failures]) ++
    (if warnings.isEmpty then [] else [bulleted "warning" warnings])
  "\n\n".intercalate sections

end Diagnostics
end DocOptions
