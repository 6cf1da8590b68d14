import DocOptions.Json.Number
import DocOptions.Json.Read
import DocOptions.Settings.Tree

/-! Settings from JSON text. -/

namespace DocOptions.Setting

/-- How deep a document may be nested. -/
def greatestJsonDepth : Nat := 127

mutual

/-- The setting of a value; `none` if a string in it denotes no text or a number is out of range.
An integer beyond sixty-four bits with a sign becomes a floating-point number. -/
def ofJson : Json → Option Setting
  | .null => some .nothing
  | .bool b => some (.bool b)
  | .integer n =>
    if IntKind.int64.minimum ≤ n ∧ n ≤ IntKind.int64.maximum then some (.integer n)
    else (Json.double? (toString n).toList).map .float
  | .numeral literal => (Json.double? literal).map .float
  | .string s => s.map .text
  | .array items => (ofItems items).map .list
  | .object members => (ofMembers members).map ofEntries

def ofItems : List Json → Option (List Setting)
  | [] => some []
  | item :: rest => do return (← ofJson item) :: (← ofItems rest)

def ofMembers : List (Option String × Json) → Option (List (String × Setting))
  | [] => some []
  | (name, value) :: rest => do return (← name, ← ofJson value) :: (← ofMembers rest)

end

def readJson (text : String) : Option Setting := do
  let json ← Json.read text
  if json.depth ≤ greatestJsonDepth then ofJson json else none

end DocOptions.Setting
