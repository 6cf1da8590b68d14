import DocOptions.Proofs.Json.Scalars

/-! JSON texts with any white space between their parts, and reading them back. The reader takes a
value off the front and leaves what follows, so a list is read item by item; each item is shorter
than the text, which bounds the fuel. -/

namespace DocOptions.Json

/-- The white space of a text: in front of the items of an array, the members of an object and the
bracket that closes them, by level, and after the colon of a member. -/
structure Layout where
  lineBreak : Nat → List Char
  afterColon : List Char
  blank_lineBreak : ∀ level, ∀ c ∈ lineBreak level, isSpace c = true
  blank_afterColon : ∀ c ∈ afterColon, isSpace c = true

namespace Layout

/-- No white space at all. -/
def compact : Layout where
  lineBreak _ := []
  afterColon := []
  blank_lineBreak _ := List.forall_mem_nil _
  blank_afterColon := List.forall_mem_nil _

/-- A line for each item and each member. -/
def pretty : Layout where
  lineBreak := Json.lineBreak
  afterColon := [' ']
  blank_lineBreak level := by
    refine List.forall_mem_cons.mpr ⟨rfl, fun c member => ?_⟩
    rw [List.eq_of_mem_replicate member]
    rfl
  blank_afterColon := by simp [isSpace]

variable (layout : Layout)

mutual

/-- Writes a value whose first line stands at a level. -/
def writeValue (level : Nat) : Json → List Char
  | .null => "null".toList
  | .bool b => (if b then "true" else "false").toList
  | .integer n => (toString n).toList
  | .numeral literal => literal
  | .string text => writeString (text.getD "")
  | .array [] => ['[', ']']
  | .array (item :: rest) =>
    '[' :: layout.lineBreak (level + 1) ++ writeValue (level + 1) item ++
      writeItems (level + 1) rest ++ layout.lineBreak level ++ [']']
  | .object [] => ['\x7b', '\x7d']
  | .object ((name, value) :: rest) =>
    '\x7b' :: layout.lineBreak (level + 1) ++ writeString (name.getD "") ++
      ':' :: layout.afterColon ++ writeValue (level + 1) value ++ writeMembers (level + 1) rest ++
      layout.lineBreak level ++ ['\x7d']

def writeItems (level : Nat) : List Json → List Char
  | [] => []
  | item :: rest => ',' :: layout.lineBreak level ++ writeValue level item ++ writeItems level rest

def writeMembers (level : Nat) : List (Option String × Json) → List Char
  | [] => []
  | (name, value) :: rest =>
    ',' :: layout.lineBreak level ++ writeString (name.getD "") ++ ':' :: layout.afterColon ++
      writeValue level value ++ writeMembers level rest

end

def write (json : Json) : String :=
  String.ofList (layout.writeValue 0 json)

mutual

theorem writeValue_pretty (level : Nat) :
    (json : Json) → pretty.writeValue level json = Json.writeValue level json
  | .null | .bool _ | .integer _ | .numeral _ | .string _ | .array [] | .object [] => by
    simp only [writeValue, Json.writeValue]
  | .array (item :: rest) => by
    simp only [writeValue, Json.writeValue, writeValue_pretty, writeItems_pretty]
    rfl
  | .object ((name, value) :: rest) => by
    simp only [writeValue, Json.writeValue, writeValue_pretty, writeMembers_pretty]
    rfl

theorem writeItems_pretty (level : Nat) :
    (items : List Json) → pretty.writeItems level items = Json.writeItems level items
  | [] => by simp only [writeItems, Json.writeItems]
  | item :: rest => by
    simp only [writeItems, Json.writeItems, writeValue_pretty, writeItems_pretty]
    rfl

theorem writeMembers_pretty (level : Nat) : (members : List (Option String × Json)) →
    pretty.writeMembers level members = Json.writeMembers level members
  | [] => by simp only [writeMembers, Json.writeMembers]
  | (name, value) :: rest => by
    simp only [writeMembers, Json.writeMembers, writeValue_pretty, writeMembers_pretty]
    rfl

end

/-- The texts of configurations are laid out over several lines. -/
theorem write_pretty (json : Json) : pretty.write json = json.write :=
  congrArg String.ofList (writeValue_pretty 0 json)

end Layout
end DocOptions.Json
