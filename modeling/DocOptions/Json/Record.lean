import DocOptions.Json.Number
import DocOptions.Json.Read
import DocOptions.TextMap

/-! Reading records, lists and scalars from JSON values. No kind of value stands for another. -/

namespace DocOptions.Json

def asText : Json → Option String
  | .string text => text
  | _ => none

def asBool : Json → Option Bool
  | .bool b => some b
  | _ => none

/-- An integer of sixty-four bits without a sign. -/
def asWord : Json → Option UInt64
  | .integer n => if 0 ≤ n ∧ n < Nat.pow 2 64 then some (.ofNat n.toNat) else none
  | _ => none

def asList {α : Type} (item : Json → Option α) : Json → Option (List α)
  | .array items => items.mapM item
  | _ => none

/-- A member whose name and value are texts. -/
def asTextMember (member : Option String × Json) : Option (String × String) := do
  return (← member.1, ← member.2.asText)

/-- A map from names to texts. The last of several members with a name counts. -/
def asTextMap : Json → Option (TextMap String)
  | .object members => (members.mapM asTextMember).map TextMap.ofList
  | _ => none

/-- The members of a record that have been found, by name. -/
abbrev Members := List (String × Json)

namespace Members

def required {α : Type} (members : Members) (name : String) (read : Json → Option α) : Option α :=
  (List.lookup name members).bind read

/-- A member that has a value without being there; if it is there it has to be readable. -/
def withDefault {α : Type} (members : Members) (name : String) (default : α)
    (read : Json → Option α) : Option α :=
  match List.lookup name members with
  | none => some default
  | some value => read value

/-- A member that may be missing or null. -/
def optional {α : Type} (members : Members) (name : String) (read : Json → Option α) :
    Option (Option α) :=
  match List.lookup name members with
  | none => some none
  | some .null => some none
  | some value => (read value).map some

end Members

/-- The members with names of a record, unless one of these names is repeated or some name is no
text. Other members are left out. -/
def knownMembers (names : List String) : List (Option String × Json) → Option Members
  | [] => some []
  | (name, value) :: rest => do
    let name ← name
    let found ← knownMembers names rest
    if name ∈ names then
      if (List.lookup name found).isSome then none else return (name, value) :: found
    else return found

/-- The members of a record. It is written as an object, or as an array of its first members in the
order of `names`. -/
def asRecord (names : List String) : Json → Option Members
  | .object members => knownMembers names members
  | .array items => if items.length ≤ names.length then some (names.zip items) else none
  | _ => none

/-- Whether an integer has sixty-four bits, with a sign or without one. -/
def isWordSized (n : Int) : Bool :=
  -(Nat.pow 2 63 : Nat) ≤ n && n < (Nat.pow 2 64 : Nat)

mutual

/-- Whether a value can be held for later use, not only skipped: its strings and names are texts and
its numbers are in the range of double precision. -/
def isHoldable : Json → Bool
  | .numeral literal => (double? literal).isSome
  | .integer n => isWordSized n || (double? (toString n).toList).isSome
  | .string text => text.isSome
  | .array items => areHoldable items
  | .object members => membersHoldable members
  | _ => true

def areHoldable : List Json → Bool
  | [] => true
  | item :: rest => item.isHoldable && areHoldable rest

def membersHoldable : List (Option String × Json) → Bool
  | [] => true
  | (name, value) :: rest => name.isSome && value.isHoldable && membersHoldable rest

end

end DocOptions.Json
