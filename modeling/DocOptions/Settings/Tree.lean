import DocOptions.Numeral.Shortest

/-! Trees of settings, in which later sources are laid over earlier ones. Keys do not distinguish
the case of ASCII letters. -/

namespace DocOptions

/-- A value of a settings source. -/
inductive Setting
  | nothing
  | bool (b : Bool)
  | integer (n : Int)
  | float (x : FloatValue)
  | text (s : String)
  | list (items : List Setting)
  | table (entries : List (String × Setting))

namespace Setting

/-- The items of a list; other values have none. -/
def items : Setting → List Setting
  | list items => items
  | _ => []

/-- The entries of a table; other values have none. -/
def entries : Setting → List (String × Setting)
  | table entries => entries
  | _ => []

def lookup (tree : Setting) (key : String) : Option Setting :=
  tree.entries.lookup key

/-- Sets the entry of a key, at the place of an earlier one. -/
def put (key : String) (value : Setting) : List (String × Setting) → List (String × Setting)
  | [] => [(key, value)]
  | (k, v) :: rest => if k = key then (k, value) :: rest else (k, v) :: put key value rest

/-- The entries of a table in which the last one of a key counts. -/
def ofEntries (entries : List (String × Setting)) : Setting :=
  .table (entries.foldl (fun table (key, value) => put key value table) [])

def foldKey (key : String) : String :=
  String.ofList (key.toList.map Char.toLower)

mutual

/-- Lays a value over another one: tables are merged entry by entry, everything else is replaced. A
table without entries changes nothing that is there. -/
def layOver (old : Option Setting) : Setting → Setting
  | table [] => old.getD (.table [])
  | table (first :: rest) => .table (layEntries ((old.map entries).getD []) (first :: rest))
  | value => value

def layEntries (old : List (String × Setting)) : List (String × Setting) → List (String × Setting)
  | [] => old
  | (key, value) :: rest =>
    let key := foldKey key
    layEntries (put key (layOver (old.lookup key) value) old) rest

end

/-- Changes the item of a list at an index, which counts from the end if it is negative. The list
becomes as long as it has to be. -/
def changeItem (change : Setting → Setting) (items : List Setting) : Int → List Setting
  | .ofNat n =>
    (items ++ List.replicate (n + 1 - items.length) nothing).modify n change
  | .negSucc n =>
    (List.replicate (n + 1 - items.length) nothing ++ items).modify (items.length - (n + 1)) change

end Setting

/-- A step from a value to a part of it. -/
inductive SettingStep
  | key (name : String)
  | index (i : Int)

namespace Setting

/-- Lays a value over what is at a path. What stands in the way and has no such part gives way to
something that has. -/
def layAtPath (value : Setting) (old : Option Setting) : List SettingStep → Setting
  | [] => layOver old value
  | .key name :: path =>
    let entries := (old.map entries).getD []
    let name := foldKey name
    .table (put name (layAtPath value (entries.lookup name) path) entries)
  | [.index i] => .list (changeItem (fun _ => value) ((old.map items).getD []) i)
  | .index i :: path =>
    .list (changeItem (fun item => layAtPath value (some item) path) ((old.map items).getD []) i)

/-- A setting as text: scalars have one. -/
def asText : Setting → Option String
  | bool b => some (if b then "true" else "false")
  | integer n => some (toString n)
  | float x => some (x.text .binary64)
  | text s => some s
  | _ => none

/-- A setting as a switch: numbers are on unless they are zero, and the usual words count in any
letter case. -/
def asSwitch : Setting → Option Bool
  | bool b => some b
  | integer n => some (n != 0)
  | float x => some (!x.isZero)
  | text s =>
    let word := foldKey s
    if word ∈ ["1", "true", "on", "yes"] then some true
    else if word ∈ ["0", "false", "off", "no"] then some false
    else none
  | _ => none

/-- The fields of a record. It is a table, or a list of its fields in the order of `names`. -/
def fields? (names : List String) : Setting → Option (List (String × Setting))
  | table entries => some entries
  | list items => some (names.zip items)
  | _ => none

end Setting
end DocOptions
