import DocOptions.Settings.Tree

/-! The tables of a document while it is read. -/

namespace DocOptions.Toml

/-- A value, a table, or an array of tables. A table is `implied` until its own header has been
read: it came up in a longer header or in a dotted key, and is `dotted` in the second case. -/
inductive Node
  | value (setting : Setting)
  | table (implied dotted : Bool) (entries : List (String × Node))
  /-- The last one of the tables is still open; those before it are finished. -/
  | tables (closed : List Setting) (last : List (String × Node))

/-- The entries of a table. -/
abbrev Entries := List (String × Node)

namespace Node

def put (key : String) (node : Node) : Entries → Entries
  | [] => [(key, node)]
  | (k, n) :: rest => if k = key then (k, node) :: rest else (k, n) :: put key node rest

mutual

def setting : Node → Setting
  | value s => s
  | table _ _ entries => .table (settings entries)
  | tables closed last => .list (closed ++ [.table (settings last)])

def settings : Entries → List (String × Setting)
  | [] => []
  | (key, node) :: rest => (key, node.setting) :: settings rest

end

/-- Adds a value to a table that is reached by dotted keys from another one. Tables on the way must
not have had a header, the last one has to be made by dotted keys alone, and the key must be new. -/
def addDotted (setting : Setting) : List String → Bool → Entries → Option Entries
  | [], _, _ => none
  | [key], dotted, entries =>
    if dotted ∧ (entries.lookup key).isNone then some (put key (.value setting) entries) else none
  | key :: path, _, entries =>
    match entries.lookup key with
    | none =>
      (addDotted setting path true []).map fun inner => put key (.table true true inner) entries
    | some (.table true dotted inner) =>
      (addDotted setting path dotted inner).map fun inner =>
        put key (.table true dotted inner) entries
    | some (.tables closed last) =>
      (addDotted setting path false last).map fun last => put key (.tables closed last) entries
    | some _ => none

/-- Adds a value at a key of a table that has a header; a key without dots must be new. -/
def addValue (setting : Setting) (path : List String) (entries : Entries) : Option Entries :=
  addDotted setting path (path.length == 1) entries

/-- Changes the table that a header names. An array of tables stands for its last table. -/
def atHeader (change : Entries → Option Entries) : List String → Entries → Option Entries
  | [], entries => change entries
  | key :: path, entries =>
    match entries.lookup key with
    | none => (atHeader change path []).map fun inner => put key (.table true false inner) entries
    | some (.table implied dotted inner) =>
      (atHeader change path inner).map fun inner => put key (.table implied dotted inner) entries
    | some (.tables closed last) =>
      (atHeader change path last).map fun last => put key (.tables closed last) entries
    | some (.value _) => none

/-- Opens the table of a header at its last key; it must be new or implied by longer headers. -/
def openTable (key : String) (entries : Entries) : Option Entries :=
  match entries.lookup key with
  | none => some (put key (.table false false []) entries)
  | some (.table true false inner) => some (put key (.table false false inner) entries)
  | some _ => none

/-- Opens one more table of an array of tables. -/
def openNext (key : String) (entries : Entries) : Option Entries :=
  match entries.lookup key with
  | none => some (put key (.tables [] []) entries)
  | some (.tables closed last) =>
    some (put key (.tables (closed ++ [.table (settings last)]) []) entries)
  | some _ => none

end Node
end DocOptions.Toml
