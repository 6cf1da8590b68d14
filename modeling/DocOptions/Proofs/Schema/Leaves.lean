import DocOptions.Schema.Decode

/-! The fields of a table that directives are looked up for, and the keys they are looked up under.
A group has no key of its own: its name leads to the fields inside it. The keys are written down
here from the names alone, apart from the scopes that binding passes along. -/

namespace DocOptions

/-- The key below a scope that names lead to, such as `http-default-accept`. -/
def keyBelow (scope : String) (names : List String) : String :=
  "-".intercalate (scope :: names)

theorem keyBelow_singleton (scope name : String) : keyBelow scope [name] = s!"{scope}-{name}" := by
  rw [keyBelow, String.intercalate_cons_cons, String.intercalate_singleton]
  rfl

theorem keyBelow_cons (scope name : String) (names : List String) :
    keyBelow scope (name :: names) = keyBelow s!"{scope}-{name}" names := by
  rw [keyBelow, keyBelow, String.intercalate_cons_cons, ← String.intercalate_cons_append]
  rfl

namespace Table

/-- The names that lead to each field but a group, in the order of the fields. -/
def namePaths : {shape : Shape} → Table shape → List (List String)
  | _, nil => []
  | _, leaf spec _ next => [spec.name] :: next.namePaths
  | _, composite spec .group _ inner next =>
    inner.namePaths.map (spec.name :: ·) ++ next.namePaths
  | _, composite spec .inline _ _ next => [spec.name] :: next.namePaths
  | _, composite spec .inlineList _ _ next => [spec.name] :: next.namePaths

/-- The keys below a scope that belong to fields of a table, also to those inside groups. -/
def keys {shape : Shape} (table : Table shape) (scope : String) : List String :=
  table.namePaths.map (keyBelow scope)

variable {nested rest : Shape} (spec : FieldSpec) (scope name : String) (inner : Table nested)
  (next : Table rest)

@[simp] theorem keys_leaf (kind : Leaf) :
    (leaf spec kind next).keys scope = s!"{scope}-{spec.name}" :: next.keys scope := by
  rw [← keyBelow_singleton]
  rfl

@[simp] theorem keys_group :
    (composite spec .group name inner next).keys scope =
      inner.keys s!"{scope}-{spec.name}" ++ next.keys scope := by
  simp only [keys, namePaths, List.map_append, List.map_map, List.append_cancel_right_eq]
  exact List.map_congr_left fun names _ => keyBelow_cons scope spec.name names

@[simp] theorem keys_inline :
    (composite spec .inline name inner next).keys scope =
      s!"{scope}-{spec.name}" :: next.keys scope := by
  rw [← keyBelow_singleton]
  rfl

@[simp] theorem keys_inlineList :
    (composite spec .inlineList name inner next).keys scope =
      s!"{scope}-{spec.name}" :: next.keys scope := by
  rw [← keyBelow_singleton]
  rfl

end Table

/-- A leaf of a table, among its own fields or inside its groups. -/
inductive LeafRef (kind : Leaf) : {shape : Shape} → Table shape → Type
  | here {rest : Shape} {spec : FieldSpec} {next : Table rest} :
      LeafRef kind (.leaf spec kind next)
  | afterLeaf {rest : Shape} {spec : FieldSpec} {other : Leaf} {next : Table rest} :
      LeafRef kind next → LeafRef kind (.leaf spec other next)
  | afterComposite {nested rest : Shape} {spec : FieldSpec} {other : Composite} {name : String}
      {inner : Table nested} {next : Table rest} :
      LeafRef kind next → LeafRef kind (.composite spec other name inner next)
  | inGroup {nested rest : Shape} {spec : FieldSpec} {name : String} {inner : Table nested}
      {next : Table rest} :
      LeafRef kind inner → LeafRef kind (.composite spec .group name inner next)

namespace LeafRef

variable {kind : Leaf}

/-- The names of the groups around the leaf, from the outside in, and its own. -/
def names : {shape : Shape} → {table : Table shape} → LeafRef kind table → List String
  | _, .leaf spec _ _, here => [spec.name]
  | _, _, afterLeaf ref => ref.names
  | _, _, afterComposite ref => ref.names
  | _, .composite spec _ _ _ _, inGroup ref => spec.name :: ref.names

/-- The key that the leaf has below a scope. -/
def key {shape : Shape} {table : Table shape} (ref : LeafRef kind table) (scope : String) :
    String :=
  keyBelow scope ref.names

/-- What a record holds in the leaf. -/
def get : {shape : Shape} → {table : Table shape} → LeafRef kind table → shape.Record → kind.Slot
  | _, _, here, (slot, _) => slot
  | _, _, afterLeaf ref, (_, rest) => ref.get rest
  | _, _, afterComposite ref, (_, rest) => ref.get rest
  | _, _, inGroup ref, (slot, _) => ref.get slot

end LeafRef
end DocOptions
