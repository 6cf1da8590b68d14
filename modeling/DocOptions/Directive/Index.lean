import DocOptions.Directive.Read

/-! The directives of one declaration, in the order of their lines, found by key. -/

namespace DocOptions

/-- A line that is no directive, and why. -/
structure RejectedLine where
  text : String
  position : Position
  error : GrammarError
  deriving DecidableEq

/-- The places of the occurrences with a key, in order; `none` if there are none. -/
def placesIn (entries : List Occurrence) (key : String) : Option (List Nat) :=
  match (entries.zipIdx.filter (·.1.key == key)).map Prod.snd with
  | [] => none
  | first :: rest => some (first :: rest)

/-- Directives in the order they were written, and the places in this order of those with each
key. -/
structure DirectiveIndex where
  entries : List Occurrence
  byKey : TextMap (List Nat)
  get?_byKey : ∀ key, byKey.get? key = placesIn entries key

namespace DirectiveIndex

def empty : DirectiveIndex := ⟨[], ∅, fun _ => rfl⟩

instance : Inhabited DirectiveIndex := ⟨empty⟩

/-- Adds a directive after all others. -/
def push (index : DirectiveIndex) (a : Occurrence) : DirectiveIndex where
  entries := index.entries ++ [a]
  byKey := index.byKey.insert a.key
    ((index.byKey.get? a.key).getD [] ++ [index.entries.length])
  get?_byKey key := by
    rw [TextMap.get?_insert, index.get?_byKey, index.get?_byKey]
    by_cases same : key = a.key
    · subst same
      cases h : (index.entries.zipIdx.filter (·.1.key == a.key)).map Prod.snd <;>
        simp [placesIn, List.zipIdx_append, List.filter_append, h]
    · simp [placesIn, List.zipIdx_append, List.filter_append, same, Ne.symm same]

def ofList (entries : List Occurrence) : DirectiveIndex :=
  entries.foldl push empty

/-- Reads lines. The ones that are directives make the index, the others are returned beside it;
each keeps its order. -/
def ofLines (lines : List (String × Position)) : DirectiveIndex × List RejectedLine :=
  lines.foldl (fun (index, rejected) (text, position) =>
    match Directive.read text with
    | .ok directive => (index.push ⟨directive, position⟩, rejected)
    | .error error => (index, rejected ++ [⟨text, position, error⟩])) (empty, [])

/-- The places of the directives with a key, in order. -/
def places (index : DirectiveIndex) (key : String) : List Nat :=
  (index.byKey.get? key).getD []

theorem places_eq (index : DirectiveIndex) (key : String) :
    index.places key = (index.entries.zipIdx.filter (·.1.key == key)).map Prod.snd := by
  rw [places, index.get?_byKey, placesIn]
  split
  · rename_i missing
    exact missing.symm
  · rename_i held
    exact held.symm

/-- Every directive with a key, in order. -/
def getAll (index : DirectiveIndex) (key : String) : List Occurrence :=
  (index.places key).filterMap (index.entries[·]?)

/-- The first directive with a key. -/
def get? (index : DirectiveIndex) (key : String) : Option Occurrence :=
  (index.getAll key).head?

def has (index : DirectiveIndex) (key : String) : Bool :=
  index.byKey.contains key

/-- Whether a key is `scope` itself or lies below it, after a hyphen. What follows the scope is
found by the number of its bytes. -/
def isUnder (scope key : String) : Bool :=
  key == scope ||
    (scope.utf8ByteSize < key.utf8ByteSize && scope.toList.isPrefixOf key.toList &&
      scope.rawEndPos.get? key == some '-')

/-- The directives at or below a key, in order. -/
def under (index : DirectiveIndex) (scope : String) : List Occurrence :=
  index.entries.filter (isUnder scope ·.key)

/-- The keys, each once, in the order of their first occurrences. -/
def keys (index : DirectiveIndex) : List String :=
  (index.entries.map (·.key)).foldl (fun seen key => if key ∈ seen then seen else seen ++ [key]) []

@[simp] theorem entries_push (index : DirectiveIndex) (a : Occurrence) :
    (index.push a).entries = index.entries ++ [a] := rfl

theorem entries_foldl_push (index : DirectiveIndex) (entries : List Occurrence) :
    (entries.foldl push index).entries = index.entries ++ entries := by
  induction entries generalizing index with
  | nil => simp
  | cons a rest ih => simp [ih]

/-- The index of a list has its elements for entries. -/
@[simp] theorem entries_ofList (entries : List Occurrence) : (ofList entries).entries = entries :=
  entries_foldl_push empty entries

/-- The places of a key are places of the list, and hold the directives with the key. -/
theorem map_getElem?_places (index : DirectiveIndex) (key : String) :
    (index.places key).map (index.entries[·]?) =
      (index.entries.filter (·.key == key)).map some := by
  have held : ∀ entry ∈ index.entries.zipIdx.filter (·.1.key == key),
      index.entries[entry.2]? = some entry.1 := by
    intro entry member
    exact List.mk_mem_zipIdx_iff_getElem?.mp (List.mem_filter.mp member).1
  have kept : (index.entries.zipIdx.filter (·.1.key == key)).map Prod.fst =
      index.entries.filter (·.key == key) := by
    have all : index.entries.zipIdx.map Prod.fst = index.entries := List.zipIdx_map_fst 0 _
    rw [← congrArg (List.filter (·.key == key)) all, List.filter_map]
    rfl
  rw [places_eq, List.map_map, ← kept, List.map_map]
  exact List.map_congr_left held

theorem getAll_eq (index : DirectiveIndex) (key : String) :
    index.getAll key = index.entries.filter (·.key == key) := by
  have found := congrArg (List.filterMap id) (index.map_getElem?_places key)
  rw [List.filterMap_map, List.filterMap_map, Function.id_comp, Function.id_comp,
    List.filterMap_some] at found
  exact found

theorem get?_eq (index : DirectiveIndex) (key : String) :
    index.get? key = index.entries.find? (·.key == key) := by
  rw [get?, getAll_eq, List.head?_filter]

end DirectiveIndex
end DocOptions
