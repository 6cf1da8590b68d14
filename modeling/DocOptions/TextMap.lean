/-! Finite maps keyed by text. The entries are kept in strictly increasing order of their keys, so
a map has one representation: maps with the same look-ups are equal (`TextMap.ext_get?`). -/

namespace DocOptions

universe u v

/-- A finite map from text, listed in the order of its keys. -/
structure TextMap (α : Type u) where
  entries : List (String × α)
  sorted : entries.Pairwise (fun a b => a.1 < b.1)
  deriving DecidableEq

/-- A finite set of texts. -/
abbrev TextSet := TextMap Unit

namespace TextMap

variable {α : Type u} {β : Type v}

theorem lt_or_gt_of_ne {a b : String} (different : a ≠ b) : a < b ∨ b < a := by
  by_cases less : a < b
  · exact .inl less
  · by_cases greater : b < a
    · exact .inr greater
    · exact absurd (String.le_antisymm (String.not_lt.mp greater) (String.not_lt.mp less)) different

/-- Puts an entry in its place, over the one that has its key. -/
def insertEntry (key : String) (value : α) : List (String × α) → List (String × α)
  | [] => [(key, value)]
  | (k, v) :: rest =>
    if key < k then (key, value) :: (k, v) :: rest
    else if key = k then (key, value) :: rest
    else (k, v) :: insertEntry key value rest

theorem mem_insertEntry {key : String} {value : α} {entry : String × α}
    {entries : List (String × α)} (member : entry ∈ insertEntry key value entries) :
    entry = (key, value) ∨ entry ∈ entries := by
  induction entries with
  | nil => simpa [insertEntry] using member
  | cons first rest ih =>
    simp only [insertEntry] at member
    split at member
    · simpa using member
    · split at member
      · rcases List.mem_cons.mp member with h | h
        · exact .inl h
        · exact .inr (List.mem_cons_of_mem _ h)
      · rcases List.mem_cons.mp member with h | h
        · exact .inr (by simp [h])
        · exact (ih h).imp id (List.mem_cons_of_mem _)

theorem sorted_insertEntry (key : String) (value : α) {entries : List (String × α)}
    (sorted : entries.Pairwise (fun a b => a.1 < b.1)) :
    (insertEntry key value entries).Pairwise (fun a b => a.1 < b.1) := by
  induction entries with
  | nil => simp [insertEntry]
  | cons first rest ih =>
    obtain ⟨k, v⟩ := first
    have ⟨above, tail⟩ := List.pairwise_cons.mp sorted
    simp only [insertEntry]
    split
    · rename_i less
      refine List.pairwise_cons.mpr ⟨fun entry member => ?_, sorted⟩
      rcases List.mem_cons.mp member with h | h
      · simpa [h] using less
      · exact String.lt_trans less (above entry h)
    · split
      · rename_i _ same
        subst same
        exact List.pairwise_cons.mpr ⟨above, tail⟩
      · rename_i notLess different
        have greater : k < key := (lt_or_gt_of_ne different).resolve_left notLess
        refine List.pairwise_cons.mpr ⟨fun entry member => ?_, ih tail⟩
        rcases mem_insertEntry member with h | h
        · simpa [h] using greater
        · exact above entry h

/-- The map without entries. -/
def empty : TextMap α := ⟨[], .nil⟩

instance : EmptyCollection (TextMap α) := ⟨empty⟩

instance : Inhabited (TextMap α) := ⟨∅⟩

/-- Binds a key to a value, in place of what it was bound to. -/
def insert (map : TextMap α) (key : String) (value : α) : TextMap α :=
  ⟨insertEntry key value map.entries, sorted_insertEntry key value map.sorted⟩

/-- The value bound to a key. -/
def get? (map : TextMap α) (key : String) : Option α :=
  map.entries.lookup key

def contains (map : TextMap α) (key : String) : Bool :=
  (map.get? key).isSome

/-- The keys, each once, in increasing order. -/
def keys (map : TextMap α) : List String :=
  map.entries.map (·.1)

def size (map : TextMap α) : Nat :=
  map.entries.length

def isEmpty (map : TextMap α) : Bool :=
  map.entries.isEmpty

/-- Binds the pairs from left to right, so the last pair with a key decides. -/
def insertMany (map : TextMap α) (pairs : List (String × α)) : TextMap α :=
  pairs.foldl (fun map pair => map.insert pair.1 pair.2) map

def ofList (pairs : List (String × α)) : TextMap α :=
  insertMany ∅ pairs

/-- Both maps together; the second decides on a key of both. -/
def override (lower upper : TextMap α) : TextMap α :=
  lower.insertMany upper.entries

def singleton (key : String) (value : α) : TextMap α :=
  ⟨[(key, value)], List.pairwise_singleton _ _⟩

theorem lookup_entry (k : String) (first : String × α) (rest : List (String × α)) :
    (first :: rest).lookup k = if k = first.1 then some first.2 else rest.lookup k := by
  rw [show first :: rest = (first.1, first.2) :: rest from rfl, List.lookup_cons]
  by_cases same : k = first.1
  · simp [same]
  · simp [same, beq_eq_false_iff_ne.mpr same]

theorem lookup_insertEntry (key : String) (value : α) (entries : List (String × α)) (k : String) :
    (insertEntry key value entries).lookup k =
      if k = key then some value else entries.lookup k := by
  induction entries with
  | nil => simp [insertEntry, lookup_entry]
  | cons first rest ih =>
    obtain ⟨k', v⟩ := first
    simp only [insertEntry]
    split
    · simp [lookup_entry]
    · split
      · rename_i _ same
        subst same
        by_cases h : k = key <;> simp [lookup_entry, h]
      · rename_i _ different
        by_cases h : k = k'
        · subst h
          simp [Ne.symm different]
        · simp [lookup_entry, h, ih]

@[simp] theorem get?_empty (k : String) : (∅ : TextMap α).get? k = none := rfl

@[simp] theorem get?_insert (map : TextMap α) (key : String) (value : α) (k : String) :
    (map.insert key value).get? k = if k = key then some value else map.get? k :=
  lookup_insertEntry key value map.entries k

theorem lookup_eq_none_of_above {k : String} {entries : List (String × α)}
    (above : ∀ entry ∈ entries, k < entry.1) : entries.lookup k = none := by
  induction entries with
  | nil => rfl
  | cons first rest ih =>
    have different : k ≠ first.1 := fun same =>
      String.lt_irrefl first.1 (same ▸ above first (by simp))
    rw [lookup_entry, if_neg different]
    exact ih fun entry member => above entry (List.mem_cons_of_mem _ member)

/-- Sorted entries are determined by their look-ups. -/
theorem entries_eq_of_lookup {left right : List (String × α)}
    (leftSorted : left.Pairwise (fun a b => a.1 < b.1))
    (rightSorted : right.Pairwise (fun a b => a.1 < b.1))
    (same : ∀ k, left.lookup k = right.lookup k) : left = right := by
  induction left generalizing right with
  | nil =>
    cases right with
    | nil => rfl
    | cons first rest => simpa [lookup_entry] using same first.1
  | cons a as ih =>
    cases right with
    | nil => simpa [lookup_entry] using same a.1
    | cons b bs =>
      have ⟨aboveA, tailA⟩ := List.pairwise_cons.mp leftSorted
      have ⟨aboveB, tailB⟩ := List.pairwise_cons.mp rightSorted
      have keysSame : a.1 = b.1 := by
        by_cases h : a.1 = b.1
        · exact h
        · rcases lt_or_gt_of_ne h with less | greater
          · have := same a.1
            rw [@lookup_eq_none_of_above _ _ (b :: bs) fun entry member => by
              rcases List.mem_cons.mp member with h | h
              · simpa [h] using less
              · exact String.lt_trans less (aboveB entry h)] at this
            simp [lookup_entry] at this
          · have := same b.1
            rw [@lookup_eq_none_of_above _ _ (a :: as) fun entry member => by
              rcases List.mem_cons.mp member with h | h
              · simpa [h] using greater
              · exact String.lt_trans greater (aboveA entry h)] at this
            simp [lookup_entry] at this
      have valuesSame : a.2 = b.2 := by
        have := same a.1
        simpa [lookup_entry, keysSame] using this
      have tails : as = bs := by
        refine ih tailA tailB fun k => ?_
        by_cases h : k = a.1
        · rw [h, lookup_eq_none_of_above aboveA, keysSame, lookup_eq_none_of_above aboveB]
        · have := same k
          simpa [lookup_entry, h, keysSame ▸ h] using this
      rw [tails, show a = b from Prod.ext keysSame valuesSame]

/-- Maps with the same look-ups are equal. -/
theorem ext_get? {left right : TextMap α} (same : ∀ k, left.get? k = right.get? k) :
    left = right := by
  obtain ⟨l, hl⟩ := left
  obtain ⟨r, hr⟩ := right
  have : l = r := entries_eq_of_lookup hl hr same
  subst this
  rfl

@[simp] theorem get?_singleton (key : String) (value : α) (k : String) :
    (singleton key value).get? k = if k = key then some value else none := by
  simp [singleton, get?, lookup_entry]

/-- Sorted pairs have a key each, so none of them is put over another. -/
theorem get?_insertMany_of_sorted (map : TextMap α) {pairs : List (String × α)}
    (sorted : pairs.Pairwise (fun a b => a.1 < b.1)) (k : String) :
    (map.insertMany pairs).get? k = (pairs.lookup k).or (map.get? k) := by
  induction pairs generalizing map with
  | nil => rfl
  | cons first rest ih =>
    have ⟨above, tail⟩ := List.pairwise_cons.mp sorted
    have step := ih (map.insert first.1 first.2) tail
    rw [get?_insert] at step
    rw [show map.insertMany (first :: rest) = (map.insert first.1 first.2).insertMany rest from rfl,
      step, lookup_entry]
    by_cases same : k = first.1
    · subst same
      simp [lookup_eq_none_of_above above]
    · simp [same]

/-- The last pair with a key decides. -/
theorem get?_insertMany (map : TextMap α) (pairs : List (String × α)) (k : String) :
    (map.insertMany pairs).get? k =
      ((pairs.filter (·.1 == k)).getLast?.map (·.2)).or (map.get? k) := by
  induction pairs generalizing map with
  | nil => rfl
  | cons first rest ih =>
    have step := ih (map.insert first.1 first.2)
    rw [get?_insert] at step
    rw [show map.insertMany (first :: rest) = (map.insert first.1 first.2).insertMany rest from rfl,
      step, List.filter_cons]
    by_cases same : first.1 = k
    · cases later : (rest.filter (·.1 == k)).getLast? with
      | none => simp [same, later, List.getLast?_cons]
      | some last => simp [same, later, List.getLast?_cons]
    · simp [same, Ne.symm same]

theorem get?_ofList (pairs : List (String × α)) (k : String) :
    (ofList pairs).get? k = (pairs.filter (·.1 == k)).getLast?.map (·.2) := by
  rw [ofList, get?_insertMany, get?_empty, Option.or_none]

theorem get?_ofList_of_unique {pairs : List (String × α)} {k : String} {v : α}
    (member : (k, v) ∈ pairs) (unique : ∀ pair ∈ pairs, pair.1 = k → pair = (k, v)) :
    (ofList pairs).get? k = some v := by
  have own : (k, v) ∈ pairs.filter (·.1 == k) := List.mem_filter.mpr ⟨member, beq_self_eq_true k⟩
  have found := List.getLast?_eq_some_getLast (List.ne_nil_of_mem own)
  obtain ⟨inside, key⟩ := List.mem_filter.mp (List.getLast_mem (List.ne_nil_of_mem own))
  rw [get?_ofList, found, unique _ inside (beq_iff_eq.mp key), Option.map_some]

/-- The second map decides on a key of both. -/
@[simp] theorem get?_override (lower upper : TextMap α) (k : String) :
    (lower.override upper).get? k = (upper.get? k).or (lower.get? k) :=
  get?_insertMany_of_sorted lower upper.sorted k

@[simp] theorem contains_override (lower upper : TextMap α) (k : String) :
    (lower.override upper).contains k = (lower.contains k || upper.contains k) := by
  rw [contains, get?_override, contains, contains, Option.isSome_or, Bool.or_comm]

@[simp] theorem empty_override (map : TextMap α) : (∅ : TextMap α).override map = map :=
  ext_get? fun k => by simp

@[simp] theorem override_empty (map : TextMap α) : map.override ∅ = map :=
  ext_get? fun k => by simp

theorem override_assoc (a b c : TextMap α) :
    (a.override b).override c = a.override (b.override c) :=
  ext_get? fun k => by simp [Option.or_assoc]

/-- A map is rebuilt from its entries. -/
@[simp] theorem ofList_entries (map : TextMap α) : ofList map.entries = map :=
  ext_get? fun k => by
    rw [ofList, get?_insertMany_of_sorted ∅ map.sorted, get?_empty, Option.or_none, get?]

theorem ofList_append (first second : List (String × α)) :
    ofList (first ++ second) = (ofList first).override (ofList second) :=
  ext_get? fun k => by
    rw [get?_override, get?_ofList, get?_ofList, get?_ofList, List.filter_append,
      List.getLast?_append, Option.map_or]

/-- Binding pairs makes no entry that is not one of them. -/
theorem mem_entries_insertMany {map : TextMap α} {pairs : List (String × α)} {entry : String × α}
    (member : entry ∈ (map.insertMany pairs).entries) : entry ∈ pairs ∨ entry ∈ map.entries := by
  induction pairs generalizing map with
  | nil => exact .inr member
  | cons first rest ih =>
    rcases @ih (map.insert first.1 first.2) member with later | earlier
    · exact .inl (List.mem_cons_of_mem _ later)
    · rcases mem_insertEntry earlier with rfl | before
      · exact .inl List.mem_cons_self
      · exact .inr before

theorem mem_entries_ofList {pairs : List (String × α)} {entry : String × α}
    (member : entry ∈ (ofList pairs).entries) : entry ∈ pairs :=
  (mem_entries_insertMany member).resolve_right fun inEmpty => nomatch inEmpty

theorem contains_iff_mem_keys (map : TextMap α) (key : String) :
    map.contains key = true ↔ key ∈ map.keys := by
  obtain ⟨entries, sorted⟩ := map
  simp only [contains, get?, keys]
  clear sorted
  induction entries with
  | nil => simp
  | cons first rest ih =>
    by_cases h : key = first.1
    · simp [lookup_entry, h]
    · simp [lookup_entry, h, ih]

end TextMap
end DocOptions
