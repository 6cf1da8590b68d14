import DocOptions.Proofs.Directive.Lines
import Mathlib.Data.List.Induction
import Mathlib.Data.String.Basic

/-! What an index answers. It finds directives by places that it keeps beside its list, and tells
the keys below a scope by a byte position; its answers are those of the plain list. -/

namespace DocOptions

/-- A key is a scope itself or lies below it. -/
def AtOrBelow (scope key : String) : Prop :=
  key = scope ∨ ∃ rest, key = scope ++ "-" ++ rest

/-- The byte position that ends a text leads to the character after the text. -/
theorem get?_rawEndPos (scope rest : String) :
    scope.rawEndPos.get? (scope ++ rest) = rest.toList.head? := by
  have found := String.get?_of_valid scope.toList rest.toList
  rwa [String.ofList_append, String.ofList_toList, String.ofList_toList, String.utf8Len_toList]
    at found

theorem isUnder_iff {scope key : String} :
    DirectiveIndex.isUnder scope key = true ↔ AtOrBelow scope key := by
  simp only [DirectiveIndex.isUnder, Bool.or_eq_true, Bool.and_eq_true, beq_iff_eq,
    decide_eq_true_iff, List.isPrefixOf_iff_prefix]
  refine or_congr_right ?_
  constructor
  · rintro ⟨⟨-, rest, joined⟩, hyphen⟩
    obtain rfl : key = scope ++ String.ofList rest := String.toList_inj.mp (by simp [← joined])
    rw [get?_rawEndPos, String.toList_ofList] at hyphen
    obtain ⟨more, rfl⟩ := List.head?_eq_some_iff.mp hyphen
    exact ⟨String.ofList more, String.toList_inj.mp (by simp)⟩
  · rintro ⟨rest, rfl⟩
    rw [String.append_assoc]
    refine ⟨⟨?_, ("-" ++ rest).toList, String.toList_append.symm⟩, ?_⟩
    · have hyphen : "-".utf8ByteSize = 1 := rfl
      rw [String.utf8ByteSize_append, String.utf8ByteSize_append, hyphen]
      omega
    · rw [get?_rawEndPos, String.toList_append]
      rfl

instance (scope key : String) : Decidable (AtOrBelow scope key) :=
  decidable_of_iff _ isUnder_iff

namespace DirectiveIndex

theorem mem_getAll_iff {index : DirectiveIndex} {key : String} {source : Occurrence} :
    source ∈ index.getAll key ↔ source ∈ index.entries ∧ source.key = key := by
  simp [getAll_eq]

theorem getAll_key (index : DirectiveIndex) (key : String) :
    ∀ source ∈ index.getAll key, source.key = key :=
  fun _ member => (mem_getAll_iff.mp member).2

theorem getAll_ne_nil_iff {index : DirectiveIndex} {key : String} :
    index.getAll key ≠ [] ↔ ∃ source ∈ index.entries, source.key = key := by
  simp [getAll_eq, List.filter_eq_nil_iff]

theorem has_iff {index : DirectiveIndex} {key : String} :
    index.has key = true ↔ index.getAll key ≠ [] := by
  have listed : index.getAll key ≠ [] ↔ index.places key ≠ [] := by
    have places := congrArg List.length (index.map_getElem?_places key)
    rw [List.length_map, List.length_map, ← getAll_eq] at places
    rw [← List.length_pos_iff, ← List.length_pos_iff, places]
  rw [listed, has, TextMap.contains, places, index.get?_byKey, placesIn]
  split <;> simp

theorem under_eq (index : DirectiveIndex) (scope : String) :
    index.under scope = index.entries.filter fun entry => AtOrBelow scope entry.key := by
  apply List.filter_congr
  intro entry _
  rw [Bool.eq_iff_iff, isUnder_iff, decide_eq_true_iff]

end DirectiveIndex

/-- The keys of a list, in the order in which they first occur. The order is strict, so each key is
there once. -/
structure ByFirst (keys distinct : List String) : Prop where
  mem : ∀ key, key ∈ distinct ↔ key ∈ keys
  order : distinct.Pairwise fun first second => keys.idxOf first < keys.idxOf second

theorem ByFirst.concat {keys distinct : List String} (sorted : ByFirst keys distinct)
    (key : String) :
    ByFirst (keys ++ [key]) (if key ∈ distinct then distinct else distinct ++ [key]) := by
  have earlier : ∀ k ∈ distinct, (keys ++ [key]).idxOf k = keys.idxOf k :=
    fun k member => List.idxOf_append_of_mem ((sorted.mem k).mp member)
  have still : distinct.Pairwise fun first second =>
      (keys ++ [key]).idxOf first < (keys ++ [key]).idxOf second := by
    refine sorted.order.imp_of_mem fun {first second} isFirst isSecond less => ?_
    rwa [earlier first isFirst, earlier second isSecond]
  split
  · rename_i seen
    refine ⟨fun k => ?_, still⟩
    rw [List.mem_append, List.mem_singleton, sorted.mem]
    exact ⟨.inl, fun member => member.elim id fun same => same ▸ (sorted.mem key).mp seen⟩
  · rename_i new
    refine ⟨fun k => ?_, ?_⟩
    · rw [List.mem_append, List.mem_append, sorted.mem]
    · refine List.pairwise_append.mpr ⟨still, List.pairwise_singleton _ _, ?_⟩
      intro first isFirst last isLast
      obtain rfl := List.mem_singleton.mp isLast
      have fresh : last ∉ keys := fun member => new ((sorted.mem last).mpr member)
      have place : (keys ++ [last]).idxOf last = keys.length := by
        rw [List.idxOf_append_of_notMem fresh, List.idxOf_cons_self, Nat.add_zero]
      rw [earlier first isFirst, place]
      exact List.idxOf_lt_length_of_mem ((sorted.mem first).mp isFirst)

theorem DirectiveIndex.byFirst_keys (index : DirectiveIndex) :
    ByFirst (index.entries.map (·.key)) index.keys := by
  rw [keys]
  induction index.entries.map (·.key) using List.reverseRecOn with
  | nil => exact ⟨fun _ => Iff.rfl, .nil⟩
  | append_singleton keys key ih =>
    rw [List.foldl_concat]
    exact ih.concat key

/-- Lines, each of which is either indexed, as the directive it reads as, or rejected, for the error
that reading it ends in; both in the order of the lines. -/
inductive SortsLines : List (String × Position) → List Occurrence → List RejectedLine → Prop
  | done : SortsLines [] [] []
  | indexed {text : String} {position : Position} {directive : Directive}
      {lines : List (String × Position)} {entries : List Occurrence}
      {rejected : List RejectedLine} :
      Directive.read text = .ok directive → SortsLines lines entries rejected →
      SortsLines ((text, position) :: lines) (⟨directive, position⟩ :: entries) rejected
  | rejected {text : String} {position : Position} {error : GrammarError}
      {lines : List (String × Position)} {entries : List Occurrence}
      {rejected : List RejectedLine} :
      Directive.read text = .error error → SortsLines lines entries rejected →
      SortsLines ((text, position) :: lines) entries (⟨text, position, error⟩ :: rejected)

theorem sortsLines_filterMap (lines : List (String × Position)) :
    SortsLines lines (lines.filterMap occurrenceOf?) (lines.filterMap rejectionOf?) := by
  induction lines with
  | nil => exact .done
  | cons line rest ih =>
    obtain ⟨text, position⟩ := line
    cases read : Directive.read text with
    | ok directive =>
      have entry : occurrenceOf? (text, position) = some ⟨directive, position⟩ := by
        simp [occurrenceOf?, read]
      rw [List.filterMap_cons_some entry, List.filterMap_cons_none (by simp [rejectionOf?, read])]
      exact .indexed read ih
    | error error =>
      have rejection : rejectionOf? (text, position) = some ⟨text, position, error⟩ := by
        simp [rejectionOf?, read]
      rw [List.filterMap_cons_none (by simp [occurrenceOf?, read]),
        List.filterMap_cons_some rejection]
      exact .rejected read ih

/-- An index answers every question as the list of its entries does. -/
structure DirectiveIndex.Answers (index : DirectiveIndex) (entries : List Occurrence) : Prop where
  all : index.entries = entries
  /-- The places that are kept for a key are places of the list. -/
  places : ∀ key, (index.places key).map (entries[·]?) =
    (entries.filter (·.key = key)).map some
  first : ∀ key, index.get? key = entries.find? (·.key = key)
  every : ∀ key, index.getAll key = entries.filter (·.key = key)
  has : ∀ key, index.has key = true ↔ ∃ entry ∈ entries, entry.key = key
  keys : ByFirst (entries.map (·.key)) index.keys
  under : ∀ scope, index.under scope = entries.filter fun entry => AtOrBelow scope entry.key

theorem DirectiveIndex.answers_entries (index : DirectiveIndex) : index.Answers index.entries where
  all := rfl
  places := index.map_getElem?_places
  first := index.get?_eq
  every := index.getAll_eq
  has _ := has_iff.trans getAll_ne_nil_iff
  keys := index.byFirst_keys
  under := index.under_eq

/-- Each line is indexed or rejected, and what is asked of the index is answered as by the list of
the lines that are indexed. -/
theorem DirectiveIndex.ofLines_answers (lines : List (String × Position)) :
    ∃ entries, SortsLines lines entries (ofLines lines).2 ∧ (ofLines lines).1.Answers entries := by
  obtain ⟨entries, rejected⟩ := ofLines_eq lines
  refine ⟨_, ?_, (ofLines lines).1.answers_entries⟩
  rw [entries, rejected]
  exact sortsLines_filterMap lines

end DocOptions
