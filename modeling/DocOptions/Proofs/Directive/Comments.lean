import DocOptions.Comment
import DocOptions.Proofs.Directive.Boundary
import DocOptions.Proofs.Directive.Lines

/-! The directives among the comments above a declaration. Each comment is sorted and read by
itself, so the index of the declaration has the directives in the order of their comments. A comment
that is sorted as a directive starts with the marker, and with the marker a text always has a first
token, so none of them is rejected. -/

namespace DocOptions

open Text

/-- What a comment holds: the text behind all of its slashes and then all of the spaces. -/
def IsUncommented (raw : String) (text : List Char) : Prop :=
  ∃ slashes spaces : Nat,
    raw.toList = List.replicate slashes '/' ++ (List.replicate spaces ' ' ++ text) ∧
      (List.replicate spaces ' ' ++ text).head? ≠ some '/' ∧ text.head? ≠ some ' '

theorem dropWhile_beq_eq_iff {mark : Char} {chars rest : List Char} :
    chars.dropWhile (· == mark) = rest ↔
      (∃ count, chars = List.replicate count mark ++ rest) ∧ rest.head? ≠ some mark := by
  constructor
  · rintro rfl
    have marks : chars.takeWhile (· == mark) =
        List.replicate (chars.takeWhile (· == mark)).length mark :=
      List.eq_replicate_of_mem fun c member => by simpa using List.mem_takeWhile_imp member
    refine ⟨⟨(chars.takeWhile (· == mark)).length, ?_⟩, fun first => ?_⟩
    · rw [← marks, List.takeWhile_append_dropWhile]
    · have other := List.head?_dropWhile_not (· == mark) chars
      simp [first] at other
  · rintro ⟨⟨count, rfl⟩, other⟩
    rw [List.dropWhile_append_of_pos fun c member =>
      beq_iff_eq.mpr (List.eq_of_mem_replicate member)]
    cases rest with
    | nil => rfl
    | cons c rest => exact List.dropWhile_cons_of_neg (by simpa using other)

theorem isUncommented_iff {raw : String} {text : List Char} :
    IsUncommented raw text ↔ uncomment raw = text := by
  rw [uncomment, dropWhile_beq_eq_iff]
  constructor
  · rintro ⟨slashes, spaces, split, solid, first⟩
    exact ⟨⟨spaces, dropWhile_beq_eq_iff.mpr ⟨⟨slashes, split⟩, solid⟩⟩, first⟩
  · rintro ⟨⟨spaces, behind⟩, first⟩
    obtain ⟨⟨slashes, split⟩, solid⟩ := dropWhile_beq_eq_iff.mp behind
    exact ⟨slashes, spaces, split, solid, first⟩

/-- The directive of a comment above the declaration `name`, unless the comment is none. -/
def RawComment.occurrence? (name : String) (comment : RawComment) : Option Occurrence :=
  let line := CommentLine.classify comment.text name (comment.position.getD .unknown)
  if line.kind = .directive then occurrenceOf? (trim line.text, line.position) else none

namespace DocComments

theorem entries_collect (lines : List CommentLine) :
    (collect lines).index.entries =
      (lines.filter (·.kind == .directive)).filterMap fun line =>
        occurrenceOf? (trim line.text, line.position) := by
  simp only [collect, (DirectiveIndex.ofLines_eq _).1, List.filterMap_map, Function.comp_def]

theorem entries_ofRaw (name : String) (comments : List RawComment) :
    (ofRaw name comments).index.entries = comments.filterMap (RawComment.occurrence? name) := by
  rw [ofRaw, entries_collect, List.filterMap_filter, List.filterMap_map]
  congr 1
  funext comment
  simp [RawComment.occurrence?]

theorem rejected_collect (lines : List CommentLine) :
    (collect lines).rejected =
      (lines.filter (·.kind == .directive)).filterMap fun line =>
        rejectionOf? (trim line.text, line.position) := by
  simp only [collect, (DirectiveIndex.ofLines_eq _).2, List.filterMap_map, Function.comp_def]

end DocComments

/-- What a comment above the declaration `name` holds starts with the marker, and not with the name
if there is one. -/
def RawComment.IsMarked (name : String) (comment : RawComment) : Prop :=
  (uncomment comment.text).head? = some Directive.marker ∧
    ¬(name ≠ "" ∧ name.toList <+: uncomment comment.text)

instance (name : String) (comment : RawComment) : Decidable (comment.IsMarked name) :=
  inferInstanceAs (Decidable (_ ∧ ¬(_ ∧ _)))

/-- The source is what a comment holds, read as a directive, at the place of the comment. -/
structure RawComment.Holds (comment : RawComment) (source : Occurrence) : Prop where
  read : Directive.read (String.ofList (uncomment comment.text)) = .ok source.directive
  position : source.position = comment.position.getD .unknown

theorem CommentLine.classify_of_marked {name : String} {comment : RawComment}
    (marked : comment.IsMarked name) (position : Position) :
    classify comment.text name position =
      ⟨String.ofList (uncomment comment.text), .directive, position⟩ := by
  obtain ⟨first, untitled⟩ := marked
  have noTitle : (!name.isEmpty && name.toList.isPrefixOf (uncomment comment.text)) = false := by
    rw [Bool.eq_false_iff]
    simpa using untitled
  simp [classify, noTitle, first]

theorem CommentLine.kind_classify_of_unmarked {name : String} {comment : RawComment}
    (unmarked : ¬comment.IsMarked name) (position : Position) :
    (classify comment.text name position).kind ≠ .directive := by
  by_cases title : (!name.isEmpty && name.toList.isPrefixOf (uncomment comment.text)) = true
  · simp [classify, title]
  · have untitled : ¬(name ≠ "" ∧ name.toList <+: uncomment comment.text) := by simpa using title
    have first : (uncomment comment.text).head? ≠ some Directive.marker :=
      fun first => unmarked ⟨first, untitled⟩
    simp [classify, title, first]

namespace Directive

theorem read_trim (text : String) : read (trim text) = read text := by
  rw [read, trim_trim, read]

/-- The marker alone is a first token, whatever follows it. -/
theorem exists_read {text : String} (marked : text.toList.head? = some marker) :
    ∃ directive, read text = .ok directive := by
  obtain ⟨rest, text_eq⟩ := List.head?_eq_some_iff.mp marked
  have solid : isBlank marker = false := rfl
  have finish : SolidEnd [marker] := by
    rintro _ ⟨⟩
    exact solid
  have trimmed : (trim text).toList = marker :: dropBlankEnd rest := by
    rw [toList_trim, text_eq]
    exact trimChars_append (solidStart_cons solid) finish (List.cons_ne_nil _ _) rest
  obtain ⟨head, others, tokens⟩ := exists_head_tokenChars (dropBlankEnd rest)
  rw [read_of_marker trimmed, tokens]
  exact ⟨_, rfl⟩

end Directive

namespace RawComment

variable {name : String} {comment : RawComment}

theorem exists_read (marked : comment.IsMarked name) :
    ∃ directive, Directive.read (String.ofList (uncomment comment.text)) = .ok directive :=
  Directive.exists_read (by rw [String.toList_ofList]; exact marked.1)

theorem exists_holds (marked : comment.IsMarked name) :
    ∃ source, comment.occurrence? name = some source ∧ comment.Holds source := by
  obtain ⟨directive, read⟩ := exists_read marked
  refine ⟨⟨directive, comment.position.getD .unknown⟩, ?_, read, rfl⟩
  simp [occurrence?, CommentLine.classify_of_marked marked, occurrenceOf?, Directive.read_trim,
    read]

theorem occurrence?_of_unmarked (unmarked : ¬comment.IsMarked name) :
    comment.occurrence? name = none :=
  if_neg (CommentLine.kind_classify_of_unmarked unmarked _)

end RawComment

namespace DocComments

/-- The index has one directive for each marked comment, in their order. -/
theorem forall₂_entries_ofRaw (name : String) (comments : List RawComment) :
    List.Forall₂ RawComment.Holds (comments.filter (·.IsMarked name))
      (ofRaw name comments).index.entries := by
  rw [entries_ofRaw]
  induction comments with
  | nil => exact .nil
  | cons comment rest ih =>
    by_cases marked : comment.IsMarked name
    · obtain ⟨source, found, held⟩ := RawComment.exists_holds marked
      rw [List.filter_cons, if_pos (decide_eq_true marked), List.filterMap_cons_some found]
      exact .cons held ih
    · have left : decide (comment.IsMarked name) ≠ true := mt of_decide_eq_true marked
      rw [List.filter_cons, if_neg left,
        List.filterMap_cons_none (RawComment.occurrence?_of_unmarked marked)]
      exact ih

theorem rejected_ofRaw (name : String) (comments : List RawComment) :
    (ofRaw name comments).rejected = [] := by
  rw [ofRaw, rejected_collect, List.filterMap_eq_nil_iff]
  intro line member
  obtain ⟨inside, directive⟩ := List.mem_filter.mp member
  obtain ⟨comment, -, rfl⟩ := List.mem_map.mp inside
  have marked : comment.IsMarked name := by
    by_contra unmarked
    exact CommentLine.kind_classify_of_unmarked unmarked _ (beq_iff_eq.mp directive)
  obtain ⟨read, found⟩ := RawComment.exists_read marked
  simp [CommentLine.classify_of_marked marked, rejectionOf?, Directive.read_trim, found]

end DocComments
end DocOptions
