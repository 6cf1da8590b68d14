import DocOptions.Directive.Index

/-! Indexing lines. Each line goes to the index if it reads as a directive and to the rejected ones
if it does not, and both keep the order of the lines. -/

namespace DocOptions

/-- The directive of a line, at the line's position. -/
def occurrenceOf? (line : String × Position) : Option Occurrence :=
  match Directive.read line.1 with
  | .ok directive => some ⟨directive, line.2⟩
  | .error _ => none

def rejectionOf? (line : String × Position) : Option RejectedLine :=
  match Directive.read line.1 with
  | .ok _ => none
  | .error error => some ⟨line.1, line.2, error⟩

namespace DirectiveIndex

/-- One more line is indexed, or rejected. -/
def addLine (result : DirectiveIndex × List RejectedLine) (line : String × Position) :
    DirectiveIndex × List RejectedLine :=
  match Directive.read line.1 with
  | .ok directive => (result.1.push ⟨directive, line.2⟩, result.2)
  | .error error => (result.1, result.2 ++ [⟨line.1, line.2, error⟩])

theorem addLine_eq (result : DirectiveIndex × List RejectedLine) (line : String × Position) :
    (addLine result line).1.entries = result.1.entries ++ (occurrenceOf? line).toList ∧
      (addLine result line).2 = result.2 ++ (rejectionOf? line).toList := by
  unfold addLine occurrenceOf? rejectionOf?
  cases Directive.read line.1 with
  | ok directive => exact ⟨rfl, (List.append_nil _).symm⟩
  | error error => exact ⟨(List.append_nil _).symm, rfl⟩

theorem foldl_addLine (result : DirectiveIndex × List RejectedLine)
    (lines : List (String × Position)) :
    (lines.foldl addLine result).1.entries = result.1.entries ++ lines.filterMap occurrenceOf? ∧
      (lines.foldl addLine result).2 = result.2 ++ lines.filterMap rejectionOf? := by
  induction lines generalizing result with
  | nil => exact ⟨(List.append_nil _).symm, (List.append_nil _).symm⟩
  | cons line rest ih =>
    obtain ⟨entries, rejected⟩ := addLine_eq result line
    obtain ⟨laterEntries, laterRejected⟩ := ih (addLine result line)
    rw [List.foldl_cons, laterEntries, laterRejected, entries, rejected, List.append_assoc,
      List.append_assoc, List.filterMap_cons, List.filterMap_cons]
    constructor
    · cases occurrenceOf? line <;> rfl
    · cases rejectionOf? line <;> rfl

theorem ofLines_eq (lines : List (String × Position)) :
    (ofLines lines).1.entries = lines.filterMap occurrenceOf? ∧
      (ofLines lines).2 = lines.filterMap rejectionOf? := by
  have steps : ofLines lines = lines.foldl addLine (empty, []) := by
    unfold ofLines
    refine congrArg (lines.foldl · (empty, [])) ?_
    funext ⟨index, rejected⟩ ⟨text, position⟩
    cases read : Directive.read text <;> simp [addLine, read]
  rw [steps]
  exact foldl_addLine (empty, []) lines

/-- Lines that all read as directives are all indexed. -/
theorem ofLines_of_read {lines : List (String × Position)} {sources : List Occurrence}
    (read : lines.map occurrenceOf? = sources.map some) :
    (ofLines lines).1.entries = sources ∧ (ofLines lines).2 = [] := by
  obtain ⟨entries, rejected⟩ := ofLines_eq lines
  rw [entries, rejected]
  constructor
  · calc lines.filterMap occurrenceOf?
        = (lines.map occurrenceOf?).filterMap id := by rw [List.filterMap_map, Function.id_comp]
      _ = sources := by rw [read, List.filterMap_map, Function.id_comp, List.filterMap_some]
  · rw [List.filterMap_eq_nil_iff]
    intro line member
    have found : occurrenceOf? line ∈ sources.map some := read ▸ List.mem_map_of_mem member
    obtain ⟨source, -, same⟩ := List.mem_map.mp found
    unfold occurrenceOf? at same
    unfold rejectionOf?
    cases done : Directive.read line.1 with
    | ok directive => rfl
    | error error => simp [done] at same

end DirectiveIndex
end DocOptions
