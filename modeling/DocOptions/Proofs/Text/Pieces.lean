import DocOptions.Text.Pieces

/-! Text that is put together from pieces and cut again. Pieces without a separator come back, and
so do words that are neither empty nor broken by blanks; a change of characters that keeps the
separators apart from the others changes each piece on its own. -/

namespace DocOptions.Text

variable {separator : Char → Bool} {chunk : List Char}

theorem pieces_of_solid (solid : ∀ c ∈ chunk, separator c = false) :
    pieces separator chunk = [chunk] := by
  induction chunk with
  | nil => rfl
  | cons c rest ih =>
    obtain ⟨first, others⟩ := List.forall_mem_cons.mp solid
    rw [pieces, first, if_neg Bool.false_ne_true, ih others]
    rfl

theorem pieces_append {mark : Char} (solid : ∀ c ∈ chunk, separator c = false)
    (marks : separator mark = true) (rest : List Char) :
    pieces separator (chunk ++ mark :: rest) = chunk :: pieces separator rest := by
  induction chunk with
  | nil => exact if_pos marks
  | cons c more ih =>
    obtain ⟨first, others⟩ := List.forall_mem_cons.mp solid
    rw [List.cons_append, pieces, first, if_neg Bool.false_ne_true, ih others]
    rfl

/-- Pieces that are joined at separators are what is cut there. -/
theorem pieces_intercalate {mark : Char} {chunks : List (List Char)} (marks : separator mark = true)
    (solid : ∀ chunk ∈ chunks, ∀ c ∈ chunk, separator c = false) (nonempty : chunks ≠ []) :
    pieces separator ([mark].intercalate chunks) = chunks := by
  induction chunks with
  | nil => exact absurd rfl nonempty
  | cons chunk rest ih =>
    obtain ⟨first, others⟩ := List.forall_mem_cons.mp solid
    cases rest with
    | nil =>
      rw [List.intercalate_singleton]
      exact pieces_of_solid first
    | cons next rest =>
      rw [List.intercalate_cons_cons, List.append_assoc, List.singleton_append,
        pieces_append first marks, ih others (List.cons_ne_nil _ _)]

/-- What is cut at one character is the text again, once it is joined by the character. -/
theorem intercalate_cut {separator : String} {mark : Char} (single : separator.toList = [mark])
    (text : String) : separator.intercalate (cut text mark) = text := by
  have chunks : (cut text mark).map String.toList = pieces (· == mark) text.toList := by
    simp [cut]
  rw [← String.toList_inj, String.toList_intercalate, single, chunks, intercalate_pieces]

/-- Whether a text is a word by itself. -/
def IsWord (text : String) : Prop :=
  text ≠ "" ∧ ∀ c ∈ text.toList, isBlank c = false

instance (text : String) : Decidable (IsWord text) :=
  inferInstanceAs (Decidable (_ ∧ _))

/-- Words are found again in a line of them. -/
theorem words_intercalate {texts : List String} (each : ∀ text ∈ texts, IsWord text) :
    words (" ".intercalate texts) = texts := by
  cases texts with
  | nil => rfl
  | cons first rest =>
    have chunks : pieces isBlank (" ".intercalate (first :: rest)).toList =
        (first :: rest).map String.toList := by
      have blank : isBlank ' ' = true := rfl
      rw [String.toList_intercalate]
      refine pieces_intercalate blank ?_ (List.cons_ne_nil _ _)
      exact List.forall_mem_map.mpr fun text member => (each text member).2
    have filled : ∀ chunk ∈ (first :: rest).map String.toList, (!chunk.isEmpty) = true := by
      refine List.forall_mem_map.mpr fun text member => ?_
      have nonempty := (each text member).1
      simpa using nonempty
    rw [words, chunks, List.filter_eq_self.mpr filled, List.map_map]
    simp

theorem solid_of_mem_pieces {chars : List Char} :
    ∀ chunk ∈ pieces separator chars, ∀ c ∈ chunk, separator c = false := by
  induction chars with
  | nil => simp [pieces]
  | cons c rest ih =>
    rw [pieces]
    split
    · exact List.forall_mem_cons.mpr ⟨List.forall_mem_nil _, ih⟩
    · rename_i solid
      cases cut : pieces separator rest with
      | nil => exact absurd cut (pieces_ne_nil separator rest)
      | cons first others =>
        rw [cut] at ih
        obtain ⟨own, others⟩ := List.forall_mem_cons.mp ih
        exact List.forall_mem_cons.mpr
          ⟨List.forall_mem_cons.mpr ⟨Bool.eq_false_iff.mpr solid, own⟩, others⟩

/-- Characters can be changed before the text is cut or after. -/
theorem pieces_map {change : Char → Char} {other : Char → Bool} {chars : List Char}
    (same : ∀ c ∈ chars, other (change c) = separator c) :
    pieces other (chars.map change) = (pieces separator chars).map (List.map change) := by
  induction chars with
  | nil => rfl
  | cons c rest ih =>
    obtain ⟨first, others⟩ := List.forall_mem_cons.mp same
    rw [List.map_cons, pieces, pieces, first, ih others]
    split
    · rfl
    · cases pieces separator rest <;> rfl

theorem cut_map {change : Char → Char} {mark other : Char} {text : String}
    (same : ∀ c ∈ text.toList, (change c == other) = (c == mark)) :
    cut (text.map change) other = (cut text mark).map (String.map change) := by
  rw [cut, cut, String.toList_map, pieces_map same, List.map_map, List.map_map]
  refine List.map_congr_left fun chunk _ => String.toList_inj.mp ?_
  simp only [Function.comp_apply, String.toList_ofList, String.toList_map]

theorem ne_of_mem_cut {mark c : Char} {text word : String} (inside : word ∈ cut text mark)
    (found : c ∈ word.toList) : c ≠ mark := by
  obtain ⟨chunk, isPiece, rfl⟩ := List.mem_map.mp inside
  rw [String.toList_ofList] at found
  exact beq_eq_false_iff_ne.mp (solid_of_mem_pieces chunk isPiece c found)

end DocOptions.Text
