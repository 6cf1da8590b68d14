import DocOptions.Text.Blank

/-! Text cut at separator characters. Cutting loses nothing: the pieces, joined by the separators,
are the text again (`intercalate_pieces`). -/

namespace DocOptions.Text

/-- The stretches between separators; two neighbouring separators have an empty one between them. -/
def pieces (separator : Char → Bool) : List Char → List (List Char)
  | [] => [[]]
  | c :: rest =>
    if separator c then [] :: pieces separator rest
    else (pieces separator rest).modifyHead (c :: ·)

/-- Cuts at one character, as `"a.b.".cut '.'` gives `["a", "b", ""]`. -/
def cut (text : String) (separator : Char) : List String :=
  (pieces (· == separator) text.toList).map String.ofList

/-- The longest stretches without blanks. -/
def words (text : String) : List String :=
  ((pieces isBlank text.toList).filter (!·.isEmpty)).map String.ofList

theorem pieces_ne_nil (separator : Char → Bool) (chars : List Char) :
    pieces separator chars ≠ [] := by
  induction chars with
  | nil => simp [pieces]
  | cons c rest ih =>
    simp only [pieces]
    split
    · simp
    · cases h : pieces separator rest with
      | nil => exact absurd h ih
      | cons => simp

theorem intercalate_pieces (separator : Char) (chars : List Char) :
    [separator].intercalate (pieces (· == separator) chars) = chars := by
  induction chars with
  | nil => rfl
  | cons c rest ih =>
    have nonempty := pieces_ne_nil (· == separator) rest
    simp only [pieces]
    split
    · rename_i same
      cases h : pieces (· == separator) rest with
      | nil => exact absurd h nonempty
      | cons first more =>
        rw [h] at ih
        simp [List.intercalate_cons_cons, ih, (beq_iff_eq.mp same)]
    · cases h : pieces (· == separator) rest with
      | nil => exact absurd h nonempty
      | cons first more =>
        rw [h] at ih
        cases more with
        | nil => simpa using ih
        | cons => simpa [List.intercalate_cons_cons] using ih

end DocOptions.Text
