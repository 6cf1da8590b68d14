import DocOptions.Text.Blank
import Mathlib.Data.List.DropRight

/-! Trimming text that has no blanks at its ends changes nothing, and what is left by trimming has
none. -/

namespace DocOptions.Text

def SolidStart (chars : List Char) : Prop := ∀ c ∈ chars.head?, isBlank c = false

def SolidEnd (chars : List Char) : Prop := ∀ c ∈ chars.getLast?, isBlank c = false

theorem solidStart_cons {c : Char} {rest : List Char} (solid : isBlank c = false) :
    SolidStart (c :: rest) := by
  rintro _ ⟨⟩
  exact solid

/-- What a text ends with is what its last part ends with. -/
theorem SolidEnd.append_of_ne_nil {before after : List Char} (finish : SolidEnd after)
    (nonempty : after ≠ []) : SolidEnd (before ++ after) := by
  intro c last
  rw [List.getLast?_append_of_ne_nil _ nonempty] at last
  exact finish c last

theorem dropBlankEnd_eq_self {chars : List Char} (solid : SolidEnd chars) :
    dropBlankEnd chars = chars := by
  apply List.rdropWhile_eq_self_iff.mpr
  intro nonempty
  simp [solid _ (List.getLast?_eq_some_getLast nonempty)]

theorem trimChars_eq_self {chars : List Char} (start : SolidStart chars) (finish : SolidEnd chars) :
    trimChars chars = chars := by
  cases chars with
  | nil => rfl
  | cons c rest =>
    have solid : isBlank c = false := start c rfl
    rw [trimChars, List.dropWhile_cons_of_neg (by simp [solid]), dropBlankEnd_eq_self finish]

/-- Blanks at the end are looked for behind what ends in no blank. -/
theorem dropBlankEnd_append {front : List Char} (finish : SolidEnd front) (back : List Char) :
    dropBlankEnd (front ++ back) = front ++ dropBlankEnd back := by
  induction back using List.reverseRecOn with
  | nil => rw [List.append_nil, dropBlankEnd_eq_self finish]; exact (List.append_nil _).symm
  | append_singleton back c ih =>
    rw [← List.append_assoc, dropBlankEnd, dropBlankEnd, ← List.rdropWhile, ← List.rdropWhile,
      List.rdropWhile_concat, List.rdropWhile_concat]
    split
    · exact ih
    · exact List.append_assoc _ _ _

theorem dropBlankEnd_of_blank {chars : List Char} (blanks : ∀ c ∈ chars, isBlank c = true) :
    dropBlankEnd chars = [] :=
  List.rdropWhile_eq_nil_iff.mpr blanks

theorem solidEnd_dropBlankEnd (chars : List Char) : SolidEnd (dropBlankEnd chars) := by
  intro c last
  have nonempty : dropBlankEnd chars ≠ [] := by
    intro empty
    simp [empty] at last
  rw [List.getLast?_eq_some_getLast nonempty] at last
  cases last
  exact Bool.eq_false_iff.mpr (List.rdropWhile_last_not isBlank _ nonempty)

theorem solidStart_trimChars (chars : List Char) : SolidStart (trimChars chars) := by
  intro c first
  obtain ⟨blanks, whole⟩ : trimChars chars <+: chars.dropWhile isBlank :=
    List.rdropWhile_prefix isBlank _
  have head := List.head?_dropWhile_not isBlank chars
  rw [← whole, List.head?_append, Option.mem_def.mp first] at head
  simpa using head

theorem solidEnd_trimChars (chars : List Char) : SolidEnd (trimChars chars) :=
  solidEnd_dropBlankEnd _

theorem dropBlankEnd_append_of_ne_nil (front : List Char) {rest : List Char}
    (solid : dropBlankEnd rest ≠ []) :
    dropBlankEnd (front ++ rest) = front ++ dropBlankEnd rest := by
  have whole : rest = dropBlankEnd rest ++ rest.rtakeWhile isBlank :=
    List.rdropWhile_append_rtakeWhile.symm
  have finish : SolidEnd (front ++ dropBlankEnd rest) :=
    (solidEnd_dropBlankEnd rest).append_of_ne_nil solid
  have tail : dropBlankEnd (rest.rtakeWhile isBlank) = [] :=
    dropBlankEnd_of_blank fun _ => List.mem_rtakeWhile_imp
  calc dropBlankEnd (front ++ rest)
      = dropBlankEnd ((front ++ dropBlankEnd rest) ++ rest.rtakeWhile isBlank) := by
        rw [List.append_assoc, ← whole]
    _ = front ++ dropBlankEnd rest := by rw [dropBlankEnd_append finish, tail, List.append_nil]

theorem trimChars_append {front : List Char} (start : SolidStart front) (finish : SolidEnd front)
    (nonempty : front ≠ []) (back : List Char) :
    trimChars (front ++ back) = front ++ dropBlankEnd back := by
  obtain ⟨c, rest, rfl⟩ := List.exists_cons_of_ne_nil nonempty
  have solid : isBlank c = false := start c rfl
  rw [trimChars, List.cons_append, List.dropWhile_cons_of_neg (by simp [solid]), ← List.cons_append,
    dropBlankEnd_append finish]

/-- Between blanks there is one place for a text whose ends are not blank: where it is put, a longer
part on one side would reach into it. -/
theorem eq_of_between_blanks {before after blanks others core : List Char}
    (same : before ++ (core ++ after) = blanks ++ (core ++ others)) (nonempty : core ≠ [])
    (start : SolidStart core) (finish : SolidEnd core) (lead : ∀ c ∈ blanks, isBlank c = true)
    (trail : ∀ c ∈ others, isBlank c = true) : before = blanks ∧ after = others := by
  rcases List.append_eq_append_iff.mp same with ⟨more, rfl, rest⟩ | ⟨more, rfl, rest⟩
  · cases more with
    | nil => exact ⟨(List.append_nil _).symm, List.append_cancel_left rest⟩
    | cons c more =>
      obtain ⟨first, core, rfl⟩ := List.exists_cons_of_ne_nil nonempty
      obtain rfl : first = c := (List.cons.inj rest).1
      have solid : isBlank first = false := start first rfl
      have blank : isBlank first = true := lead first (by simp)
      exact absurd (solid.symm.trans blank) Bool.false_ne_true
  · cases more with
    | nil => exact ⟨List.append_nil _, (List.append_cancel_left rest).symm⟩
    | cons c more =>
      rw [← List.append_assoc] at rest
      rcases List.append_eq_append_iff.mp rest with ⟨tail, both, rfl⟩ | ⟨tail, both, -⟩
      · have lengths := congrArg List.length both
        simp only [List.length_append, List.length_cons] at lengths
        have filled : tail ≠ [] := List.ne_nil_of_length_pos (by omega)
        have last := congrArg List.getLast? both
        rw [List.getLast?_append_of_ne_nil _ nonempty, List.getLast?_append_of_ne_nil _ filled,
          List.getLast?_eq_some_getLast filled] at last
        have solid : isBlank (tail.getLast filled) = false := finish _ last
        have blank := trail _ (List.mem_append_left _ (List.getLast_mem filled))
        exact absurd (solid.symm.trans blank) Bool.false_ne_true
      · have lengths := congrArg List.length both
        simp only [List.length_append, List.length_cons] at lengths
        omega

/-- What is around a trimmed text is blank, wherever the text is found. -/
theorem blank_around_trimChars {before after chars : List Char}
    (whole : chars = before ++ (trimChars chars ++ after)) (nonempty : trimChars chars ≠ []) :
    (∀ c ∈ before, isBlank c = true) ∧ ∀ c ∈ after, isBlank c = true := by
  have lead : ∀ c ∈ chars.takeWhile isBlank, isBlank c = true :=
    fun _ member => List.mem_takeWhile_imp member
  have trail : ∀ c ∈ (chars.dropWhile isBlank).rtakeWhile isBlank, isBlank c = true :=
    fun _ => List.mem_rtakeWhile_imp
  have back : trimChars chars ++ (chars.dropWhile isBlank).rtakeWhile isBlank =
      chars.dropWhile isBlank := List.rdropWhile_append_rtakeWhile
  have cut : chars = chars.takeWhile isBlank ++
      (trimChars chars ++ (chars.dropWhile isBlank).rtakeWhile isBlank) := by
    rw [back, List.takeWhile_append_dropWhile]
  obtain ⟨rfl, rfl⟩ := eq_of_between_blanks (whole.symm.trans cut) nonempty
    (solidStart_trimChars chars) (solidEnd_trimChars chars) lead trail
  exact ⟨lead, trail⟩

@[simp] theorem trim_trim (text : String) : trim (trim text) = trim text := by
  rw [trim, toList_trim, trimChars_eq_self (solidStart_trimChars _) (solidEnd_trimChars _), ← trim]

end DocOptions.Text
