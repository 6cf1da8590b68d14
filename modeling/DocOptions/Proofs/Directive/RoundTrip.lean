import DocOptions.Directive.Write
import DocOptions.Proofs.Directive.WrittenLine

/-! Directives written as lines and read back. Every option and every value comes back, whatever
characters it has. The names of parameters are trimmed when they are read, and this is the one thing
that writing and reading can change. -/

namespace DocOptions

open Text

/-- A text without quotes has characters, and each of them stands for itself. -/
theorem plain_of_not_needsQuotes {chars : List Char} (bare : needsQuotes chars = false) :
    chars ≠ [] ∧ ∀ c ∈ chars, IsPlain c ∧ c ≠ '=' := by
  simp only [needsQuotes, Bool.or_eq_false_iff, List.isEmpty_eq_false_iff, List.any_eq_false,
    Bool.not_eq_true] at bare
  refine ⟨bare.1, ?_⟩
  intro c member
  have ordinary := bare.2 c member
  simp only [beq_eq_false_iff_ne] at ordinary
  obtain ⟨⟨⟨solid, noSeparator⟩, noQuote⟩, noEscape⟩ := ordinary
  exact ⟨⟨solid, noQuote, noEscape⟩, noSeparator⟩

/-- A text as directives are written: between double quotes, or as it is if that says the same. -/
def Spelling.ofText (place : Place) (text : String) : Spelling place where
  text
  style := if needsQuotes text.toList then .quoted '"' else .bare
  fits := by
    cases quoted : needsQuotes text.toList with
    | true => exact rfl
    | false =>
      obtain ⟨nonempty, plain⟩ := plain_of_not_needsQuotes quoted
      exact ⟨nonempty, fun c member => ⟨(plain c member).1, fun _ => (plain c member).2⟩⟩

@[simp] theorem Spelling.text_ofText (place : Place) (text : String) :
    (Spelling.ofText place text).text = text := rfl

theorem Spelling.source_ofText (place : Place) (text : String) :
    (Spelling.ofText place text).source = (writeText text).toList := by
  cases quoted : needsQuotes text.toList with
  | true => simp [source, ofText, writeText, quoted, Style.write, escapeIn, escapeChars]
  | false => simp [source, ofText, writeText, quoted, Style.write]

theorem Spelling.not_endsInEscapedBlank_ofText (place : Place) (text : String) :
    ¬ (Spelling.ofText place text).EndsInEscapedBlank := by
  rintro ⟨style, -⟩
  simp only [ofText] at style
  split at style <;> cases style

namespace Directive

/-- The line of a directive, part by part. -/
def writtenLine (a : Directive) (plain : ∀ c ∈ a.key.toList, IsPlain c) : WrittenLine where
  key := a.key
  plain
  parts :=
    a.options.map (fun option => (.space, .option (.ofText .head option))) ++
      a.params.entries.map fun (name, value) =>
        (.space, .param (.ofText .head name) (.ofText .value value))

theorem text_writtenLine (a : Directive) (plain : ∀ c ∈ a.key.toList, IsPlain c) :
    (a.writtenLine plain).text = a.text := by
  have space (text : String) : (" " ++ text).toList = ' ' :: text.toList := String.toList_append
  have param (param : String × String) :
      (" " ++ writeText param.1 ++ "=" ++ writeText param.2).toList =
        ' ' :: ((writeText param.1).toList ++ '=' :: (writeText param.2).toList) := by
    rw [String.append_assoc, String.append_assoc, space, String.toList_append, String.toList_append]
    rfl
  apply String.toList_inj.mp
  rw [WrittenLine.text, String.toList_ofList]
  simp only [text, String.toList_append, String.toList_join, List.flatMap_map, space, param,
    WrittenLine.source, writtenLine, List.flatMap_append, Gap.space, Item.source,
    Spelling.source_ofText, List.append_assoc]
  rfl

theorem not_endsInEscapedBlank_writtenLine (a : Directive)
    (plain : ∀ c ∈ a.key.toList, IsPlain c) : ¬ (a.writtenLine plain).EndsInEscapedBlank := by
  rintro ⟨item, last, escaped⟩
  have member := List.mem_of_mem_getLast? last
  simp only [WrittenLine.items, writtenLine, List.map_append, List.map_map, List.mem_append,
    List.mem_map] at member
  rcases member with ⟨option, -, rfl⟩ | ⟨param, -, rfl⟩
  · exact Spelling.not_endsInEscapedBlank_ofText _ _ escaped
  · exact Spelling.not_endsInEscapedBlank_ofText _ _ escaped

theorem options_writtenLine (a : Directive) (plain : ∀ c ∈ a.key.toList, IsPlain c) :
    (a.writtenLine plain).options = a.options := by
  simp [WrittenLine.options, WrittenLine.items, writtenLine, Item.option?, List.filterMap_map,
    Function.comp_def]

theorem params_writtenLine (a : Directive) (plain : ∀ c ∈ a.key.toList, IsPlain c) :
    (a.writtenLine plain).params = a.params.entries := by
  simp [WrittenLine.params, WrittenLine.items, writtenLine, Item.param?, List.filterMap_map,
    Function.comp_def]

/-- What comes back when the line of a directive is read. -/
theorem read_text {a : Directive} (plain : ∀ c ∈ a.key.toList, IsPlain c) :
    read a.text = .ok { a with
      params := .ofList (a.params.entries.map fun (name, value) => (trim name, value)) } := by
  rw [← text_writtenLine a plain,
    (a.writtenLine plain).read_text (a.not_endsInEscapedBlank_writtenLine plain),
    options_writtenLine, params_writtenLine]
  rfl

theorem read_text_of_trimmed {a : Directive} (plain : ∀ c ∈ a.key.toList, IsPlain c)
    (trimmed : ∀ entry ∈ a.params.entries, trim entry.1 = entry.1) : read a.text = .ok a := by
  have entries : (a.params.entries.map fun (name, value) => (trim name, value)) =
      a.params.entries.map id :=
    List.map_congr_left fun entry member => Prod.ext (trimmed entry member) rfl
  rw [read_text plain, entries, List.map_id, TextMap.ofList_entries]

/-- The line of a directive is read as a directive, and as the same one just when the names of its
parameters are trimmed. -/
theorem read_text_eq_self_iff {a : Directive} (plain : ∀ c ∈ a.key.toList, IsPlain c) :
    ∃ b, read a.text = .ok b ∧ (b = a ↔ ∀ name ∈ a.params.keys, trim name = name) := by
  refine ⟨_, read_text plain, ?_⟩
  constructor
  · intro same name member
    obtain ⟨entry, inside, rfl⟩ := List.mem_map.mp member
    rw [← same] at inside
    obtain ⟨original, -, rfl⟩ := List.mem_map.mp (TextMap.mem_entries_ofList inside)
    exact trim_trim original.1
  · intro trimmed
    have entries : (a.params.entries.map fun (name, value) => (trim name, value)) =
        a.params.entries := by
      nth_rewrite 2 [← List.map_id a.params.entries]
      apply List.map_congr_left
      rintro ⟨name, value⟩ member
      have own : trim name = name := trimmed name (List.mem_map.mpr ⟨_, member, rfl⟩)
      exact Prod.ext own rfl
    rw [entries, TextMap.ofList_entries]

/-- A directive with empty texts, blanks, separators, markers, quotes and backslashes. -/
def awkward : Directive where
  key := "note=1"
  options := ["", " ", "a=b", "@c", "\"\\", "'\n'", "\\"]
  params := .ofList [("", "\\"), ("=", "\""), ("'x y'", "")]

/-- A directive with a blank at the end of a parameter's name. -/
def padded : Directive where
  key := "note"
  options := []
  params := .singleton "id " "1"

theorem read_text_awkward_padded :
    read awkward.text = .ok awkward ∧ read padded.text ≠ .ok padded := by
  have plain : awkward.key.toList.all (IsPlain ·) ∧ padded.key.toList.all (IsPlain ·) := by
    decide +kernel
  constructor
  · obtain ⟨b, done, same⟩ := read_text_eq_self_iff (a := awkward) (by simpa using plain.1)
    rw [done, same.mpr (by decide +kernel)]
  · obtain ⟨b, done, same⟩ := read_text_eq_self_iff (a := padded) (by simpa using plain.2)
    rw [done, Ne, Except.ok.injEq, same]
    decide +kernel

end Directive
end DocOptions
