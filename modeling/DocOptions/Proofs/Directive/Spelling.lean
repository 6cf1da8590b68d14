import DocOptions.Proofs.Directive.Scan

/-! The ways to write a text in a directive line. However a text is written, it is read as a stretch
of one token, and the unquoted text of that stretch is the text that was written. Only a bare `=`
can separate a name from a value. -/

namespace DocOptions

open Text

/-- A character that stands for itself anywhere outside a span. -/
def IsPlain (c : Char) : Prop :=
  isBlank c = false ∧ isQuote c = false ∧ c ≠ '\\'

instance : DecidablePred IsPlain := fun _ => inferInstanceAs (Decidable (_ ∧ _))

theorem isPlain_of_all {chars : List Char} (plain : chars.all (IsPlain ·) = true) :
    ∀ c ∈ chars, IsPlain c :=
  fun c member => of_decide_eq_true (List.all_eq_true.mp plain c member)

def bareChars (chars : List Char) : List TokenChar :=
  chars.map (⟨·, .bare⟩)

theorem scans_bareChars {chars : List Char} (plain : ∀ c ∈ chars, IsPlain c) :
    Scans none chars (bareChars chars) none := by
  induction chars with
  | nil => exact .done
  | cons c rest ih =>
    obtain ⟨⟨solid, noQuote, noEscape⟩, others⟩ := List.forall_mem_cons.mp plain
    have kind : Cursor.classify none c = some (.bare, none) := by
      simp [Cursor.classify, noQuote, solid]
    exact .plain noEscape kind (ih others)

/-- The characters of a span, with a backslash before each one that would end it or escape. -/
def escapeIn (quote : Char) (chars : List Char) : List Char :=
  chars.flatMap fun c => if c == quote || c == '\\' then ['\\', c] else [c]

/-- How the characters of a span are read. -/
def spanChars (quote : Char) (chars : List Char) : List TokenChar :=
  chars.map fun c => ⟨c, if c == quote || c == '\\' then .escaped else .quoted⟩

theorem scans_escapeIn (quote : Char) (chars : List Char) :
    Scans (some quote) (escapeIn quote chars) (spanChars quote chars) (some quote) := by
  induction chars with
  | nil => exact .done
  | cons c rest ih =>
    simp only [escapeIn, spanChars, List.flatMap_cons, List.map_cons]
    split
    · exact .escaped ih
    · rename_i ordinary
      simp only [Bool.or_eq_true, beq_iff_eq, not_or] at ordinary
      have kind : Cursor.classify (some quote) c = some (.quoted, some quote) := by
        simp [Cursor.classify, ordinary.1]
      exact .plain ordinary.2 kind ih

def escapedChars (chars : List Char) : List TokenChar :=
  chars.map (⟨·, .escaped⟩)

theorem scans_escapedChars (chars : List Char) :
    Scans none (chars.flatMap fun c => ['\\', c]) (escapedChars chars) none := by
  induction chars with
  | nil => exact .done
  | cons c rest ih => exact .escaped ih

/-- Characters of one kind have no quotes around them, so nothing is removed. -/
theorem Token.unquoted_map {kind : CharKind} (noQuote : kind ≠ .quote) (chars : List Char)
    (offset : Nat) : (⟨chars.map (⟨·, kind⟩), offset⟩ : Token).unquoted = String.ofList chars := by
  have whole : textOf (chars.map (⟨·, kind⟩)) = String.ofList chars := by
    simp [textOf, Function.comp_def]
  cases chars with
  | nil => rfl
  | cons c rest =>
    simp only [List.map_cons, Token.unquoted]
    cases (rest.map fun c => (⟨c, kind⟩ : TokenChar)).getLast? with
    | none => exact whole
    | some last => exact (if_neg fun quotes => noQuote quotes.1).trans whole

/-- The ways to write a text. -/
inductive Style
  /-- The characters as they are. -/
  | bare
  /-- Between two quotes of one kind, with backslashes inside where they are needed. -/
  | quoted (quote : Char)
  /-- With a backslash before each character. -/
  | escaped
  deriving DecidableEq

/-- Where a text stands: as an option or the name of a parameter, where a bare `=` separates, or as
the value of a parameter, where it does not. -/
inductive Place
  | head
  | value
  deriving DecidableEq

namespace Style

def write : Style → List Char → List Char
  | bare, chars => chars
  | quoted quote, chars => quote :: escapeIn quote chars ++ [quote]
  | escaped, chars => chars.flatMap fun c => ['\\', c]

/-- How a written text is read. -/
def chars : Style → List Char → List TokenChar
  | bare, chars => bareChars chars
  | quoted quote, chars => ⟨quote, .quote⟩ :: spanChars quote chars ++ [⟨quote, .quote⟩]
  | escaped, chars => escapedChars chars

/-- Whether a text can be written in a style at a place. -/
def Fits (place : Place) : Style → List Char → Prop
  | bare, chars => chars ≠ [] ∧ ∀ c ∈ chars, IsPlain c ∧ (place = .head → c ≠ '=')
  | quoted quote, _ => isQuote quote = true
  | escaped, chars => chars ≠ []

instance (place : Place) (style : Style) (chars : List Char) : Decidable (style.Fits place chars) :=
  match style with
  | bare =>
    have := List.decidableBAll (fun c => IsPlain c ∧ (place = .head → c ≠ '=')) chars
    inferInstanceAs (Decidable (_ ∧ _))
  | quoted _ => inferInstanceAs (Decidable (_ = _))
  | escaped => inferInstanceAs (Decidable (_ ≠ _))

end Style

/-- A text and a style that can write it. -/
structure Spelling (place : Place) where
  text : String
  style : Style
  fits : style.Fits place text.toList

namespace Spelling

variable {place : Place} (spelling : Spelling place)

def source : List Char :=
  spelling.style.write spelling.text.toList

/-- How the text is read. -/
def chars : List TokenChar :=
  spelling.style.chars spelling.text.toList

/-- The last character is white space behind a backslash. -/
def EndsInEscapedBlank : Prop :=
  spelling.style = .escaped ∧ ∃ c ∈ spelling.text.toList.getLast?, isBlank c = true

theorem scans : Scans none spelling.source spelling.chars none := by
  obtain ⟨text, style, fits⟩ := spelling
  cases style with
  | bare => exact scans_bareChars fun c member => (fits.2 c member).1
  | quoted quote =>
    have isQuote : isQuote quote = true := fits
    have solid : quote ≠ '\\' := by
      rintro rfl
      exact absurd isQuote (by decide)
    have opening : Cursor.classify none quote = some (.quote, some quote) := by
      simp [Cursor.classify, isQuote]
    have closing : Cursor.classify (some quote) quote = some (.quote, none) := by
      simp [Cursor.classify]
    exact .plain solid opening
      ((scans_escapeIn quote text.toList).append (.plain solid closing .done))
  | escaped => exact scans_escapedChars text.toList

theorem source_ne_nil : spelling.source ≠ [] := by
  obtain ⟨text, style, fits⟩ := spelling
  cases style with
  | bare => exact fits.1
  | quoted => exact List.cons_ne_nil _ _
  | escaped =>
    obtain ⟨c, rest, line⟩ := List.exists_cons_of_ne_nil fits
    simp [source, Style.write, line]

theorem solidStart_source : SolidStart spelling.source := by
  obtain ⟨text, style, fits⟩ := spelling
  cases style with
  | bare => exact fun c first => (fits.2 c (List.mem_of_mem_head? first)).1.1
  | quoted quote => exact solidStart_cons (isBlank_of_isQuote fits)
  | escaped =>
    obtain ⟨c, rest, line⟩ := List.exists_cons_of_ne_nil fits
    simp only [source, Style.write, line, List.flatMap_cons]
    exact solidStart_cons (by decide)

theorem solidEnd_source (finish : ¬ spelling.EndsInEscapedBlank) : SolidEnd spelling.source := by
  obtain ⟨text, style, fits⟩ := spelling
  cases style with
  | bare => exact fun c last => (fits.2 c (List.mem_of_mem_getLast? last)).1.1
  | quoted quote =>
    intro c last
    simp only [source, Style.write, List.getLast?_concat] at last
    cases last
    exact isBlank_of_isQuote fits
  | escaped =>
    obtain ⟨front, final, line⟩ := (List.eq_nil_or_concat' text.toList).resolve_left fits
    have lastSource : (text.toList.flatMap fun c => ['\\', c]).getLast? = some final := by
      simp [line]
    have lastText : text.toList.getLast? = some final := by
      rw [line, List.getLast?_concat]
    intro c last
    have same : final = c := Option.some.inj (lastSource.symm.trans last)
    subst same
    exact Bool.eq_false_iff.mpr fun blank => finish ⟨rfl, final, lastText, blank⟩

/-- An option or a name has no `=` that separates. -/
theorem not_isSeparator (spelling : Spelling .head) :
    ∀ c ∈ spelling.chars, c.isSeparator = false := by
  obtain ⟨text, style, fits⟩ := spelling
  intro c member
  cases style with
  | bare =>
    obtain ⟨c, inside, rfl⟩ := List.mem_map.mp member
    simp [TokenChar.isSeparator, (fits.2 c inside).2 rfl]
  | quoted quote =>
    simp only [chars, Style.chars, List.cons_append, List.mem_cons, List.mem_append,
      List.not_mem_nil, or_false] at member
    rcases member with rfl | inside | rfl
    · rfl
    · obtain ⟨c, -, rfl⟩ := List.mem_map.mp inside
      simp only [TokenChar.isSeparator]
      split <;> rfl
    · rfl
  | escaped =>
    obtain ⟨c, -, rfl⟩ := List.mem_map.mp member
    rfl

/-- A written text comes back when its quotes are removed. -/
theorem unquoted (offset : Nat) : (⟨spelling.chars, offset⟩ : Token).unquoted = spelling.text := by
  obtain ⟨text, style, fits⟩ := spelling
  have own : String.ofList text.toList = text := String.ofList_toList
  cases style with
  | bare => exact (Token.unquoted_map (by decide) text.toList offset).trans own
  | quoted quote =>
    simp [chars, Style.chars, Token.unquoted, spanChars, textOf, Function.comp_def]
  | escaped => exact (Token.unquoted_map (by decide) text.toList offset).trans own

end Spelling
end DocOptions
