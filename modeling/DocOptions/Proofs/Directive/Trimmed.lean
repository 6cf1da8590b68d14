import DocOptions.Proofs.Directive.Boundary

/-! What trimming a line changes. Blanks at the end of a line separate nothing from nothing if the
line is closed there. Otherwise they belong to the last token: the line without them has other
tokens, and it is read as another directive. -/

namespace DocOptions

open Text

/-- A character that was written inside a span or after a backslash. It neither closes a span nor
separates a name from its value. -/
def TokenChar.IsLiteral (c : TokenChar) : Prop :=
  c.kind = .quoted ∨ c.kind = .escaped

namespace TokenChar.IsLiteral

variable {c : TokenChar}

theorem ne_quote (literal : c.IsLiteral) : c.kind ≠ .quote := by
  rcases literal with kind | kind <;> simp [kind]

theorem not_isSeparator (literal : c.IsLiteral) : c.isSeparator = false := by
  rcases literal with kind | kind <;> simp [TokenChar.isSeparator, kind]

end TokenChar.IsLiteral

namespace ScanState

theorem marks_between_tokens {gap : List Char} (blanks : ∀ c ∈ gap, isBlank c = true) :
    start.marks gap = gap.map .separator := by
  have rest := marks_of_blanks blanks []
  rwa [List.append_nil, marks, List.append_nil] at rest

theorem marks_in_span {quote : Char} (opens : isQuote quote = true) {gap : List Char}
    (blanks : ∀ c ∈ gap, isBlank c = true) :
    marks ⟨some quote, false⟩ gap = (gap.map (⟨·, .quoted⟩)).map .char := by
  induction gap with
  | nil => rfl
  | cons c rest ih =>
    obtain ⟨blank, others⟩ := List.forall_mem_cons.mp blanks
    have inside : c ≠ quote := by
      rintro rfl
      simp [isBlank_of_isQuote opens] at blank
    have kind : Cursor.classify (some quote) c = some (.quoted, some quote) := by
      simp [Cursor.classify, inside]
    rw [marks, step_of_classify _ (Cursor.ne_backslash_of_blank blank), kind, ih others]
    rfl

/-- Where a span is open or a backslash is pending, the first of several blanks is a character of a
token, and those that are not are at the end. -/
theorem marks_of_open {state : ScanState} (opened : state ≠ start)
    (quotes : ∀ quote ∈ state.span, isQuote quote = true) {gap : List Char} (nonempty : gap ≠ [])
    (blanks : ∀ c ∈ gap, isBlank c = true) :
    ∃ (held : List TokenChar) (rest : List Char),
      state.marks gap = held.map .char ++ rest.map .separator ∧ held ≠ [] ∧
        ∀ c ∈ held, c.IsLiteral := by
  obtain ⟨span, escaping⟩ := state
  obtain ⟨c, gap, rfl⟩ := List.exists_cons_of_ne_nil nonempty
  obtain ⟨-, others⟩ := List.forall_mem_cons.mp blanks
  have quoted : ∀ d ∈ gap.map (fun d => (⟨d, .quoted⟩ : TokenChar)), d.IsLiteral :=
    List.forall_mem_map.mpr fun _ _ => .inl rfl
  cases span with
  | some quote =>
    have opens : isQuote quote = true := quotes quote rfl
    cases escaping with
    | false =>
      refine ⟨⟨c, .quoted⟩ :: gap.map (⟨·, .quoted⟩), [], ?_, List.cons_ne_nil _ _, ?_⟩
      · rw [marks_in_span opens blanks, List.map_nil, List.append_nil, List.map_cons]
      · exact List.forall_mem_cons.mpr ⟨.inl rfl, quoted⟩
    | true =>
      refine ⟨⟨c, .escaped⟩ :: gap.map (⟨·, .quoted⟩), [], ?_, List.cons_ne_nil _ _, ?_⟩
      · rw [List.map_nil, List.append_nil, List.map_cons, ← marks_in_span opens others]
        rfl
      · exact List.forall_mem_cons.mpr ⟨.inr rfl, quoted⟩
  | none =>
    cases escaping with
    | false => exact absurd rfl opened
    | true =>
      refine ⟨[⟨c, .escaped⟩], gap, congrArg (_ :: ·) (marks_between_tokens others),
        List.cons_ne_nil _ _, ?_⟩
      exact List.forall_mem_singleton.mpr (.inr rfl)

end ScanState

/-- What follows the last separator of marks is joined to what is put after the marks. -/
theorem exists_last_run (marks : List Mark) :
    ∃ runs last, ∀ more : List Mark, (∀ mark ∈ more, mark.isSeparator = false) →
      (marks ++ more).splitOnP Mark.isSeparator = runs ++ [last ++ more] := by
  induction marks with
  | nil => exact ⟨[], [], fun more solid => List.splitOnP_eq_singleton solid⟩
  | cons mark marks ih =>
    obtain ⟨runs, last, joined⟩ := ih
    by_cases separates : mark.isSeparator = true
    · refine ⟨[] :: runs, last, fun more solid => ?_⟩
      rw [List.cons_append, List.splitOnP_cons_eq_if_modifyHead, if_pos separates,
        joined more solid]
      rfl
    · cases runs with
      | nil =>
        refine ⟨[], mark :: last, fun more solid => ?_⟩
        rw [List.cons_append, List.splitOnP_cons_eq_if_modifyHead, if_neg separates,
          joined more solid]
        rfl
      | cons first runs =>
        refine ⟨(mark :: first) :: runs, last, fun more solid => ?_⟩
        rw [List.cons_append, List.splitOnP_cons_eq_if_modifyHead, if_neg separates,
          joined more solid]
        rfl

/-- The last token of a line, or an empty one if a separator or an escaping backslash comes last,
goes on with the characters that are put after the line. -/
theorem exists_last_chars (marks : List Mark) :
    ∃ others last, ∀ held : List TokenChar,
      charsOfMarks (marks ++ held.map .char) = others ++ [last ++ held].filter (!·.isEmpty) := by
  obtain ⟨runs, last, joined⟩ := exists_last_run marks
  refine ⟨(runs.map (List.filterMap Mark.char?)).filter (!·.isEmpty), last.filterMap Mark.char?,
    fun held => ?_⟩
  have chars : (held.map Mark.char).filterMap Mark.char? = held := by
    rw [List.filterMap_map]
    exact List.filterMap_some
  rw [charsOfMarks, joined _ (List.forall_mem_map.mpr fun _ _ => rfl), List.map_append,
    List.filter_append, List.map_singleton, List.filterMap_append, chars]

theorem length_textOf (chars : List TokenChar) : (textOf chars).toList.length = chars.length := by
  rw [textOf, String.toList_ofList, List.length_map]

namespace Token

theorem length_unquoted_le (token : Token) :
    token.unquoted.toList.length ≤ token.chars.length := by
  have whole : token.text.toList.length = token.chars.length := length_textOf _
  unfold unquoted
  split
  · exact Nat.zero_le _
  · rename_i first rest chars
    split
    · exact whole.le
    · split
      · rw [length_textOf, List.length_dropLast, chars, List.length_cons]
        omega
      · exact whole.le

/-- Only a quote at the end is removed. -/
theorem unquoted_of_getLast? {token : Token} {c : TokenChar} (last : token.chars.getLast? = some c)
    (plain : c.kind ≠ .quote) : token.unquoted = token.text := by
  unfold unquoted
  split
  · rename_i noChars
    simp [noChars] at last
  · rename_i first rest chars
    cases final : rest.getLast? with
    | none => rfl
    | some d =>
      rw [chars, List.getLast?_cons, final, Option.getD_some, Option.some.injEq] at last
      subst last
      exact if_neg fun quotes => plain quotes.2.1

variable {held : List TokenChar}

/-- Literal characters at the end are kept, so the text gets longer. -/
theorem unquoted_append_ne (nonempty : held ≠ []) (literal : ∀ c ∈ held, c.IsLiteral)
    (chars : List TokenChar) (offset : Nat) :
    (⟨chars, offset⟩ : Token).unquoted ≠ (⟨chars ++ held, offset⟩ : Token).unquoted := by
  have last : (chars ++ held).getLast? = some (held.getLast nonempty) := by
    rw [List.getLast?_append_of_ne_nil _ nonempty, List.getLast?_eq_some_getLast nonempty]
  have kept : (⟨chars ++ held, offset⟩ : Token).unquoted = textOf (chars ++ held) :=
    unquoted_of_getLast? last (literal _ (List.getLast_mem nonempty)).ne_quote
  have shorter : (⟨chars, offset⟩ : Token).unquoted.toList.length ≤ chars.length :=
    length_unquoted_le _
  have longer := List.length_pos_iff.mpr nonempty
  intro same
  have lengths := congrArg (fun text => text.toList.length) (same.trans kept)
  rw [length_textOf, List.length_append] at lengths
  omega

theorem separator?_of_literal (literal : ∀ c ∈ held, c.IsLiteral) (offset : Nat) :
    (⟨held, offset⟩ : Token).separator? = none :=
  List.findIdx?_eq_none_iff.mpr fun c member => (literal c member).not_isSeparator

/-- Literal characters at the end go to the value. -/
theorem split?_append (literal : ∀ c ∈ held, c.IsLiteral) (chars : List TokenChar)
    (offset : Nat) :
    (⟨chars ++ held, offset⟩ : Token).split? =
      (⟨chars, offset⟩ : Token).split?.map fun (name, value) =>
        (name, ⟨value.chars ++ held, value.offset⟩) := by
  have unsplit : held.findIdx? TokenChar.isSeparator = none := separator?_of_literal literal offset
  simp only [split?, separator?, List.findIdx?_append, unsplit, Option.map_none, Option.or_none]
  cases found : chars.findIdx? TokenChar.isSeparator with
  | none => rfl
  | some index =>
    have inside : index < chars.length := (List.findIdx?_eq_some_iff_findIdx_eq.mp found).1
    simp [List.take_append_of_le_length inside.le, List.drop_append_of_le_length inside]

end Token

namespace Directive

variable {held : List TokenChar}

/-- A token that gets longer at its end is read as another option, or as another value of the same
parameter. -/
theorem parts_append (nonempty : held ≠ []) (literal : ∀ c ∈ held, c.IsLiteral)
    (chars : List TokenChar) :
    (∃ before after, before ≠ after ∧ optionOf? ⟨chars, 0⟩ = some before ∧
      optionOf? ⟨chars ++ held, 0⟩ = some after) ∨
    ∃ name before after, before ≠ after ∧ paramOf? ⟨chars, 0⟩ = some (name, before) ∧
      paramOf? ⟨chars ++ held, 0⟩ = some (name, after) := by
  have split := Token.split?_append literal chars 0
  cases parts : (⟨chars, 0⟩ : Token).split? with
  | none =>
    rw [parts, Option.map_none] at split
    refine .inl ⟨_, _, Token.unquoted_append_ne nonempty literal chars 0, ?_, ?_⟩
    · rw [optionOf?, parts]
    · rw [optionOf?, split]
  | some found =>
    obtain ⟨name, value⟩ := found
    rw [parts, Option.map_some] at split
    refine .inr ⟨trim name.unquoted, _, _,
      Token.unquoted_append_ne nonempty literal value.chars value.offset, ?_, ?_⟩
    · rw [paramOf?, parts, Option.map_some]
    · rw [paramOf?, split, Option.map_some]

/-- A directive whose last token gets longer is another directive. -/
theorem ofChars_append_ne (nonempty : held ≠ []) (literal : ∀ c ∈ held, c.IsLiteral)
    {others : List (List TokenChar)} {last : List TokenChar}
    (marked : others = [] → last ≠ []) :
    ofChars (others ++ [last].filter (!·.isEmpty)) ≠ ofChars (others ++ [last ++ held]) := by
  cases others with
  | nil =>
    -- The last token is the first one, so the key is longer.
    obtain ⟨c, last, rfl⟩ := List.exists_cons_of_ne_nil (marked rfl)
    intro same
    have keys : textOf last = textOf (last ++ held) := congrArg key (Except.ok.inj same)
    have lengths := congrArg (·.toList.length) keys
    rw [length_textOf, length_textOf, List.length_append] at lengths
    have longer := List.length_pos_iff.mpr nonempty
    omega
  | cons head others =>
    rw [List.cons_append, List.cons_append, ofChars_append, ofChars_append]
    intro same
    simp only [Except.ok.injEq, Directive.mk.injEq, true_and, List.append_cancel_left_eq] at same
    obtain ⟨options, params⟩ := same
    by_cases empty : last = []
    · subst empty
      have option : optionOf? ⟨held, 0⟩ = some (Token.unquoted ⟨held, 0⟩) := by
        rw [optionOf?, Token.split?, Token.separator?_of_literal literal, Option.map_none]
      simp [option] at options
    · rcases parts_append nonempty literal last with
        ⟨before, after, different, first, second⟩ | ⟨name, before, after, different, first, second⟩
      · simp [empty, first, second, different] at options
      · have values := congrArg (TextMap.get? · name) params
        simp [empty, first, second, TextMap.get?_ofList, different] at values

end Directive

/-- Blanks at the end of a closed line make no token. -/
theorem tokenChars_append_blanks {line gap : List Char}
    (closed : ScanState.start.after line = .start) (blanks : ∀ c ∈ gap, isBlank c = true) :
    tokenChars (line ++ gap) = tokenChars line := by
  rw [tokenChars, ScanState.marks_append, closed, ScanState.marks_between_tokens blanks,
    charsOfMarks_append_separators, ← tokenChars]

/-- Blanks at the end of a marked line that is not closed change the directive. -/
theorem ofChars_append_blanks_ne {line gap : List Char}
    (opened : ScanState.start.after (Directive.marker :: line) ≠ .start) (nonempty : gap ≠ [])
    (blanks : ∀ c ∈ gap, isBlank c = true) :
    Directive.ofChars (tokenChars (Directive.marker :: line)) ≠
      Directive.ofChars (tokenChars (Directive.marker :: line ++ gap)) := by
  have quotes := ScanState.start.isQuote_after (Directive.marker :: line) nofun
  obtain ⟨held, rest, marks, filled, literal⟩ :=
    ScanState.marks_of_open opened quotes nonempty blanks
  obtain ⟨others, last, joined⟩ :=
    exists_last_chars (ScanState.start.marks (Directive.marker :: line))
  obtain ⟨head, more, first⟩ := exists_head_tokenChars line
  have before : tokenChars (Directive.marker :: line) = others ++ [last].filter (!·.isEmpty) := by
    have alone := joined []
    rwa [List.map_nil, List.append_nil, List.append_nil] at alone
  have after : tokenChars (Directive.marker :: line ++ gap) = others ++ [last ++ held] := by
    rw [tokenChars, ScanState.marks_append, marks, ← List.append_assoc,
      charsOfMarks_append_separators, joined held]
    simp [filled]
  have marked : others = [] → last ≠ [] := by
    rintro rfl rfl
    cases before.symm.trans first
  rw [before, after]
  exact Directive.ofChars_append_ne filled literal marked

/-- Without its trimming a marked line has the same tokens and is read as the same directive just
when there are no blanks at its end, or the tokenizer comes to them with nothing open. -/
theorem tokenize_trim_iff {raw before after : String} (whole : raw = before ++ trim raw ++ after)
    (marked : (trim raw).toList.head? = some Directive.marker) :
    ((tokenize (trim raw)).map Token.chars = (tokenize raw).map Token.chars ↔
      after = "" ∨ EndsClosed (trim raw)) ∧
    (Directive.read raw = Directive.ofTokens (tokenize raw) ↔
      after = "" ∨ EndsClosed (trim raw)) := by
  obtain ⟨line, chars⟩ := List.head?_eq_some_iff.mp marked
  have parts : raw.toList = before.toList ++ (trimChars raw.toList ++ after.toList) := by
    rw [← toList_trim, ← List.append_assoc, ← String.toList_append, ← String.toList_append, ← whole]
  obtain ⟨lead, trail⟩ := blank_around_trimChars parts (by rw [← toList_trim, chars]; nofun)
  rw [← toList_trim, chars] at parts
  have tokens : (tokenize raw).map Token.chars =
      tokenChars (Directive.marker :: line ++ after.toList) := by
    rw [map_chars_tokenize, parts, tokenChars_blanks lead]
  rw [Directive.read_of_marker chars, Directive.ofTokens_eq, tokens, map_chars_tokenize, chars,
    endsClosed_iff, chars]
  by_cases closed : after = "" ∨ ScanState.start.after (Directive.marker :: line) = .start
  · have same : tokenChars (Directive.marker :: line ++ after.toList) =
        tokenChars (Directive.marker :: line) := by
      rcases closed with rfl | closed
      · exact congrArg tokenChars (List.append_nil _)
      · exact tokenChars_append_blanks closed trail
    rw [same]
    exact ⟨iff_of_true rfl closed, iff_of_true rfl closed⟩
  · obtain ⟨cut, opened⟩ := not_or.mp closed
    have different := ofChars_append_blanks_ne opened (by simpa using cut) trail
    exact ⟨iff_of_false (fun same => different (congrArg _ same)) closed,
      iff_of_false different closed⟩

/-- A blank behind a backslash, blanks in a span that is never closed, and blanks behind one that
is. -/
theorem tokenize_trim_iff_three_ends :
    Directive.read "\t@k a\\ " ≠ Directive.ofTokens (tokenize "\t@k a\\ ") ∧
    (tokenize (trim "@k n=\"a \t")).map Token.chars ≠ (tokenize "@k n=\"a \t").map Token.chars ∧
    Directive.read "@k 'a\\'' \u3000" = Directive.ofTokens (tokenize "@k 'a\\'' \u3000") := by
  have escaped := (tokenize_trim_iff (by decide +kernel : "\t@k a\\ " = "\t" ++ _ ++ " ")
    (by decide +kernel)).2
  have quoted := (tokenize_trim_iff (by decide +kernel : "@k n=\"a \t" = "" ++ _ ++ " \t")
    (by decide +kernel)).1
  have closed := (tokenize_trim_iff
    (by decide +kernel : "@k 'a\\'' \u3000" = "" ++ _ ++ " \u3000") (by decide +kernel)).2
  refine ⟨?_, ?_, ?_⟩
  · exact mt escaped.mp (by decide +kernel)
  · exact mt quoted.mp (by decide +kernel)
  · exact closed.mpr (by decide +kernel)

end DocOptions
