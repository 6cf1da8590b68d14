import DocOptions.Directive.Read
import DocOptions.Proofs.Directive.Marks

/-! Lines that are put together. What follows a stretch of a line is read from the state that the
stretch leaves, so a line that is continued after blanks where no span is open and no backslash is
pending has the tokens of both parts. The directive of a line depends only on the characters of its
tokens, not on their offsets. -/

namespace DocOptions

open Text

namespace ScanState

variable (state : ScanState)

/-- What is known after characters. -/
def after (chars : List Char) : ScanState :=
  chars.foldl (fun state c => (state.step c).2) state

theorem after_cons (c : Char) (rest : List Char) :
    state.after (c :: rest) = (state.step c).2.after rest := rfl

theorem after_append (front back : List Char) :
    state.after (front ++ back) = (state.after front).after back :=
  List.foldl_append

theorem marks_append (front back : List Char) :
    state.marks (front ++ back) = state.marks front ++ (state.after front).marks back := by
  induction front generalizing state with
  | nil => rfl
  | cons c rest ih =>
    rw [List.cons_append, marks, marks, ih, List.cons_append]
    rfl

/-- Only a backslash that escapes leaves one pending. -/
theorem escaping_step_iff (c : Char) :
    (state.step c).2.escaping = true ↔ (state.step c).1 = .escape := by
  obtain ⟨span, escaping⟩ := state
  cases escaping with
  | true => simp [step]
  | false =>
    by_cases backslash : c = '\\'
    · simp [step, backslash]
    · rw [step_of_classify span backslash]
      cases Cursor.classify span c <;> simp

/-- A span is opened by a quote character. -/
theorem isQuote_step {c : Char} (quotes : ∀ quote ∈ state.span, isQuote quote = true) :
    ∀ quote ∈ (state.step c).2.span, isQuote quote = true := by
  obtain ⟨span, escaping⟩ := state
  cases escaping with
  | true => simpa [step] using quotes
  | false =>
    by_cases backslash : c = '\\'
    · simpa [step, backslash] using quotes
    · rw [step_of_classify span backslash]
      cases span with
      | none =>
        by_cases quote : isQuote c = true
        · simp [Cursor.classify, quote]
        · by_cases blank : isBlank c = true
          · simp [Cursor.classify, quote, blank]
          · simp [Cursor.classify, quote, blank]
      | some quote =>
        by_cases closes : c = quote
        · simp [Cursor.classify, closes]
        · simpa [Cursor.classify, closes] using quotes

theorem isQuote_after (chars : List Char) (quotes : ∀ quote ∈ state.span, isQuote quote = true) :
    ∀ quote ∈ (state.after chars).span, isQuote quote = true := by
  induction chars generalizing state with
  | nil => exact quotes
  | cons c rest ih => exact ih (state.step c).2 (state.isQuote_step quotes)

theorem escaping_after_iff (chars : List Char) :
    (start.after chars).escaping = true ↔ (start.marks chars).getLast? = some .escape := by
  rcases List.eq_nil_or_concat' chars with rfl | ⟨front, c, rfl⟩
  · simp [after, marks, start]
  · rw [after_append, marks_append]
    simpa [after, marks] using (start.after front).escaping_step_iff c

theorem after_of_blanks {gap : List Char} (blanks : ∀ c ∈ gap, isBlank c = true) :
    start.after gap = start := by
  induction gap with
  | nil => rfl
  | cons c rest ih =>
    obtain ⟨blank, others⟩ := List.forall_mem_cons.mp blanks
    rw [after_cons, step_of_blank blank]
    exact ih others

end ScanState

namespace Cursor

/-- Where the tokenizer stands after the last token. -/
def last (cursor : Cursor) : Cursor :=
  match _ : cursor.next? with
  | none => cursor
  | some (_, after) => after.last
  termination_by cursor.rest.length
  decreasing_by exact length_next?_lt ‹_›

/-- The reader keeps the span that the pass has open. -/
theorem span_readChars (span : Option Char) (escaping : Bool) (offset : Nat) (chars : List Char) :
    (ScanState.after ⟨(readChars span escaping offset chars).2.openQuote, false⟩
      (readChars span escaping offset chars).2.rest).span =
      (ScanState.after ⟨span, escaping⟩ chars).span := by
  induction chars generalizing span escaping offset with
  | nil => rfl
  | cons c rest ih =>
    cases escaping with
    | true => exact ih span false (offset + 1)
    | false =>
      by_cases backslash : c = '\\'
      · subst backslash
        exact ih span true (offset + 1)
      · have step := ScanState.step_of_classify span backslash
        rw [readChars, if_neg Bool.false_ne_true, if_neg backslash]
        cases kind : classify span c with
        | none => rfl
        | some found =>
          rw [kind] at step
          rw [ScanState.after_cons ⟨span, false⟩, step]
          exact ih found.2 false (offset + 1)

/-- The span that is open where the tokenizer stops is the one that the pass has open. -/
theorem openQuote_last (cursor : Cursor) (outside : cursor.openQuote = none ∨ cursor.rest = []) :
    cursor.last.openQuote = (ScanState.after ⟨cursor.openQuote, false⟩ cursor.rest).span := by
  fun_induction last cursor with
  | case1 cursor done =>
    rcases cursor.next?_cases with ⟨left, -⟩ | ⟨c, rest, -, -, read⟩
    · rcases outside with closed | empty
      · have blanks : ∀ c ∈ cursor.rest, isBlank c = true := by
          rw [← takeWhile_append_skipBlanks cursor, left, List.append_nil]
          exact fun _ member => List.mem_takeWhile_imp member
        rw [closed]
        exact congrArg ScanState.span (ScanState.after_of_blanks blanks).symm
      · rw [empty]
        rfl
    · simp [read] at done
  | case2 cursor token after found ih =>
    rcases cursor.next?_cases with ⟨-, ended⟩ | ⟨c, rest, left, -, read⟩
    · simp [ended] at found
    · have closed : cursor.openQuote = none := by
        refine outside.resolve_right fun empty => ?_
        simp [skipBlanks, empty] at left
      have blanks : ∀ c ∈ cursor.rest.takeWhile isBlank, isBlank c = true :=
        fun _ member => List.mem_takeWhile_imp member
      rw [read, closed, Option.some.injEq, Prod.mk.injEq] at found
      obtain ⟨-, rfl⟩ := found
      have run := readsRun none false cursor.skipBlanks.offset (c :: rest)
      rw [ih run.span, span_readChars, closed, ← takeWhile_append_skipBlanks cursor, left,
        ScanState.after_append]
      exact congrArg (fun state => (ScanState.after state (c :: rest)).span)
        (ScanState.after_of_blanks blanks).symm

end Cursor

/-- The tokenizer comes to the end of a line outside of a span, and the line does not end in a
backslash that escapes. -/
def EndsClosed (line : String) : Prop :=
  (Cursor.start line).last.openQuote = none ∧ (marks line).getLast? ≠ some .escape

theorem endsClosed_iff {line : String} :
    EndsClosed line ↔ ScanState.start.after line.toList = .start := by
  have span : (Cursor.start line).last.openQuote = (ScanState.start.after line.toList).span :=
    Cursor.openQuote_last (Cursor.start line) (.inl rfl)
  rw [EndsClosed, span, marks, Ne, ← ScanState.escaping_after_iff, Bool.not_eq_true]
  generalize ScanState.start.after line.toList = state
  obtain ⟨span, escaping⟩ := state
  rw [ScanState.start, ScanState.mk.injEq]

instance (line : String) : Decidable (EndsClosed line) :=
  decidable_of_iff _ endsClosed_iff.symm

theorem map_splitOnP {α β : Type} (f : α → β) (p : β → Bool) (items : List α) :
    (items.map f).splitOnP p = (items.splitOnP (p ∘ f)).map (List.map f) := by
  induction items with
  | nil => simp
  | cons item rest ih =>
    rw [List.map_cons, List.splitOnP_cons_eq_if_modifyHead, List.splitOnP_cons_eq_if_modifyHead, ih]
    by_cases separates : p (f item) = true
    · simp [separates]
    · obtain ⟨first, others, pieces⟩ :=
        List.exists_cons_of_ne_nil (List.splitOnP_ne_nil (p ∘ f) rest)
      simp [separates, pieces]

/-- The characters of the tokens of marks, token by token. -/
def charsOfMarks (marks : List Mark) : List (List TokenChar) :=
  ((marks.splitOnP Mark.isSeparator).map (List.filterMap Mark.char?)).filter (!·.isEmpty)

/-- A run without characters makes no token that counts. -/
theorem filter_chars_ofRun? (runs : List (List (Mark × Nat))) :
    ((runs.filterMap Token.ofRun?).map Token.chars).filter (!·.isEmpty) =
      (runs.map (List.filterMap (·.1.char?))).filter (!·.isEmpty) := by
  induction runs with
  | nil => rfl
  | cons run runs ih =>
    cases run with
    | nil => exact ih
    | cons first run =>
      have token : Token.ofRun? (first :: run) =
          some ⟨(first :: run).filterMap (·.1.char?), first.2⟩ := rfl
      rw [List.filterMap_cons_some token, List.map_cons, List.map_cons, List.filter_cons,
        List.filter_cons, ih]

theorem filter_chars_tokensOfMarks (offset : Nat) (marks : List Mark) :
    ((tokensOfMarks offset marks).map Token.chars).filter (!·.isEmpty) = charsOfMarks marks := by
  have placed : marks.splitOnP Mark.isSeparator =
      ((marks.zipIdx offset).splitOnP (·.1.isSeparator)).map (List.map Prod.fst) := by
    rw [← List.zipIdx_map_fst offset marks, map_splitOnP, List.zipIdx_map_fst]
    rfl
  rw [tokensOfMarks, filter_chars_ofRun?, charsOfMarks, placed, List.map_map]
  congr 2
  funext run
  have unplaced : (run.map Prod.fst).filterMap Mark.char? =
      run.filterMap (Mark.char? ∘ Prod.fst) := List.filterMap_map
  exact unplaced.symm

/-- The characters of the tokens of a line, token by token. -/
def tokenChars (line : List Char) : List (List TokenChar) :=
  charsOfMarks (ScanState.start.marks line)

theorem map_chars_tokenize (line : String) :
    (tokenize line).map Token.chars = tokenChars line.toList := by
  have filtered : (tokenize line).map Token.chars =
      ((Cursor.start line).tokens.map Token.chars).filter (!·.isEmpty) := by
    rw [tokenize, List.filter_map]
    rfl
  rw [filtered, tokens_start, filter_chars_tokensOfMarks]
  rfl

@[simp] theorem charsOfMarks_nil : charsOfMarks [] = [] := by
  simp [charsOfMarks]

theorem charsOfMarks_append (front : List Mark) (blank : Char) (back : List Mark) :
    charsOfMarks (front ++ .separator blank :: back) = charsOfMarks front ++ charsOfMarks back := by
  have separates : Mark.isSeparator (.separator blank) = true := rfl
  rw [charsOfMarks, List.splitOnP_append_cons _ _ separates, List.map_append, List.filter_append]
  rfl

theorem charsOfMarks_separators (gap : List Char) (marks : List Mark) :
    charsOfMarks (gap.map .separator ++ marks) = charsOfMarks marks := by
  induction gap with
  | nil => rfl
  | cons blank gap ih =>
    have first := charsOfMarks_append [] blank (gap.map .separator ++ marks)
    rwa [charsOfMarks_nil, List.nil_append, List.nil_append, ih] at first

theorem charsOfMarks_append_separators (marks : List Mark) (gap : List Char) :
    charsOfMarks (marks ++ gap.map .separator) = charsOfMarks marks := by
  cases gap with
  | nil => rw [List.map_nil, List.append_nil]
  | cons blank gap =>
    have rest := charsOfMarks_separators gap []
    rw [List.append_nil] at rest
    rw [List.map_cons, charsOfMarks_append, rest, charsOfMarks_nil, List.append_nil]

@[simp] theorem tokenChars_nil : tokenChars [] = [] := charsOfMarks_nil

/-- Blanks in front make no token. -/
theorem tokenChars_blanks {gap : List Char} (blanks : ∀ c ∈ gap, isBlank c = true)
    (line : List Char) : tokenChars (gap ++ line) = tokenChars line := by
  rw [tokenChars, ScanState.marks_of_blanks blanks, charsOfMarks_separators, ← tokenChars]

/-- Where nothing is open, blanks part a line into lines that are tokenized by themselves. -/
theorem tokenChars_append {line gap rest : List Char}
    (closed : ScanState.start.after line = .start) (parted : gap ≠ [])
    (blanks : ∀ c ∈ gap, isBlank c = true) :
    tokenChars (line ++ (gap ++ rest)) = tokenChars line ++ tokenChars rest := by
  obtain ⟨blank, gap, rfl⟩ := List.exists_cons_of_ne_nil parted
  rw [tokenChars, ScanState.marks_append, closed, ScanState.marks_of_blanks blanks, List.map_cons,
    List.cons_append, charsOfMarks_append, charsOfMarks_separators, ← tokenChars, ← tokenChars]

/-- A line that starts with the marker has a first token, which starts with it. -/
theorem exists_head_tokenChars (line : List Char) :
    ∃ head rest, tokenChars (Directive.marker :: line) =
      (⟨Directive.marker, .bare⟩ :: head) :: rest := by
  obtain ⟨first, others, pieces⟩ := List.exists_cons_of_ne_nil
    (List.splitOnP_ne_nil Mark.isSeparator (ScanState.start.marks line))
  have mark : ScanState.start.marks (Directive.marker :: line) =
      .char ⟨Directive.marker, .bare⟩ :: ScanState.start.marks line := rfl
  refine ⟨first.filterMap Mark.char?,
    (others.map (List.filterMap Mark.char?)).filter (!·.isEmpty), ?_⟩
  rw [tokenChars, mark, charsOfMarks, List.splitOnP_cons_eq_if_modifyHead, pieces]
  rfl

namespace Directive

/-- The directive of the characters of tokens. -/
def ofChars : List (List TokenChar) → Except GrammarError Directive
  | [] => .error .empty
  | head :: rest =>
    .ok {
      key := textOf (head.drop 1)
      options := rest.filterMap fun chars => optionOf? ⟨chars, 0⟩
      params := .ofList (rest.filterMap fun chars => paramOf? ⟨chars, 0⟩) }

theorem optionOf?_offset (token : Token) : optionOf? token = optionOf? ⟨token.chars, 0⟩ := by
  simp only [optionOf?, Token.split?, Token.separator?]
  cases token.chars.findIdx? TokenChar.isSeparator <;> rfl

theorem paramOf?_offset (token : Token) : paramOf? token = paramOf? ⟨token.chars, 0⟩ := by
  simp only [paramOf?, Token.split?, Token.separator?]
  cases token.chars.findIdx? TokenChar.isSeparator <;> rfl

theorem ofTokens_eq (tokens : List Token) : ofTokens tokens = ofChars (tokens.map Token.chars) := by
  cases tokens with
  | nil => rfl
  | cons head rest =>
    rw [ofTokens, List.map_cons, ofChars, List.filterMap_map, List.filterMap_map,
      funext optionOf?_offset, funext paramOf?_offset]
    rfl

/-- Two lists of tokens one after the other have the options of both, and the later ones decide on a
parameter of both. -/
theorem ofChars_append (head : List TokenChar) (first second : List (List TokenChar)) :
    ofChars (head :: (first ++ second)) = .ok {
      key := textOf (head.drop 1)
      options := first.filterMap (fun chars => optionOf? ⟨chars, 0⟩) ++
        second.filterMap fun chars => optionOf? ⟨chars, 0⟩
      params := (TextMap.ofList (first.filterMap fun chars => paramOf? ⟨chars, 0⟩)).override
        (.ofList (second.filterMap fun chars => paramOf? ⟨chars, 0⟩)) } := by
  rw [ofChars, List.filterMap_append, List.filterMap_append, TextMap.ofList_append]

/-- A line whose trimmed text starts with the marker is read as the tokens of that text say. -/
theorem read_of_marker {line : String} {rest : List Char}
    (marked : (trim line).toList = marker :: rest) :
    read line = ofChars (tokenChars (marker :: rest)) := by
  rw [← marked, ← map_chars_tokenize, ← ofTokens_eq]
  unfold read
  simp only [marked, if_true]

end Directive
end DocOptions
