import DocOptions.Proofs.Directive.Scan

/-! A line read in one pass, from left to right, with one mark for each character. What the marks
say fixes the tokens: they are the longest runs of marks that do not separate. The pass has no
cursor, looks at one character at a time and stops nowhere, so the tokenizer is compared here with
something that cannot skip, repeat or reorder a character. -/

namespace DocOptions

open Text

/-- What a character of a line is to its tokens. -/
inductive Mark
  /-- A blank between tokens. -/
  | separator (blank : Char)
  /-- A backslash that is left out. -/
  | escape
  /-- A character of a token. -/
  | char (c : TokenChar)
  deriving DecidableEq

namespace Mark

/-- The character of the line. -/
def source : Mark → Char
  | separator blank => blank
  | escape => '\\'
  | char c => c.char

def isSeparator : Mark → Bool
  | separator _ => true
  | escape | char _ => false

/-- Whether the mark belongs to a token. -/
def isSolid (mark : Mark) : Bool :=
  !mark.isSeparator

def char? : Mark → Option TokenChar
  | separator _ | escape => none
  | char c => some c

end Mark

/-- What is known between two characters of a line: the quote character of the span that is open,
and whether the next character is literal because of a backslash. -/
structure ScanState where
  span : Option Char
  escaping : Bool
  deriving DecidableEq

namespace ScanState

/-- The mark of a character, and what is known after it. -/
def step (state : ScanState) (c : Char) : Mark × ScanState :=
  if state.escaping then (.char ⟨c, .escaped⟩, { state with escaping := false })
  else if c = '\\' then (.escape, { state with escaping := true })
  else
    match state.span with
    | some quote =>
      if c = quote then (.char ⟨c, .quote⟩, ⟨none, false⟩) else (.char ⟨c, .quoted⟩, state)
    | none =>
      if c = '"' ∨ c = '\'' then (.char ⟨c, .quote⟩, ⟨some c, false⟩)
      else if isBlank c then (.separator c, state)
      else (.char ⟨c, .bare⟩, state)

/-- The marks of characters, one each. -/
def marks (state : ScanState) : List Char → List Mark
  | [] => []
  | c :: rest => (state.step c).1 :: (state.step c).2.marks rest

/-- Nothing is open at the start of a line. -/
def start : ScanState := ⟨none, false⟩

end ScanState

/-- The marks of a line. -/
def marks (line : String) : List Mark :=
  ScanState.start.marks line.toList

/-- The token of a run of marks with their offsets. It stands where the run starts. -/
def Token.ofRun? : List (Mark × Nat) → Option Token
  | [] => none
  | (first, offset) :: rest => some ⟨((first, offset) :: rest).filterMap (·.1.char?), offset⟩

/-- The tokens of marks, the first of which has the given offset: one token for each longest run
without a separator. -/
def tokensOfMarks (offset : Nat) (marks : List Mark) : List Token :=
  ((marks.zipIdx offset).splitOnP (·.1.isSeparator)).filterMap Token.ofRun?

namespace ScanState

theorem source_step (state : ScanState) (c : Char) : (state.step c).1.source = c := by
  unfold step
  split
  · rfl
  · split
    · rename_i backslash
      exact backslash.symm
    · split
      · split <;> rfl
      · split
        · rfl
        · split <;> rfl

theorem map_source_marks (state : ScanState) (chars : List Char) :
    (state.marks chars).map Mark.source = chars := by
  induction chars generalizing state with
  | nil => rfl
  | cons c rest ih => rw [marks, List.map_cons, source_step, ih]

/-- A character that no backslash precedes is marked as the tokenizer classifies it. -/
theorem step_of_classify (span : Option Char) {c : Char} (solid : c ≠ '\\') :
    step ⟨span, false⟩ c =
      match Cursor.classify span c with
      | none => (.separator c, ⟨span, false⟩)
      | some (kind, after) => (.char ⟨c, kind⟩, ⟨after, false⟩) := by
  cases span with
  | some quote =>
    by_cases closes : c = quote
    · subst closes
      simp [step, solid, Cursor.classify]
    · simp [step, solid, Cursor.classify, closes]
  | none =>
    by_cases quote : isQuote c = true
    · have opens : c = '"' ∨ c = '\'' := by simpa [isQuote] using quote
      simp [step, solid, Cursor.classify, quote, opens]
    · have plain : ¬ (c = '"' ∨ c = '\'') := by simpa [isQuote] using quote
      by_cases blank : isBlank c = true
      · simp [step, solid, Cursor.classify, quote, plain, blank]
      · simp [step, solid, Cursor.classify, quote, plain, blank]

theorem step_of_blank {c : Char} (blank : isBlank c = true) :
    start.step c = (.separator c, start) := by
  rw [start, step_of_classify none (Cursor.ne_backslash_of_blank blank),
    Cursor.classify_of_blank blank]

theorem marks_of_blanks {gap : List Char} (blanks : ∀ c ∈ gap, isBlank c = true)
    (rest : List Char) :
    start.marks (gap ++ rest) = gap.map Mark.separator ++ start.marks rest := by
  induction gap with
  | nil => rfl
  | cons c gap ih =>
    have ⟨blank, others⟩ := List.forall_mem_cons.mp blanks
    rw [List.cons_append, marks, step_of_blank blank, ih others]
    rfl

end ScanState

/-- The characters of the marks up to the first one that separates, and what is left from there. A
span can only be open at the end of the line. -/
structure ReadsRun (marks : List Mark) (offset : Nat) (chars : List TokenChar) (after : Cursor) :
    Prop where
  chars : chars = (marks.takeWhile Mark.isSolid).filterMap Mark.char?
  offset : after.offset = offset + (marks.takeWhile Mark.isSolid).length
  rest : ScanState.start.marks after.rest = marks.dropWhile Mark.isSolid
  span : after.openQuote = none ∨ after.rest = []

theorem ReadsRun.cons {marks : List Mark} {offset : Nat} {chars : List TokenChar} {after : Cursor}
    (run : ReadsRun marks (offset + 1) chars after) (mark : Mark) (solid : mark.isSolid = true) :
    ReadsRun (mark :: marks) offset (mark.char?.toList ++ chars) after where
  chars := by
    rw [List.takeWhile_cons_of_pos solid, run.chars]
    cases mark <;> rfl
  offset := by
    rw [List.takeWhile_cons_of_pos solid, run.offset, List.length_cons]
    omega
  rest := by rw [List.dropWhile_cons_of_pos solid, run.rest]
  span := run.span

/-- Blanks separate only outside of a span. -/
theorem Cursor.span_of_classify {span : Option Char} {c : Char}
    (separates : classify span c = none) : span = none := by
  cases span with
  | none => rfl
  | some quote =>
    by_cases closes : c = quote
    · simp [classify, closes] at separates
    · simp [classify, closes] at separates

theorem Cursor.readsRun (span : Option Char) (escaping : Bool) (offset : Nat) (chars : List Char) :
    ReadsRun (ScanState.marks ⟨span, escaping⟩ chars) offset
      (readChars span escaping offset chars).1 (readChars span escaping offset chars).2 := by
  induction chars generalizing span escaping offset with
  | nil => exact ⟨rfl, rfl, rfl, .inr rfl⟩
  | cons c rest ih =>
    cases escaping with
    | true => exact (ih span false (offset + 1)).cons (.char ⟨c, .escaped⟩) rfl
    | false =>
      by_cases backslash : c = '\\'
      · subst backslash
        exact (ih span true (offset + 1)).cons .escape rfl
      · have mark := ScanState.step_of_classify span backslash
        rw [readChars, if_neg Bool.false_ne_true, if_neg backslash]
        cases kind : classify span c with
        | none =>
          obtain rfl := span_of_classify kind
          rw [kind] at mark
          have line : ScanState.start.marks (c :: rest) =
              .separator c :: ScanState.start.marks rest := by
            rw [ScanState.marks, ScanState.start, mark]
          exact line ▸ ⟨rfl, rfl, line, .inl rfl⟩
        | some found =>
          rw [kind] at mark
          rw [ScanState.marks, mark]
          exact (ih found.2 false (offset + 1)).cons (.char ⟨c, found.1⟩) rfl

section

variable {offset : Nat} {marks : List Mark}

@[simp] theorem tokensOfMarks_nil : tokensOfMarks offset [] = [] := by
  simp [tokensOfMarks, Token.ofRun?]

theorem tokensOfMarks_separator (blank : Char) :
    tokensOfMarks offset (.separator blank :: marks) = tokensOfMarks (offset + 1) marks := by
  have separates : Mark.isSeparator (.separator blank) = true := rfl
  rw [tokensOfMarks, List.zipIdx_cons, List.splitOnP_cons_eq_if_modifyHead, if_pos separates]
  rfl

theorem tokensOfMarks_separators (gap : List Char) :
    tokensOfMarks offset (gap.map .separator ++ marks) =
      tokensOfMarks (offset + gap.length) marks := by
  induction gap generalizing offset with
  | nil => rfl
  | cons blank gap ih =>
    rw [List.map_cons, List.cons_append, tokensOfMarks_separator, ih, List.length_cons]
    congr 1
    omega

theorem filterMap_zipIdx_char? (run : List Mark) (offset : Nat) :
    (run.zipIdx offset).filterMap (·.1.char?) = run.filterMap Mark.char? := by
  induction run generalizing offset with
  | nil => rfl
  | cons mark run ih => rw [List.zipIdx_cons, List.filterMap_cons, List.filterMap_cons, ih]

theorem Token.ofRun?_zipIdx {run : List Mark} (nonempty : run ≠ []) :
    Token.ofRun? (run.zipIdx offset) = some ⟨run.filterMap Mark.char?, offset⟩ := by
  obtain ⟨mark, others, rfl⟩ := List.exists_cons_of_ne_nil nonempty
  rw [← filterMap_zipIdx_char? _ offset]
  rfl

/-- A run up to a separator or the end is a token. -/
theorem tokensOfMarks_run {run : List Mark} (nonempty : run ≠ [])
    (solid : ∀ mark ∈ run, mark.isSolid = true)
    (stops : ∀ mark ∈ marks.head?, mark.isSolid = false) :
    tokensOfMarks offset (run ++ marks) =
      ⟨run.filterMap Mark.char?, offset⟩ :: tokensOfMarks (offset + run.length) marks := by
  have inside : ∀ entry ∈ run.zipIdx offset, entry.1.isSeparator = false := by
    rintro ⟨mark, place⟩ member
    simpa [Mark.isSolid] using solid mark (List.fst_mem_of_mem_zipIdx member)
  cases marks with
  | nil =>
    rw [List.append_nil, tokensOfMarks, List.splitOnP_eq_singleton inside, List.filterMap_cons,
      Token.ofRun?_zipIdx nonempty, tokensOfMarks_nil]
    rfl
  | cons mark rest =>
    have separates : mark.isSeparator = true := by simpa [Mark.isSolid] using stops mark rfl
    obtain ⟨blank, rfl⟩ : ∃ blank, mark = .separator blank := by
      cases mark with
      | separator blank => exact ⟨blank, rfl⟩
      | escape | char => cases separates
    rw [tokensOfMarks_separator, tokensOfMarks, List.zipIdx_append, List.zipIdx_cons,
      List.splitOnP_append_cons_of_forall_mem inside _ separates, List.filterMap_cons,
      Token.ofRun?_zipIdx nonempty]
    rfl

theorem tokensOfMarks_solid {mark : Mark} (solid : mark.isSolid = true) :
    tokensOfMarks offset (mark :: marks) =
      ⟨((mark :: marks).takeWhile Mark.isSolid).filterMap Mark.char?, offset⟩ ::
        tokensOfMarks (offset + ((mark :: marks).takeWhile Mark.isSolid).length)
          ((mark :: marks).dropWhile Mark.isSolid) := by
  have nonempty : (mark :: marks).takeWhile Mark.isSolid ≠ [] := by
    rw [List.takeWhile_cons_of_pos solid]
    exact List.cons_ne_nil _ _
  have stops : ∀ next ∈ ((mark :: marks).dropWhile Mark.isSolid).head?, next.isSolid = false := by
    intro next first
    have head := List.head?_dropWhile_not Mark.isSolid (mark :: marks)
    rw [Option.mem_def.mp first] at head
    simpa using head
  rw [← tokensOfMarks_run nonempty (fun _ member => List.mem_takeWhile_imp member) stops,
    List.takeWhile_append_dropWhile]

end

namespace Cursor

theorem takeWhile_append_skipBlanks (cursor : Cursor) :
    cursor.rest.takeWhile isBlank ++ cursor.skipBlanks.rest = cursor.rest :=
  List.takeWhile_append_dropWhile

theorem offset_skipBlanks (cursor : Cursor) :
    cursor.skipBlanks.offset = cursor.offset + (cursor.rest.takeWhile isBlank).length := by
  have lengths := congrArg List.length cursor.takeWhile_append_skipBlanks
  rw [List.length_append] at lengths
  simp only [skipBlanks] at lengths ⊢
  omega

/-- Skipped blanks are marks that separate. -/
theorem tokensOfMarks_skipBlanks (cursor : Cursor) :
    tokensOfMarks cursor.offset (ScanState.start.marks cursor.rest) =
      tokensOfMarks cursor.skipBlanks.offset (ScanState.start.marks cursor.skipBlanks.rest) := by
  have blanks : ∀ c ∈ cursor.rest.takeWhile isBlank, isBlank c = true :=
    fun _ member => List.mem_takeWhile_imp member
  rw [offset_skipBlanks, ← tokensOfMarks_separators, ← ScanState.marks_of_blanks blanks,
    takeWhile_append_skipBlanks]

/-- Outside of a span a character that is no blank belongs to a token. -/
theorem isSolid_step {c : Char} (solid : isBlank c = false) :
    (ScanState.start.step c).1.isSolid = true := by
  by_cases backslash : c = '\\'
  · subst backslash
    rfl
  · rw [ScanState.start, ScanState.step_of_classify none backslash]
    cases kind : classify none c with
    | none => simp [isBlank_of_classify kind] at solid
    | some found => rfl

/-- After the blanks either nothing is left, or a token starts there. -/
theorem next?_cases (cursor : Cursor) :
    (cursor.skipBlanks.rest = [] ∧ cursor.next? = none) ∨
    ∃ c rest, cursor.skipBlanks.rest = c :: rest ∧ isBlank c = false ∧
      cursor.next? = some
        (⟨(readChars cursor.openQuote false cursor.skipBlanks.offset (c :: rest)).1,
          cursor.skipBlanks.offset⟩,
        (readChars cursor.openQuote false cursor.skipBlanks.offset (c :: rest)).2) := by
  have skipped : cursor.skipBlanks =
      ⟨cursor.skipBlanks.rest, cursor.skipBlanks.offset, cursor.openQuote⟩ := rfl
  cases left : cursor.skipBlanks.rest with
  | nil =>
    rw [left] at skipped
    exact .inl ⟨rfl, by rw [next?, skipped]⟩
  | cons c rest =>
    rw [left] at skipped
    exact .inr ⟨c, rest, rfl, head_skipBlanks left, by rw [next?, skipped]⟩

/-- The tokenizer, wherever it stands outside of a span, goes on with the tokens of the marks that
are left. -/
theorem tokens_eq_tokensOfMarks (cursor : Cursor)
    (outside : cursor.openQuote = none ∨ cursor.rest = []) :
    cursor.tokens = tokensOfMarks cursor.offset (ScanState.start.marks cursor.rest) := by
  fun_induction tokens cursor with
  | case1 cursor done =>
    rcases cursor.next?_cases with ⟨left, -⟩ | ⟨c, rest, -, -, read⟩
    · rw [tokensOfMarks_skipBlanks, left]
      exact tokensOfMarks_nil.symm
    · simp [read] at done
  | case2 cursor token after found ih =>
    rcases cursor.next?_cases with ⟨-, ended⟩ | ⟨c, rest, left, solid, read⟩
    · simp [ended] at found
    · have closed : cursor.openQuote = none := by
        refine outside.resolve_right fun empty => ?_
        simp [skipBlanks, empty] at left
      rw [read, closed, Option.some.injEq, Prod.mk.injEq] at found
      obtain ⟨rfl, rfl⟩ := found
      have run := readsRun none false cursor.skipBlanks.offset (c :: rest)
      have whole : tokensOfMarks cursor.skipBlanks.offset (ScanState.start.marks (c :: rest)) = _ :=
        tokensOfMarks_solid (isSolid_step solid)
      rw [tokensOfMarks_skipBlanks, left, whole, ih run.span, run.chars, run.offset, run.rest]
      rfl

end Cursor

theorem flatten_splitOnP {α : Type} (p : α → Bool) (items : List α) :
    (items.splitOnP p).flatten = items.filter (!p ·) := by
  induction items with
  | nil => simp
  | cons item rest ih =>
    obtain ⟨first, others, pieces⟩ := List.exists_cons_of_ne_nil (List.splitOnP_ne_nil p rest)
    rw [pieces] at ih
    rw [List.splitOnP_cons_eq_if_modifyHead, pieces]
    by_cases separates : p item = true
    · simpa [separates] using ih
    · simpa [separates] using ih

theorem flatMap_chars_ofRun? (runs : List (List (Mark × Nat))) :
    (runs.filterMap Token.ofRun?).flatMap Token.chars = runs.flatten.filterMap (·.1.char?) := by
  induction runs with
  | nil => rfl
  | cons run runs ih =>
    rw [List.flatten_cons, List.filterMap_append, ← ih]
    cases run with
    | nil => rfl
    | cons => rfl

/-- The tokens have the characters that are marked as theirs. -/
theorem flatMap_chars_tokensOfMarks (offset : Nat) (marks : List Mark) :
    (tokensOfMarks offset marks).flatMap Token.chars = marks.filterMap Mark.char? := by
  rw [tokensOfMarks, flatMap_chars_ofRun?, flatten_splitOnP, List.filterMap_filter,
    ← filterMap_zipIdx_char? marks offset]
  apply List.filterMap_congr
  rintro ⟨mark, place⟩ -
  cases mark with
  | separator | escape | char => rfl

namespace Cursor

theorem drop_skipBlanks {line : List Char} {cursor : Cursor}
    (place : line.drop cursor.offset = cursor.rest) :
    line.drop cursor.skipBlanks.offset = cursor.skipBlanks.rest := by
  rw [offset_skipBlanks, ← List.drop_drop, place]
  nth_rewrite 2 [← takeWhile_append_skipBlanks cursor]
  rw [List.drop_left]

theorem drop_readChars {line chars : List Char} {offset : Nat} (span : Option Char)
    (escaping : Bool) (place : line.drop offset = chars) :
    line.drop (readChars span escaping offset chars).2.offset =
      (readChars span escaping offset chars).2.rest := by
  induction chars generalizing span escaping offset with
  | nil => exact place
  | cons c rest ih =>
    have next : line.drop (offset + 1) = rest := by
      rw [← List.tail_drop, place, List.tail_cons]
    cases escaping with
    | true => exact ih span false next
    | false =>
      rw [readChars, if_neg Bool.false_ne_true]
      split
      · exact ih span true next
      · split
        · exact place
        · exact ih _ false next

/-- A token has characters unless it is a lone backslash at the end of the line. -/
theorem chars_readChars_eq_nil_iff (span : Option Char) (offset : Nat) {c : Char} {rest : List Char}
    (solid : isBlank c = false) :
    (readChars span false offset (c :: rest)).1 = [] ↔ c :: rest = ['\\'] := by
  rw [readChars, if_neg Bool.false_ne_true]
  by_cases backslash : c = '\\'
  · subst backslash
    cases rest with
    | nil => simp [readChars]
    | cons next rest => simp [readChars]
  · cases kind : classify span c with
    | none => simp [isBlank_of_classify kind] at solid
    | some found => simp [backslash]

theorem isEmpty_iff_of_mem_tokens {line : List Char} {cursor : Cursor}
    (place : line.drop cursor.offset = cursor.rest) :
    ∀ token ∈ cursor.tokens, token.isEmpty = true ↔ line.drop token.offset = ['\\'] := by
  fun_induction tokens cursor with
  | case1 cursor done => exact fun _ member => nomatch member
  | case2 cursor token after found ih =>
    rcases cursor.next?_cases with ⟨-, ended⟩ | ⟨c, rest, left, solid, read⟩
    · simp [ended] at found
    · rw [read, Option.some.injEq, Prod.mk.injEq] at found
      obtain ⟨rfl, rfl⟩ := found
      have here := drop_skipBlanks place
      rw [left] at here
      refine List.forall_mem_cons.mpr ⟨?_, ih (drop_readChars _ _ here)⟩
      rw [Token.isEmpty, List.isEmpty_iff, chars_readChars_eq_nil_iff _ _ solid, here]

end Cursor

/-- What is left out of the tokens has no characters. -/
theorem flatMap_chars_tokenize (line : String) :
    (tokenize line).flatMap Token.chars = (Cursor.start line).tokens.flatMap Token.chars := by
  rw [tokenize]
  induction (Cursor.start line).tokens with
  | nil => rfl
  | cons token rest ih =>
    by_cases empty : token.chars = []
    · simpa [Token.isEmpty, empty] using ih
    · simpa [Token.isEmpty, empty] using ih

theorem tokens_start (line : String) : (Cursor.start line).tokens = tokensOfMarks 0 (marks line) :=
  Cursor.tokens_eq_tokensOfMarks (Cursor.start line) (.inl rfl)

/-- The tokens of a line are the longest runs of its marks without a separator. Each character of
the line has a mark, and the tokens have the characters that are marked as theirs, in the order of
the line and with the same kinds. A token without characters is a lone backslash at the end of the
line, and such a token is the only thing that is left out. -/
theorem tokenize_eq_runs (line : String) :
    tokenize line = (tokensOfMarks 0 (marks line)).filter (!·.isEmpty) ∧
    (marks line).map Mark.source = line.toList ∧
    (tokenize line).flatMap Token.chars = (marks line).filterMap Mark.char? ∧
    ∀ token ∈ (Cursor.start line).tokens,
      (token.isEmpty = true ↔ line.toList.drop token.offset = ['\\']) ∧
      (token ∈ tokenize line ↔ token.isEmpty = false) := by
  refine ⟨?_, ScanState.map_source_marks _ _, ?_, ?_⟩
  · rw [tokenize, tokens_start]
  · rw [flatMap_chars_tokenize, tokens_start, flatMap_chars_tokensOfMarks]
  · intro token member
    refine ⟨Cursor.isEmpty_iff_of_mem_tokens rfl token member, ?_⟩
    simp [tokenize, member]

end DocOptions
