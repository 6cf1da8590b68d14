import DocOptions.Directive.Tokenize
import DocOptions.Proofs.Text.Trim

/-! Compositional reading of directive lines. A stretch of characters is read on its own, with the
span that is open before it and the one that is open after it; stretches that leave no span open and
have blanks between them are the tokens of a line. -/

namespace DocOptions

open Text

/-- Where the span `before` is open, `source` is read as `chars` and leaves `after` open. -/
inductive Scans : Option Char → List Char → List TokenChar → Option Char → Prop
  | done {span : Option Char} : Scans span [] [] span
  | escaped {span after : Option Char} {c : Char} {source : List Char} {chars : List TokenChar} :
      Scans span source chars after →
      Scans span ('\\' :: c :: source) (⟨c, .escaped⟩ :: chars) after
  | plain {span between after : Option Char} {c : Char} {kind : CharKind} {source : List Char}
      {chars : List TokenChar} :
      c ≠ '\\' → Cursor.classify span c = some (kind, between) → Scans between source chars after →
      Scans span (c :: source) (⟨c, kind⟩ :: chars) after

namespace Scans

variable {before between after : Option Char} {source source' : List Char}
  {chars chars' : List TokenChar}

theorem append (first : Scans before source chars between)
    (second : Scans between source' chars' after) :
    Scans before (source ++ source') (chars ++ chars') after := by
  induction first with
  | done => exact second
  | escaped _ ih => exact .escaped (ih second)
  | plain solid kind _ ih => exact .plain solid kind (ih second)

theorem chars_ne_nil (scan : Scans before source chars after) (nonempty : source ≠ []) :
    chars ≠ [] := by
  cases scan with
  | done => exact absurd rfl nonempty
  | escaped | plain => exact List.cons_ne_nil _ _

/-- The reader goes through a stretch and on with what follows it. -/
theorem readChars (scan : Scans before source chars after) (offset : Nat) (rest : List Char) :
    Cursor.readChars before false offset (source ++ rest) =
      (chars ++ (Cursor.readChars after false (offset + source.length) rest).1,
        (Cursor.readChars after false (offset + source.length) rest).2) := by
  induction scan generalizing offset with
  | done => rfl
  | escaped _ ih =>
    have next := ih (offset + 2)
    simp only [List.cons_append, Cursor.readChars, if_true, Bool.false_eq_true, if_false,
      List.length_cons]
    rw [next]
    simp only [Nat.add_comm, Nat.add_left_comm]
  | plain solid kind _ ih =>
    have next := ih (offset + 1)
    simp only [List.cons_append, Cursor.readChars, Bool.false_eq_true, if_false, if_neg solid, kind,
      List.length_cons]
    rw [next]
    simp only [Nat.add_comm, Nat.add_left_comm]

end Scans

theorem isBlank_of_isQuote {c : Char} (quote : isQuote c = true) : isBlank c = false := by
  simp only [isQuote, Bool.or_eq_true, beq_iff_eq] at quote
  rcases quote with rfl | rfl
  · decide
  · decide

namespace Cursor

theorem ne_backslash_of_blank {c : Char} (blank : isBlank c = true) : c ≠ '\\' := by
  rintro rfl
  exact absurd blank (by decide)

theorem classify_of_blank {c : Char} (blank : isBlank c = true) : classify none c = none := by
  have noQuote : isQuote c = false := by
    apply Bool.eq_false_iff.mpr
    intro quote
    simp [isBlank_of_isQuote quote] at blank
  simp [classify, noQuote, blank]

/-- Outside a span the reader stops in front of a blank, and at the end of the line. -/
theorem readChars_of_blank {rest : List Char} (stops : ∀ c ∈ rest.head?, isBlank c = true)
    (offset : Nat) : readChars none false offset rest = ([], ⟨rest, offset, none⟩) := by
  cases rest with
  | nil => rfl
  | cons c rest =>
    have blank := stops c rfl
    simp [readChars, ne_backslash_of_blank blank, classify_of_blank blank]

theorem skipBlanks_of_solid {gap body : List Char} (blanks : ∀ c ∈ gap, isBlank c = true)
    (start : SolidStart body) (offset : Nat) (openQuote : Option Char) :
    skipBlanks ⟨gap ++ body, offset, openQuote⟩ = ⟨body, offset + gap.length, openQuote⟩ := by
  have left : (gap ++ body).dropWhile isBlank = body := by
    rw [List.dropWhile_append_of_pos blanks]
    cases body with
    | nil => rfl
    | cons c rest => exact List.dropWhile_cons_of_neg (by simp [start c rfl])
  simp only [skipBlanks, left, List.length_append, Nat.add_sub_cancel]

/-- The next token is the stretch after the blanks, if it leaves no span open. -/
theorem next?_of_scans {gap source rest : List Char} {chars : List TokenChar}
    (blanks : ∀ c ∈ gap, isBlank c = true) (scan : Scans none source chars none)
    (nonempty : source ≠ []) (start : SolidStart source)
    (stops : ∀ c ∈ rest.head?, isBlank c = true) (offset : Nat) :
    next? ⟨gap ++ (source ++ rest), offset, none⟩ =
      some (⟨chars, offset + gap.length⟩, ⟨rest, offset + gap.length + source.length, none⟩) := by
  obtain ⟨c, others, rfl⟩ := List.exists_cons_of_ne_nil nonempty
  have bodyStart : SolidStart (c :: others ++ rest) := solidStart_cons (start c rfl)
  have read := scan.readChars (offset + gap.length) rest
  rw [readChars_of_blank stops, List.append_nil] at read
  rw [next?, skipBlanks_of_solid blanks bodyStart]
  simp only [List.cons_append] at read ⊢
  rw [read]

theorem tokens_of_next? {cursor after : Cursor} {token : Token}
    (read : cursor.next? = some (token, after)) : cursor.tokens = token :: after.tokens := by
  rw [tokens]
  split
  · rename_i ended
    simp [ended] at read
  · rename_i found
    rw [found, Option.some.injEq, Prod.mk.injEq] at read
    rw [read.1, read.2]

theorem tokens_of_nil (offset : Nat) (openQuote : Option Char) :
    tokens ⟨[], offset, openQuote⟩ = [] := by
  rw [tokens]
  rfl

end Cursor

/-- Stretches with blanks in front of each, and what each of them is read as. -/
inductive Stretches : List Char → List (List TokenChar) → Prop
  | done : Stretches [] []
  | next {gap source rest : List Char} {chars : List TokenChar} {others : List (List TokenChar)} :
      gap ≠ [] → (∀ c ∈ gap, isBlank c = true) → Scans none source chars none → source ≠ [] →
      SolidStart source → Stretches rest others →
      Stretches (gap ++ (source ++ rest)) (chars :: others)

namespace Stretches

variable {line rest : List Char} {others : List (List TokenChar)}

theorem head_blank (stretches : Stretches line others) : ∀ c ∈ line.head?, isBlank c = true := by
  cases stretches with
  | done => exact fun _ member => nomatch member
  | next parted blanks =>
    obtain ⟨blank, gap, rfl⟩ := List.exists_cons_of_ne_nil parted
    rintro _ ⟨⟩
    exact blanks blank List.mem_cons_self

/-- Items with blanks in front of each. -/
theorem flatMap {α : Type} {gap source : α → List Char} {chars : α → List TokenChar}
    (parted : ∀ item, gap item ≠ []) (blanks : ∀ item, ∀ c ∈ gap item, isBlank c = true)
    (scan : ∀ item, Scans none (source item) (chars item) none)
    (nonempty : ∀ item, source item ≠ []) (start : ∀ item, SolidStart (source item))
    (items : List α) :
    Stretches (items.flatMap fun item => gap item ++ source item) (items.map chars) := by
  induction items with
  | nil => exact .done
  | cons first rest ih =>
    have next := Stretches.next (parted first) (blanks first) (scan first) (nonempty first)
      (start first) ih
    simpa only [List.flatMap_cons, List.map_cons, List.append_assoc] using next

theorem chars_ne_nil (stretches : Stretches line others) : ∀ chars ∈ others, chars ≠ [] := by
  induction stretches with
  | done => exact fun _ member => nomatch member
  | next _ _ scan nonempty _ _ ih =>
    exact List.forall_mem_cons.mpr ⟨scan.chars_ne_nil nonempty, ih⟩

theorem chars_tokens (stretches : Stretches line others) (offset : Nat) :
    (Cursor.tokens ⟨line, offset, none⟩).map Token.chars = others := by
  induction stretches generalizing offset with
  | done => rw [Cursor.tokens_of_nil]; rfl
  | next _ blanks scan nonempty start after ih =>
    rw [Cursor.tokens_of_next?
      (Cursor.next?_of_scans blanks scan nonempty start after.head_blank offset), List.map_cons, ih]

/-- A line that starts with a stretch is read as it and the others. -/
theorem chars_tokenize {source : List Char} {chars : List TokenChar}
    (scan : Scans none source chars none) (nonempty : source ≠ []) (start : SolidStart source)
    (stretches : Stretches rest others) :
    (tokenize (String.ofList (source ++ rest))).map Token.chars = chars :: others := by
  have read := Cursor.next?_of_scans (List.forall_mem_nil _) scan nonempty start
    stretches.head_blank 0
  have all : ((Cursor.start (String.ofList (source ++ rest))).tokens).map Token.chars =
      chars :: others := by
    rw [Cursor.start, String.toList_ofList, ← List.nil_append (source ++ rest),
      Cursor.tokens_of_next? read, List.map_cons, stretches.chars_tokens]
  have filled : ∀ read ∈ chars :: others, read ≠ [] :=
    List.forall_mem_cons.mpr ⟨scan.chars_ne_nil nonempty, stretches.chars_ne_nil⟩
  have solid : ∀ token ∈ (Cursor.start (String.ofList (source ++ rest))).tokens,
      (!token.isEmpty) = true := by
    intro token member
    have charsMember := List.mem_map_of_mem (f := Token.chars) member
    rw [all] at charsMember
    simpa [Token.isEmpty] using filled token.chars charsMember
  rw [tokenize, List.filter_eq_self.mpr solid, all]

end Stretches
end DocOptions
