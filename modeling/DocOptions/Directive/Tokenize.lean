import DocOptions.Directive.Token
import DocOptions.Text.Blank

/-! Cutting a directive line into tokens. Blanks separate tokens, except inside a quoted span. A
backslash makes the next character literal: it neither separates nor opens or closes a span. A span
that is never closed reaches to the end of the line. -/

namespace DocOptions

open Text

/-- What is left of a line: its characters, the offset of the first of them, and the quote character
of the span that is open there. -/
structure Cursor where
  rest : List Char
  offset : Nat
  openQuote : Option Char
  deriving DecidableEq

def isQuote (c : Char) : Bool :=
  c == '"' || c == '\''

namespace Cursor

/-- The start of a line. -/
def start (line : String) : Cursor :=
  ⟨line.toList, 0, none⟩

/-- How a character that no backslash precedes is written, and the span that is open after it;
`none` for a blank that separates. -/
def classify (openQuote : Option Char) (c : Char) : Option (CharKind × Option Char) :=
  match openQuote with
  | some quote => if c = quote then some (.quote, none) else some (.quoted, openQuote)
  | none =>
    if isQuote c then some (.quote, some c)
    else if isBlank c then none
    else some (.bare, none)

/-- Reads characters up to a separating blank or the end, and returns what is left. The flag says
that a backslash came just before; at the end of the line it stands for nothing. -/
def readChars (openQuote : Option Char) (escaping : Bool) (offset : Nat) :
    List Char → List TokenChar × Cursor
  | [] => ([], ⟨[], offset, openQuote⟩)
  | c :: rest =>
    if escaping then
      let (chars, after) := readChars openQuote false (offset + 1) rest
      (⟨c, .escaped⟩ :: chars, after)
    else if c = '\\' then readChars openQuote true (offset + 1) rest
    else
      match classify openQuote c with
      | none => ([], ⟨c :: rest, offset, openQuote⟩)
      | some (kind, openQuote) =>
        let (chars, after) := readChars openQuote false (offset + 1) rest
        (⟨c, kind⟩ :: chars, after)

def skipBlanks (cursor : Cursor) : Cursor :=
  let rest := cursor.rest.dropWhile isBlank
  { cursor with rest, offset := cursor.offset + (cursor.rest.length - rest.length) }

/-- The token after the blanks, unless nothing else is left. -/
def next? (cursor : Cursor) : Option (Token × Cursor) :=
  match cursor.skipBlanks with
  | ⟨[], _, _⟩ => none
  | ⟨rest, offset, openQuote⟩ =>
    let (chars, after) := readChars openQuote false offset rest
    some (⟨chars, offset⟩, after)

theorem length_readChars_le (openQuote : Option Char) (escaping : Bool) (offset : Nat)
    (chars : List Char) :
    (readChars openQuote escaping offset chars).2.rest.length ≤ chars.length := by
  fun_induction readChars openQuote escaping offset chars <;> simp_all <;> omega

theorem isBlank_of_classify {openQuote : Option Char} {c : Char}
    (separates : classify openQuote c = none) : isBlank c = true := by
  unfold classify at separates
  cases openQuote with
  | none => grind
  | some => grind

/-- Reading starts with a character that does not separate, so it gets on. -/
theorem length_readChars_lt (openQuote : Option Char) (offset : Nat) (c : Char) (rest : List Char)
    (solid : isBlank c = false) :
    (readChars openQuote false offset (c :: rest)).2.rest.length < (c :: rest).length := by
  simp only [readChars, Bool.false_eq_true, if_false]
  split
  · have := length_readChars_le openQuote true (offset + 1) rest
    simp only [List.length_cons]
    omega
  · split
    · rename_i separates
      simp [isBlank_of_classify separates] at solid
    · rename_i openQuote' _
      have := length_readChars_le openQuote' false (offset + 1) rest
      simp only [List.length_cons]
      omega

theorem head_skipBlanks {cursor : Cursor} {c : Char} {rest : List Char}
    (left : cursor.rest.dropWhile isBlank = c :: rest) : isBlank c = false := by
  have := List.head?_dropWhile_not isBlank cursor.rest
  rw [left] at this
  simpa using this

theorem length_next?_lt {cursor after : Cursor} {token : Token}
    (read : cursor.next? = some (token, after)) : after.rest.length < cursor.rest.length := by
  have shorter : (cursor.rest.dropWhile isBlank).length ≤ cursor.rest.length :=
    (List.dropWhile_sublist _).length_le
  cases left : cursor.rest.dropWhile isBlank with
  | nil => simp [next?, skipBlanks, left] at read
  | cons c rest =>
    have := length_readChars_lt cursor.openQuote cursor.skipBlanks.offset c rest
      (head_skipBlanks left)
    simp only [next?, skipBlanks, left, Option.some.injEq, Prod.mk.injEq] at read this
    obtain ⟨-, rfl⟩ := read
    rw [left] at shorter
    omega

/-- All tokens that are left, empty ones included. -/
def tokens (cursor : Cursor) : List Token :=
  match _ : cursor.next? with
  | none => []
  | some (token, after) => token :: after.tokens
  termination_by cursor.rest.length
  decreasing_by exact length_next?_lt ‹_›

end Cursor

/-- The tokens of a line. Only a lone backslash at the end of the line makes an empty token, and it
is left out. -/
def tokenize (line : String) : List Token :=
  (Cursor.start line).tokens.filter (!·.isEmpty)

end DocOptions
