import DocOptions.Proofs.Directive.Marks

/-! Where the parts of a split token stand in their line. The characters of a token are those of the
line without the backslashes that escape, so a place among them and an offset in the line differ by
the escaped characters in between. The value of a split token is placed by counting the characters
of its name, which puts it too far to the left by the escaped ones among them. -/

namespace DocOptions

open Text

def TokenChar.isEscaped (c : TokenChar) : Bool :=
  c.kind == .escaped

namespace Cursor

/-- Only a backslash makes a character escaped, and only outside of a span it is bare. -/
theorem kind_of_classify {span after : Option Char} {c : Char} {kind : CharKind}
    (written : classify span c = some (kind, after)) :
    kind ≠ .escaped ∧ (kind = .bare → span = none) := by
  unfold classify at written
  grind

/-- The first character that is read, and how reading goes on behind it. -/
theorem readChars_cases {span : Option Char} {offset : Nat} {line : List Char} {first : TokenChar}
    {others : List TokenChar} (read : (readChars span false offset line).1 = first :: others) :
    (∃ c rest, line = '\\' :: c :: rest ∧ first = ⟨c, .escaped⟩ ∧
      (readChars span false (offset + 2) rest).1 = others) ∨
    ∃ c kind after rest, line = c :: rest ∧ c ≠ '\\' ∧ classify span c = some (kind, after) ∧
      first = ⟨c, kind⟩ ∧ (readChars after false (offset + 1) rest).1 = others := by
  cases line with
  | nil => cases read
  | cons c rest =>
    rw [readChars, if_neg Bool.false_ne_true] at read
    by_cases backslash : c = '\\'
    · rw [if_pos backslash] at read
      cases rest with
      | nil => cases read
      | cons d rest =>
        obtain ⟨rfl, rfl⟩ := List.cons.inj read
        exact .inl ⟨d, rest, backslash ▸ rfl, rfl, rfl⟩
    · rw [if_neg backslash] at read
      cases written : classify span c with
      | none =>
        rw [written] at read
        cases read
      | some found =>
        rw [written] at read
        obtain ⟨rfl, rfl⟩ := List.cons.inj read
        exact .inr ⟨c, found.1, found.2, rest, rfl, backslash, written, rfl, rfl⟩

/-- What is read in front of a bare character is a stretch of the line that leaves no span open. -/
theorem exists_scans {span : Option Char} {offset : Nat} {line : List Char}
    {front back : List TokenChar} {c : Char}
    (read : (readChars span false offset line).1 = front ++ ⟨c, .bare⟩ :: back) :
    ∃ source rest, line = source ++ c :: rest ∧ Scans span source front none := by
  induction front generalizing span offset line with
  | nil =>
    rcases readChars_cases read with ⟨_, _, -, escaped, -⟩ |
      ⟨d, kind, after, rest, rfl, -, written, same, -⟩
    · cases escaped
    · obtain ⟨rfl, rfl⟩ := TokenChar.mk.inj same
      obtain rfl := (kind_of_classify written).2 rfl
      exact ⟨[], rest, rfl, .done⟩
  | cons first front ih =>
    rcases readChars_cases read with ⟨d, rest, rfl, rfl, others⟩ |
      ⟨d, kind, after, rest, rfl, solid, written, rfl, others⟩
    · obtain ⟨source, rest, rfl, scan⟩ := ih others
      exact ⟨'\\' :: d :: source, rest, rfl, .escaped scan⟩
    · obtain ⟨source, rest, rfl, scan⟩ := ih others
      exact ⟨d :: source, rest, rfl, .plain solid written scan⟩

/-- A token is read from the line at its offset, where no span is open. -/
theorem readChars_of_mem_tokens {line : List Char} {cursor : Cursor}
    (outside : cursor.openQuote = none ∨ cursor.rest = [])
    (place : line.drop cursor.offset = cursor.rest) :
    ∀ token ∈ cursor.tokens,
      token.chars = (readChars none false token.offset (line.drop token.offset)).1 := by
  fun_induction tokens cursor with
  | case1 cursor done => exact List.forall_mem_nil _
  | case2 cursor token after found ih =>
    rcases cursor.next?_cases with ⟨-, ended⟩ | ⟨c, rest, left, -, read⟩
    · simp [ended] at found
    · have closed : cursor.openQuote = none := by
        refine outside.resolve_right fun empty => ?_
        simp [skipBlanks, empty] at left
      rw [read, closed, Option.some.injEq, Prod.mk.injEq] at found
      obtain ⟨rfl, rfl⟩ := found
      have here := drop_skipBlanks place
      rw [left] at here
      have run := readsRun none false cursor.skipBlanks.offset (c :: rest)
      exact List.forall_mem_cons.mpr ⟨by rw [here], ih run.span (drop_readChars _ _ here)⟩

end Cursor

/-- An escaped character is written with two characters, any other with one. -/
theorem Scans.length_source {before after : Option Char} {source : List Char}
    {chars : List TokenChar} (scan : Scans before source chars after) :
    source.length = chars.length + chars.countP TokenChar.isEscaped := by
  induction scan with
  | done => rfl
  | escaped _ ih =>
    rw [List.countP_cons_of_pos rfl, List.length_cons, List.length_cons, ih, List.length_cons]
    omega
  | plain _ written _ ih =>
    have unescaped := (Cursor.kind_of_classify written).1
    rw [List.countP_cons_of_neg (by simpa [TokenChar.isEscaped] using unescaped),
      List.length_cons, ih, List.length_cons]
    omega

/-- The offset in a line of the separator behind a name that starts at an offset: the stretch in
between is read as the name. -/
def SeparatesAt (line : List Char) (start : Nat) (name : List TokenChar) (place : Nat) : Prop :=
  ∃ before source rest, line = before ++ (source ++ '=' :: rest) ∧ before.length = start ∧
    Scans none source name none ∧ place = start + source.length

/-- Which offset that is follows from the name alone. -/
theorem SeparatesAt.place_eq {line : List Char} {start place : Nat} {name : List TokenChar}
    (separates : SeparatesAt line start name place) :
    place = start + (name.length + name.countP TokenChar.isEscaped) := by
  obtain ⟨before, source, rest, -, -, scan, rfl⟩ := separates
  rw [scan.length_source]

theorem TokenChar.eq_of_isSeparator {c : TokenChar} (separates : c.isSeparator = true) :
    c = ⟨'=', .bare⟩ := by
  obtain ⟨char, kind⟩ := c
  obtain ⟨bare, equals⟩ := Bool.and_eq_true_iff.mp separates
  exact congrArg₂ TokenChar.mk (beq_iff_eq.mp equals) (beq_iff_eq.mp bare)

theorem textOf_append (front back : List TokenChar) :
    textOf front ++ textOf back = textOf (front ++ back) := by
  rw [textOf, textOf, textOf, List.map_append, String.ofList_append]

namespace Token

variable {token name value : Token}

/-- A split token is its name, a bare `=` and its value. -/
theorem chars_of_split (split : token.split? = some (name, value)) :
    token.chars = name.chars ++ ⟨'=', .bare⟩ :: value.chars ∧
      (∀ c ∈ name.chars, c.isSeparator = false) ∧ name.offset = token.offset ∧
      value.offset = token.offset + name.chars.length + 1 := by
  obtain ⟨index, found, parts⟩ := Option.map_eq_some_iff.mp split
  obtain ⟨inside, separates, before⟩ := List.findIdx?_eq_some_iff_getElem.mp found
  obtain ⟨rfl, rfl⟩ := Prod.mk.inj parts
  have separator := TokenChar.eq_of_isSeparator separates
  refine ⟨?_, ?_, rfl, ?_⟩
  · rw [← separator, ← List.drop_eq_getElem_cons, List.take_append_drop]
  · intro c member
    obtain ⟨i, smaller, rfl⟩ := List.mem_take_iff_getElem.mp member
    simpa using before i (by omega)
  · rw [List.length_take_of_le inside.le]

/-- The parts of a split token are its characters around the first bare `=`. Where that stands in
the line is told by the stretch that is read as the name, and the value is placed right behind it
but for the escaped characters of the name: one to the left for each of them. -/
theorem split?_of_mem_tokens {line : String} (yielded : token ∈ (Cursor.start line).tokens)
    (split : token.split? = some (name, value)) :
    name.text ++ "=" ++ value.text = token.text ∧
    (∀ c ∈ name.chars, c.isSeparator = false) ∧
    token.chars = name.chars ++ ⟨'=', .bare⟩ :: value.chars ∧ name.offset = token.offset ∧
    ∃ place, SeparatesAt line.toList token.offset name.chars place ∧
      value.offset + name.chars.countP TokenChar.isEscaped = place + 1 ∧
      (value.offset = place + 1 ↔ ∀ c ∈ name.chars, c.kind ≠ .escaped) := by
  obtain ⟨chars, free, start, offset⟩ := chars_of_split split
  have here : line.toList.drop (Cursor.start line).offset = (Cursor.start line).rest := rfl
  have read := Cursor.readChars_of_mem_tokens (.inl rfl) here token yielded
  obtain ⟨source, rest, left, scan⟩ := Cursor.exists_scans (read.symm.trans chars)
  have inside : token.offset < line.toList.length := by
    have lengths := congrArg List.length left
    rw [List.length_drop, List.length_append, List.length_cons] at lengths
    omega
  have separates : SeparatesAt line.toList token.offset name.chars
      (token.offset + source.length) := by
    refine ⟨line.toList.take token.offset, source, rest, ?_, ?_, scan, rfl⟩
    · rw [← left, List.take_append_drop]
    · rw [List.length_take_of_le inside.le]
  have place := separates.place_eq
  have plain : name.chars.countP TokenChar.isEscaped = 0 ↔ ∀ c ∈ name.chars, c.kind ≠ .escaped := by
    simp [List.countP_eq_zero, TokenChar.isEscaped]
  refine ⟨?_, free, chars, start, _, separates, ?_, ?_⟩
  · have separator : "=" = textOf [⟨'=', .bare⟩] := rfl
    rw [text, text, text, chars, separator, textOf_append, textOf_append, List.append_assoc]
    rfl
  · omega
  · rw [← plain]
    omega

/-- An escaped `=`, a quoted one and an escaped quote in the name. -/
theorem split?_of_mem_tokens_escaped_name :
    let line := "@k  a\\='=\\''=v"
    let name : Token := ⟨[⟨'a', .bare⟩, ⟨'=', .escaped⟩, ⟨'\'', .quote⟩, ⟨'=', .quoted⟩,
      ⟨'\'', .escaped⟩, ⟨'\'', .quote⟩], 4⟩
    let value : Token := ⟨[⟨'v', .bare⟩], 11⟩
    let token : Token := ⟨name.chars ++ ⟨'=', .bare⟩ :: value.chars, 4⟩
    token ∈ (Cursor.start line).tokens ∧ token.split? = some (name, value) ∧
      ∃ place, SeparatesAt line.toList 4 name.chars place ∧ value.offset + 2 = place + 1 := by
  intro line name value token
  have yielded : token ∈ (Cursor.start line).tokens := by
    rw [tokens_start]
    decide +kernel
  have split : token.split? = some (name, value) := rfl
  obtain ⟨-, -, -, -, place, separates, placed, -⟩ := split?_of_mem_tokens yielded split
  exact ⟨yielded, split, place, separates, placed⟩

/-- Behind a name with an escaped `=` the value is placed at the separator itself. -/
theorem split?_offset_behind_escape :
    let name : Token := ⟨[⟨'a', .bare⟩, ⟨'=', .escaped⟩, ⟨'b', .bare⟩], 0⟩
    let value : Token := ⟨[⟨'c', .bare⟩], 4⟩
    ∃ token ∈ (Cursor.start "a\\=b=c").tokens, token.split? = some (name, value) ∧
      SeparatesAt "a\\=b=c".toList token.offset name.chars 4 ∧ value.offset ≠ 4 + 1 := by
  intro name value
  refine ⟨⟨name.chars ++ ⟨'=', .bare⟩ :: value.chars, 0⟩, ?_, rfl, ?_, by decide⟩
  · rw [tokens_start]
    decide +kernel
  · have name_read : Scans none ['a', '\\', '=', 'b'] name.chars none :=
      .plain (by decide) rfl (.escaped (.plain (by decide) rfl .done))
    exact ⟨[], _, ['c'], by decide +kernel, rfl, name_read, rfl⟩

end Token
end DocOptions
