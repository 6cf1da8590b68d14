import DocOptions.Proofs.Naming.Bytes

/-! The rules for the bytes of a name, each by its neighbours. The reader of the name keeps the byte
before and looks at the next one, so at each index it has seen what the rules look at; spaces are
written late, when a word follows. -/

namespace DocOptions.Naming

open Text

/-- The style of a delimiter and a byte that is ignored, which is none where it is zero. -/
def Style.ofBytes (delimiter ignore : UInt8) (screaming : Bool) : Style :=
  ⟨delimiter, if ignore = 0 then none else some ignore, screaming⟩

/-- A byte as an uppercase letter or as a lowercase letter, if it is a letter. -/
def inCase (screaming : Bool) (b : UInt8) : UInt8 :=
  if screaming then if isLowerByte b then b - 0x20 else b
  else if isUpperByte b then b + 0x20 else b

section

variable (delimiter ignore : UInt8) (screaming : Bool)

/-- The byte itself: a letter is put in its case, and a separator that is not ignored becomes a
delimiter. -/
def spellOwn (b : UInt8) : UInt8 :=
  if isLetterByte b then inCase screaming b
  else if (b = 0x5F ∨ b = 0x2D) ∧ b ≠ ignore then delimiter
  else if b = spaceByte then if ignore = spaceByte then spaceByte else delimiter
  else b

/-- A byte between its neighbours. A delimiter stands before the last letter of an acronym that a
word follows, and after the last byte of a word. -/
def spell (previous : Option UInt8) (b : UInt8) (next : Option UInt8) : List UInt8 :=
  let opens := isUpperByte b && next.any isLowerByte &&
    (previous.any isUpperByte && previous != some ignore)
  let closes := (isLowerByte b && next.any isUpperByte || isDigitByte b && next.any isLetterByte) &&
    !(ignore != 0 && previous == some ignore)
  (if opens then [delimiter] else []) ++ [spellOwn delimiter ignore screaming b] ++
    (if closes then [delimiter] else [])

/-- The byte at an index of a name, if there is one. -/
def spellAt (bytes : List UInt8) (i : Nat) : List UInt8 :=
  match bytes[i]? with
  | none => []
  | some b =>
    spell delimiter ignore screaming (if i = 0 then none else bytes[i - 1]?) b bytes[i + 1]?

end

/-- Whether the byte at an index is neither a leading space nor a trailing one. -/
def isInner (bytes : List UInt8) (i : Nat) : Bool :=
  (bytes.take (i + 1)).any (· != spaceByte) && (bytes.drop i).any (· != spaceByte)

section

variable {delimiter ignore : UInt8} {screaming : Bool} {before rest : List UInt8} {b : UInt8}

theorem spellAt_append :
    spellAt delimiter ignore screaming (before ++ b :: rest) before.length =
      spell delimiter ignore screaming before.getLast? b rest.head? := by
  have own : (before ++ b :: rest)[before.length]? = some b := by
    rw [List.getElem?_append_right (Nat.le_refl _), Nat.sub_self, List.getElem?_cons_zero]
  have next : (before ++ b :: rest)[before.length + 1]? = rest.head? := by
    rw [List.getElem?_append_right (Nat.le_add_right _ 1), Nat.add_sub_cancel_left,
      List.getElem?_cons_succ, List.head?_eq_getElem?]
  have previous : (if before.length = 0 then none else (before ++ b :: rest)[before.length - 1]?) =
      before.getLast? := by
    split
    · next none => rw [List.length_eq_zero_iff.mp none]; rfl
    · next some => rw [List.getElem?_append_left (by omega), List.getLast?_eq_getElem?]
  rw [spellAt, own, next, previous]

theorem isInner_append :
    isInner (before ++ b :: rest) before.length =
      ((before ++ [b]).any (· != spaceByte) && (b :: rest).any (· != spaceByte)) := by
  have taken : (before ++ b :: rest).take (before.length + 1) = before ++ [b] := by
    rw [List.take_append, List.take_of_length_le (Nat.le_add_right _ 1), Nat.add_sub_cancel_left]
    rfl
  rw [isInner, taken, List.drop_left]

theorem spell_space (previous next : Option UInt8) :
    spell delimiter ignore screaming previous spaceByte next =
      [(Style.ofBytes delimiter ignore screaming).space] := by
  have own : spellOwn delimiter ignore screaming spaceByte =
      (Style.ofBytes delimiter ignore screaming).space := by
    by_cases zero : ignore = 0
    · subst zero; rfl
    · simp only [Style.space, Style.ofBytes, if_neg zero, Option.some.injEq]
      rfl
  rw [← own]
  simp [spell, isUpperByte, isLowerByte, isDigitByte, spaceByte]

theorem recase_ofBytes :
    (Style.ofBytes delimiter ignore screaming).recase b = inCase screaming b := by
  cases screaming <;> simp [Style.recase, Style.ofBytes, inCase]

theorem afterIgnored_ofBytes (delimiter ignore : UInt8) (screaming : Bool)
    (previous : Option UInt8) :
    (Style.ofBytes delimiter ignore screaming).afterIgnored previous =
      (ignore != 0 && previous == some ignore) := by
  by_cases zero : ignore = 0
  · simp [Style.afterIgnored, Style.ofBytes, zero]
  · simp [Style.afterIgnored, Style.ofBytes, zero]

theorem bne_ignored_ofBytes :
    ((b == 0x5F || b == 0x2D) && (Style.ofBytes delimiter ignore screaming).ignored != some b) =
      decide ((b = 0x5F ∨ b = 0x2D) ∧ b ≠ ignore) := by
  rw [Bool.eq_iff_iff]
  simp only [Bool.and_eq_true, Bool.or_eq_true, beq_iff_eq, bne_iff_ne, decide_eq_true_eq]
  refine and_congr_right fun separator => not_congr ?_
  by_cases zero : ignore = 0
  · simp only [Style.ofBytes, zero, if_true]
    rcases separator with rfl | rfl <;> decide
  · simp [Style.ofBytes, zero, eq_comm]

/-- An uppercase letter is no zero byte, so the byte that is ignored is told by comparison. -/
theorem opens_eq (previous : Option UInt8) :
    (previous.any isUpperByte && previous != some ignore) =
      (previous.any isUpperByte && !(ignore != 0 && previous == some ignore)) := by
  by_cases zero : ignore = 0
  · subst zero
    by_cases same : previous = some 0
    · rw [same]; rfl
    · simp [same]
  · simp [bne, beq_eq_false_iff_ne.mpr zero]

theorem spellOwn_letter (letter : isLetterByte b = true) :
    spellOwn delimiter ignore screaming b =
      (Style.ofBytes delimiter ignore screaming).recase b :=
  (if_pos letter).trans recase_ofBytes.symm

theorem spellOwn_other (letter : isLetterByte b = false) (solid : b ≠ spaceByte) :
    spellOwn delimiter ignore screaming b =
      if (b = 0x5F ∨ b = 0x2D) ∧ b ≠ ignore then delimiter else b := by
  simp only [spellOwn, letter, Bool.false_eq_true, if_false, if_neg solid]

theorem spellOwn_digit (digit : isDigitByte b = true) :
    spellOwn delimiter ignore screaming b = b := by
  obtain ⟨upper, lower, separator⟩ := of_digit digit
  have letter : isLetterByte b = false := by rw [isLetterByte, upper, lower, Bool.or_self]
  have solid : b ≠ spaceByte := by
    rintro rfl
    cases digit
  rw [spellOwn_other letter solid, if_neg]
  intro separates
  simp only [Bool.or_eq_false_iff, beq_eq_false_iff_ne] at separator
  exact separates.1.elim separator.1 separator.2

theorem spell_solid (solid : b ≠ spaceByte) (previous next : Option UInt8) :
    spell delimiter ignore screaming previous b next =
      (Style.ofBytes delimiter ignore screaming).write previous b next := by
  rw [spell, opens_eq, ← afterIgnored_ofBytes delimiter ignore screaming]
  rcases byte_cases b with upper | lower | digit | ⟨upper, lower, digit⟩
  · obtain ⟨lower, digit, -⟩ := of_upper upper
    have letter : isLetterByte b = true := by rw [isLetterByte, upper, Bool.true_or]
    rw [Style.write_upper upper, upper, lower, digit, spellOwn_letter letter]
    exact List.append_nil _
  · obtain ⟨upper, digit, -⟩ := of_lower lower
    have letter : isLetterByte b = true := by rw [isLetterByte, lower, Bool.or_true]
    rw [Style.write_lower lower, upper, lower, digit, spellOwn_letter letter]
    simp only [Bool.false_and, Bool.or_false]
    rfl
  · obtain ⟨upper, lower, -⟩ := of_digit digit
    rw [Style.write_digit digit, upper, lower, digit, spellOwn_digit digit]
    rfl
  · have letter : isLetterByte b = false := by rw [isLetterByte, upper, lower, Bool.or_self]
    rw [Style.write_other upper lower digit, bne_ignored_ofBytes, upper, lower, digit,
      spellOwn_other letter solid]
    by_cases separates : (b = 0x5F ∨ b = 0x2D) ∧ b ≠ ignore
    · rw [if_pos separates, if_pos (decide_eq_true separates)]
      rfl
    · rw [if_neg separates, if_neg fun same => separates (of_decide_eq_true same)]
      rfl

end

/-- The spaces that are held back are written before the next byte of a word, and not at all if
there is none. -/
theorem writeAll_ofBytes (delimiter ignore : UInt8) (screaming : Bool) (before rest : List UInt8)
    (spaces : Option Nat) (started : spaces.isSome = before.any (· != spaceByte)) :
    let style := Style.ofBytes delimiter ignore screaming
    style.writeAll spaces before.getLast? rest =
      (if rest.any (· != spaceByte) then List.replicate (spaces.getD 0) style.space else []) ++
        ((List.range' before.length rest.length).filter (isInner (before ++ rest))).flatMap
          (spellAt delimiter ignore screaming (before ++ rest)) := by
  intro style
  -- `before` was read: spaces count from the first word on, and each waits for the next word.
  induction rest generalizing before spaces with
  | nil => rfl
  | cons b rest ih =>
    have last : (before ++ [b]).getLast? = some b := List.getLast?_concat
    have whole : before ++ b :: rest = (before ++ [b]) ++ rest := by
      rw [List.append_assoc, List.singleton_append]
    rw [List.length_cons, List.range'_succ, List.filter_cons, isInner_append]
    by_cases blank : b = spaceByte
    · subst blank
      have later := ih (before ++ [spaceByte]) (spaces.map (· + 1)) (by simpa using started)
      have inner : ((before ++ [spaceByte]).any (· != spaceByte) &&
          (spaceByte :: rest).any (· != spaceByte)) =
            (spaces.isSome && rest.any (· != spaceByte)) := by
        simp [started]
      rw [last, List.length_append, List.length_singleton, ← whole] at later
      rw [Style.writeAll_space, later, inner, List.any_cons, bne_self_eq_false, Bool.false_or]
      -- A space is written by its own index if a word comes before it and another one after it.
      cases rest.any (· != spaceByte) with
      | false => simp
      | true =>
        cases spaces with
        | none => simp
        | some count =>
          have more : List.replicate (count + 1) style.space =
              List.replicate count style.space ++ [style.space] := List.replicate_succ'
          simp only [Option.map_some, Option.getD_some, Option.isSome_some, Bool.and_self, if_true,
            List.flatMap_cons, spellAt_append, spell_space, more, List.append_assoc]
          rfl
    · have later := ih (before ++ [b]) (some 0) (by simp [blank])
      have solid : (b != spaceByte) = true := bne_iff_ne.mpr blank
      have inner : ((before ++ [b]).any (· != spaceByte) &&
          (b :: rest).any (· != spaceByte)) = true := by
        simp [solid]
      have head : (b :: rest).any (· != spaceByte) = true := by simp [solid]
      rw [last, List.length_append, List.length_singleton, ← whole] at later
      rw [Style.writeAll_solid blank, later, inner, if_pos rfl, List.flatMap_cons, spellAt_append,
        spell_solid blank, head, if_pos rfl]
      simp only [Option.getD_some, List.replicate_zero, ite_self, List.nil_append,
        List.append_assoc]
      rfl

/-- A name is written byte by byte, each by its neighbours, and no character is replaced. -/
theorem apply_ofBytes (delimiter ignore : UInt8) (screaming : Bool) (name : String)
    (ascii : delimiter < 0x80) :
    let bytes := utf8Bytes name
    let written := (Style.ofBytes delimiter ignore screaming).apply name
    utf8Bytes written = ((List.range bytes.length).filter (isInner bytes)).flatMap
        (spellAt delimiter ignore screaming bytes) ∧
      written.toList.count replacement = name.toList.count replacement := by
  intro bytes written
  have style : (Style.ofBytes delimiter ignore screaming).delimiter.toNat < 0x80 :=
    UInt8.lt_iff_toNat_lt.mp ascii
  obtain ⟨encoded, count⟩ := Style.apply_spec style name
  have rules := writeAll_ofBytes delimiter ignore screaming [] bytes none rfl
  refine ⟨encoded.trans ?_, count⟩
  simpa [List.range_eq_range'] using rules

theorem apply_ofBytes_spaced_name :
    (0x2E : UInt8) < 0x80 ∧
      utf8Bytes ((Style.ofBytes 0x2E 0x20 true).apply " JSONData of_é ") =
        utf8Bytes "JSON.DATA OF.é" ∧
      ((Style.ofBytes 0x2E 0x20 true).apply " JSONData of_é ").toList.count replacement = 0 := by
  obtain ⟨bytes, count⟩ := apply_ofBytes 0x2E 0x20 true " JSONData of_é " (by decide)
  exact ⟨by decide, bytes.trans (by decide +kernel), count.trans (by decide)⟩

end DocOptions.Naming
