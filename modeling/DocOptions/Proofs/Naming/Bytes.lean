import DocOptions.Naming.Delimited
import DocOptions.Proofs.Text.Utf8

/-! What a style writes for each kind of byte, and that a name in a style is a text: the bytes of
characters above ASCII are kept together, and everything else that is written is ASCII. -/

namespace DocOptions.Naming

open Text

def isLetterByte (b : UInt8) : Bool :=
  isUpperByte b || isLowerByte b

theorem isUpperByte_iff {b : UInt8} : isUpperByte b = true ↔ 65 ≤ b.toNat ∧ b.toNat ≤ 90 := by
  simp only [isUpperByte, Bool.and_eq_true, decide_eq_true_eq, UInt8.le_iff_toNat_le,
    UInt8.reduceToNat]

theorem isLowerByte_iff {b : UInt8} : isLowerByte b = true ↔ 97 ≤ b.toNat ∧ b.toNat ≤ 122 := by
  simp only [isLowerByte, Bool.and_eq_true, decide_eq_true_eq, UInt8.le_iff_toNat_le,
    UInt8.reduceToNat]

theorem isDigitByte_iff {b : UInt8} : isDigitByte b = true ↔ 48 ≤ b.toNat ∧ b.toNat ≤ 57 := by
  simp only [isDigitByte, Bool.and_eq_true, decide_eq_true_eq, UInt8.le_iff_toNat_le,
    UInt8.reduceToNat]

theorem isSeparator_iff {b : UInt8} :
    (b == 0x5F || b == 0x2D) = true ↔ b.toNat = 95 ∨ b.toNat = 45 := by
  simp only [Bool.or_eq_true, beq_iff_eq, ← UInt8.toNat_inj, UInt8.reduceToNat]

/-- The kinds of bytes that the rules tell apart. -/
theorem byte_cases (b : UInt8) :
    isUpperByte b = true ∨ isLowerByte b = true ∨ isDigitByte b = true ∨
      isUpperByte b = false ∧ isLowerByte b = false ∧ isDigitByte b = false := by
  simp only [← Bool.not_eq_true, isUpperByte_iff, isLowerByte_iff, isDigitByte_iff]
  omega

theorem of_upper {b : UInt8} (upper : isUpperByte b = true) :
    isLowerByte b = false ∧ isDigitByte b = false ∧ (b == 0x5F || b == 0x2D) = false := by
  rw [isUpperByte_iff] at upper
  simp only [← Bool.not_eq_true, isLowerByte_iff, isDigitByte_iff, isSeparator_iff]
  omega

theorem of_lower {b : UInt8} (lower : isLowerByte b = true) :
    isUpperByte b = false ∧ isDigitByte b = false ∧ (b == 0x5F || b == 0x2D) = false := by
  rw [isLowerByte_iff] at lower
  simp only [← Bool.not_eq_true, isUpperByte_iff, isDigitByte_iff, isSeparator_iff]
  omega

theorem of_digit {b : UInt8} (digit : isDigitByte b = true) :
    isUpperByte b = false ∧ isLowerByte b = false ∧ (b == 0x5F || b == 0x2D) = false := by
  rw [isDigitByte_iff] at digit
  simp only [← Bool.not_eq_true, isUpperByte_iff, isLowerByte_iff, isSeparator_iff]
  omega

theorem of_wide {b : UInt8} (wide : 0x80 ≤ b.toNat) :
    isUpperByte b = false ∧ isLowerByte b = false ∧ isDigitByte b = false ∧
      (b == 0x5F || b == 0x2D) = false ∧ b ≠ spaceByte := by
  simp only [← Bool.not_eq_true, isUpperByte_iff, isLowerByte_iff, isDigitByte_iff, isSeparator_iff,
    ne_eq, ← UInt8.toNat_inj, spaceByte, UInt8.reduceToNat]
  omega

namespace Style

variable {style : Style} {spaces : Option Nat} {previous next : Option UInt8} {b : UInt8}
  {rest : List UInt8}

theorem writeAll_space :
    style.writeAll spaces previous (spaceByte :: rest) =
      style.writeAll (spaces.map (· + 1)) (some spaceByte) rest :=
  if_pos rfl

theorem writeAll_solid (solid : b ≠ spaceByte) :
    style.writeAll spaces previous (b :: rest) =
      List.replicate (spaces.getD 0) style.space ++ style.write previous b rest.head? ++
        style.writeAll (some 0) (some b) rest :=
  if_neg solid

theorem mem_write {written : UInt8} (inside : written ∈ style.write previous b next) :
    written = style.delimiter ∨ written = style.recase b := by
  rw [write] at inside
  split at inside
  · simp only [List.mem_append, List.mem_ite_nil_right, List.mem_singleton] at inside
    rcases inside with (⟨-, delimiter⟩ | own) | ⟨-, delimiter⟩
    · exact .inl delimiter
    · exact .inr own
    · exact .inl delimiter
  · split at inside
    · exact .inl (List.mem_singleton.mp inside)
    · exact .inr (List.mem_singleton.mp inside)

theorem any_isBoundary :
    next.any (isBoundary b) =
      (isUpperByte b && next.any isLowerByte || isLowerByte b && next.any isUpperByte ||
        isDigitByte b && next.any isLetterByte) := by
  cases next with
  | none => simp only [Option.any_none, Bool.and_false, Bool.or_self]
  | some n => rfl

/-- Whether a byte stands next to the one that is ignored. -/
def afterIgnored (style : Style) (previous : Option UInt8) : Bool :=
  style.ignored.isSome && previous == style.ignored

theorem write_eq :
    style.write previous b next =
      if next.any (isBoundary b) && !style.afterIgnored previous then
        (if isUpperByte b && next.any isLowerByte && previous.any isUpperByte then
          [style.delimiter] else []) ++ [style.recase b] ++
        (if isLowerByte b || isDigitByte b then [style.delimiter] else [])
      else if (b == 0x5F || b == 0x2D) && style.ignored != some b then [style.delimiter]
      else [style.recase b] :=
  rfl

/-- The last letter of an acronym starts the next word. -/
theorem write_upper (upper : isUpperByte b = true) :
    style.write previous b next =
      (if next.any isLowerByte && (previous.any isUpperByte && !style.afterIgnored previous) then
        [style.delimiter] else []) ++ [style.recase b] := by
  obtain ⟨lower, digit, separator⟩ := of_upper upper
  rw [write_eq, any_isBoundary, separator, upper, lower, digit]
  cases next.any isLowerByte <;> cases style.afterIgnored previous <;>
    cases previous.any isUpperByte <;> rfl

theorem write_lower (lower : isLowerByte b = true) :
    style.write previous b next =
      style.recase b :: if next.any isUpperByte && !style.afterIgnored previous then
        [style.delimiter] else [] := by
  obtain ⟨upper, digit, separator⟩ := of_lower lower
  rw [write_eq, any_isBoundary, separator, upper, lower, digit]
  cases next.any isUpperByte <;> cases style.afterIgnored previous <;> rfl

theorem recase_other (upper : isUpperByte b = false) (lower : isLowerByte b = false) :
    style.recase b = b := by
  simp only [recase, upper, lower, Bool.false_and, Bool.false_eq_true, if_false]

theorem write_digit (digit : isDigitByte b = true) :
    style.write previous b next =
      b :: if next.any isLetterByte && !style.afterIgnored previous then
        [style.delimiter] else [] := by
  obtain ⟨upper, lower, separator⟩ := of_digit digit
  rw [write_eq, any_isBoundary, separator, recase_other upper lower, upper, lower, digit]
  cases next.any isLetterByte <;> cases style.afterIgnored previous <;> rfl

theorem write_other (upper : isUpperByte b = false) (lower : isLowerByte b = false)
    (digit : isDigitByte b = false) :
    style.write previous b next =
      if (b == 0x5F || b == 0x2D) && style.ignored != some b then [style.delimiter] else [b] := by
  rw [write_eq, any_isBoundary, recase_other upper lower, upper, lower, digit]
  rfl

theorem write_of_wide (wide : 0x80 ≤ b.toNat) : style.write previous b next = [b] := by
  obtain ⟨upper, lower, digit, separator, -⟩ := of_wide wide
  rw [write_other upper lower digit, separator]
  rfl

/-- The bytes of a character above ASCII are kept together. -/
theorem writeAll_wide {bytes : List UInt8} (wide : ∀ b ∈ bytes, 0x80 ≤ b.toNat)
    (nonempty : bytes ≠ []) (spaces : Option Nat) (previous : Option UInt8) (rest : List UInt8) :
    ∃ last, style.writeAll spaces previous (bytes ++ rest) =
      List.replicate (spaces.getD 0) style.space ++ bytes ++ style.writeAll (some 0) last rest := by
  induction bytes generalizing spaces previous with
  | nil => exact absurd rfl nonempty
  | cons b more ih =>
    obtain ⟨own, others⟩ := List.forall_mem_cons.mp wide
    have solid : b ≠ spaceByte := (of_wide own).2.2.2.2
    rw [List.cons_append, writeAll_solid solid, write_of_wide own]
    cases more with
    | nil => exact ⟨some b, by rw [List.nil_append]⟩
    | cons next more =>
      obtain ⟨last, written⟩ := ih others (List.cons_ne_nil _ _) (some 0) (some b)
      refine ⟨last, ?_⟩
      rw [written]
      simp only [Option.getD_some, List.replicate_zero, List.nil_append, List.append_assoc,
        List.cons_append]

theorem recase_lt (ascii : b.toNat < 0x80) : (style.recase b).toNat < 0x80 := by
  rw [recase]
  split
  · next lower =>
    have small : (0x20 : UInt8) ≤ b := by
      rw [Bool.and_eq_true, isLowerByte_iff] at lower
      exact UInt8.le_iff_toNat_le.mpr (Nat.le_trans (by decide) lower.1.1)
    rw [UInt8.toNat_sub_of_le _ _ small]
    omega
  · split
    · next upper =>
      rw [Bool.and_eq_true, isUpperByte_iff] at upper
      have sum : (b + 0x20).toNat = (b.toNat + 32) % 256 := UInt8.toNat_add b 0x20
      omega
    · exact ascii

theorem space_lt (ascii : style.delimiter.toNat < 0x80) : style.space.toNat < 0x80 := by
  rw [space]
  split
  · decide
  · exact ascii

end Style

/-- Bytes of a text with a number of replacement characters. -/
def AreText (replaced : Nat) (bytes : List UInt8) : Prop :=
  ∃ chars : List Char, chars.flatMap String.utf8EncodeChar = bytes ∧
    chars.count replacement = replaced

namespace AreText

variable {m n : Nat} {first second bytes : List UInt8}

theorem append (own : AreText m first) (others : AreText n second) :
    AreText (m + n) (first ++ second) := by
  obtain ⟨chars, rfl, rfl⟩ := own
  obtain ⟨more, rfl, rfl⟩ := others
  exact ⟨chars ++ more, List.flatMap_append, List.count_append⟩

theorem char (c : Char) : AreText ([c].count replacement) (String.utf8EncodeChar c) :=
  ⟨[c], List.flatMap_singleton _ _, rfl⟩

theorem count_of_ascii {c : Char} (ascii : c.toNat < 0x80) : [c].count replacement = 0 := by
  rw [List.count_eq_zero, List.mem_singleton]
  rintro rfl
  exact absurd ascii (by decide)

theorem of_ascii (ascii : ∀ b ∈ bytes, b.toNat < 0x80) : AreText 0 bytes := by
  induction bytes with
  | nil => exact ⟨[], rfl, rfl⟩
  | cons b rest ih =>
    obtain ⟨small, others⟩ := List.forall_mem_cons.mp ascii
    have value : (Char.ofNat b.toNat).toNat = b.toNat := toNat_ofNat_of_ascii small
    have own := char (Char.ofNat b.toNat)
    rw [count_of_ascii (by omega), utf8EncodeChar_of_ascii _ (by omega), value,
      UInt8.ofNat_toNat] at own
    exact own.append (ih others)

end AreText

namespace Style

variable {style : Style}

theorem areText_replicate_space (ascii : style.delimiter.toNat < 0x80) (count : Nat) :
    AreText 0 (List.replicate count style.space) := by
  refine .of_ascii fun b inside => ?_
  rw [List.eq_of_mem_replicate inside]
  exact space_lt ascii

theorem areText_writeAll (ascii : style.delimiter.toNat < 0x80) (chars : List Char)
    (spaces : Option Nat) (previous : Option UInt8) :
    AreText (chars.count replacement)
      (style.writeAll spaces previous (chars.flatMap String.utf8EncodeChar)) := by
  induction chars generalizing spaces previous with
  | nil => exact ⟨[], rfl, rfl⟩
  | cons c rest ih =>
    have held := areText_replicate_space ascii (spaces.getD 0)
    rw [List.flatMap_cons, ← List.singleton_append, List.count_append]
    -- A byte of ASCII is a character of its own; the bytes of any other character go on unchanged.
    by_cases single : c.toNat < 0x80
    · rw [utf8EncodeChar_of_ascii c single, List.singleton_append, AreText.count_of_ascii single]
      by_cases blank : UInt8.ofNat c.toNat = spaceByte
      · rw [blank, writeAll_space, Nat.zero_add]
        exact ih _ _
      · have own : AreText 0 (style.write previous (.ofNat c.toNat)
            (rest.flatMap String.utf8EncodeChar).head?) := by
          refine .of_ascii fun written inside => ?_
          rcases mem_write inside with rfl | rfl
          · exact ascii
          · exact recase_lt (by rwa [UInt8.toNat_ofNat_of_lt' (show _ < 256 by omega)])
        rw [writeAll_solid blank]
        exact (held.append own).append (ih _ _)
    · have wide : ∀ b ∈ String.utf8EncodeChar c, 0x80 ≤ b.toNat := fun b inside =>
        le_of_mem_utf8EncodeChar c (Nat.le_of_not_lt single) inside
      obtain ⟨last, written⟩ := style.writeAll_wide wide (utf8EncodeChar_ne_nil c) spaces previous
        (rest.flatMap String.utf8EncodeChar)
      rw [written, ← Nat.zero_add ([c].count replacement)]
      exact (held.append (.char c)).append (ih _ _)

/-- A name in a style has the bytes that are written for it, and no character is replaced. -/
theorem apply_spec (ascii : style.delimiter.toNat < 0x80) (name : String) :
    utf8Bytes (style.apply name) = style.writeAll none none (utf8Bytes name) ∧
      (style.apply name).toList.count replacement = name.toList.count replacement := by
  obtain ⟨chars, bytes, count⟩ := areText_writeAll ascii name.toList none none
  have text : style.apply name = String.ofList chars := by
    rw [apply, utf8Bytes, ← bytes, ofUtf8_flatMap_utf8EncodeChar]
  rw [text, utf8Bytes, String.toList_ofList]
  exact ⟨bytes, count⟩

end Style
end DocOptions.Naming
