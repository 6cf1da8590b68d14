import DocOptions.Proofs.Naming.Bytes
import Mathlib.Data.List.Chain

/-! Names in kebab case. They are the names that stay what they are, so writing one again changes
nothing. -/

namespace DocOptions.Naming

open Text

/-- Items of an allowed kind, where no letter comes directly after a digit. -/
structure Separated {α : Type} (allowed digit letter : α → Bool) (items : List α) : Prop where
  allowed : ∀ a ∈ items, allowed a = true
  apart : items.IsChain fun a next => ¬(digit a = true ∧ letter next = true)

theorem separated_cons {α : Type} {allowed digit letter : α → Bool} {a : α} {rest : List α} :
    Separated allowed digit letter (a :: rest) ↔
      allowed a = true ∧ (digit a = true → rest.head?.any letter = false) ∧
        Separated allowed digit letter rest := by
  have next : (∀ b ∈ rest.head?, ¬(digit a = true ∧ letter b = true)) ↔
      (digit a = true → rest.head?.any letter = false) := by
    cases rest.head? with
    | none => simp
    | some b => simp
  constructor
  · rintro ⟨own, chain⟩
    obtain ⟨first, others⟩ := List.forall_mem_cons.mp own
    obtain ⟨head, tail⟩ := List.isChain_cons.mp chain
    exact ⟨first, next.mp head, others, tail⟩
  · rintro ⟨first, head, others, tail⟩
    exact ⟨List.forall_mem_cons.mpr ⟨first, others⟩, List.isChain_cons.mpr ⟨next.mpr head, tail⟩⟩

def isKebabChar (c : Char) : Bool :=
  !c.isUpper && c != ' ' && c != '_'

def isKebabByte (b : UInt8) : Bool :=
  !isUpperByte b && b != spaceByte && b != 0x5F

/-- A name without uppercase letters, spaces and underscores, whose words end after their digits. -/
def IsKebab (name : String) : Prop :=
  Separated isKebabChar Char.isDigit Char.isAlpha name.toList

def AreKebab (bytes : List UInt8) : Prop :=
  Separated isKebabByte isDigitByte isLetterByte bytes

theorem isUpper_iff {c : Char} : c.isUpper = true ↔ 65 ≤ c.toNat ∧ c.toNat ≤ 90 := by
  change decide (65 ≤ c.val ∧ c.val ≤ 90) = true ↔ _
  rw [decide_eq_true_iff, UInt32.le_iff_toNat_le, UInt32.le_iff_toNat_le]
  rfl

theorem isLower_iff {c : Char} : c.isLower = true ↔ 97 ≤ c.toNat ∧ c.toNat ≤ 122 := by
  change (decide (97 ≤ c.val) && decide (c.val ≤ 122)) = true ↔ _
  rw [Bool.and_eq_true, decide_eq_true_iff, decide_eq_true_iff, UInt32.le_iff_toNat_le,
    UInt32.le_iff_toNat_le]
  rfl

/-- A byte and a character of one number are of one kind, and so are those above ASCII. -/
theorem kinds_agree {b : UInt8} {c : Char}
    (agree : b.toNat = c.toNat ∨ 0x80 ≤ b.toNat ∧ 0x80 ≤ c.toNat) :
    isKebabByte b = isKebabChar c ∧ isDigitByte b = c.isDigit ∧ isLetterByte b = c.isAlpha := by
  have upper : isUpperByte b = c.isUpper := by
    rw [Bool.eq_iff_iff, isUpperByte_iff, isUpper_iff]
    omega
  have lower : isLowerByte b = c.isLower := by
    rw [Bool.eq_iff_iff, isLowerByte_iff, isLower_iff]
    omega
  have digit : isDigitByte b = c.isDigit := by
    rw [Bool.eq_iff_iff, isDigitByte_iff, Char.isDigit_iff_toNat]
    simp only [Char.reduceToNat]
    omega
  have space : (b != spaceByte) = (c != ' ') := by
    rw [Bool.eq_iff_iff]
    simp only [bne_iff_ne, ne_eq, ← UInt8.toNat_inj, ← Char.toNat_inj, spaceByte,
      UInt8.reduceToNat, Char.reduceToNat]
    omega
  have low : (b != 0x5F) = (c != '_') := by
    rw [Bool.eq_iff_iff]
    simp only [bne_iff_ne, ne_eq, ← UInt8.toNat_inj, ← Char.toNat_inj, UInt8.reduceToNat,
      Char.reduceToNat]
    omega
  have letter : isLetterByte b = c.isAlpha := by
    rw [isLetterByte, upper, lower]
    rfl
  exact ⟨by rw [isKebabByte, isKebabChar, upper, space, low], digit, letter⟩

/-- A character by its first byte; the bytes after it, if any, are above ASCII. -/
theorem exists_utf8EncodeChar (c : Char) : ∃ b more, String.utf8EncodeChar c = b :: more ∧
    (isDigitByte b = true → more = []) ∧ (∀ byte ∈ more, 0x80 ≤ byte.toNat) ∧
    isKebabByte b = isKebabChar c ∧ isDigitByte b = c.isDigit ∧ isLetterByte b = c.isAlpha := by
  by_cases ascii : c.toNat < 0x80
  · have number : (UInt8.ofNat c.toNat).toNat = c.toNat :=
      UInt8.toNat_ofNat_of_lt' (show _ < 256 by omega)
    exact ⟨_, [], utf8EncodeChar_of_ascii c ascii, fun _ => rfl, List.forall_mem_nil _,
      kinds_agree (.inl number)⟩
  · have wide (byte : UInt8) (inside : byte ∈ String.utf8EncodeChar c) : 0x80 ≤ byte.toNat :=
      le_of_mem_utf8EncodeChar c (Nat.le_of_not_lt ascii) inside
    obtain ⟨b, more, bytes⟩ := List.exists_cons_of_ne_nil (utf8EncodeChar_ne_nil c)
    rw [bytes, List.forall_mem_cons] at wide
    have notDigit := (of_wide wide.1).2.2.1
    exact ⟨b, more, bytes, fun digit => absurd (digit.symm.trans notDigit) (by decide), wide.2,
      kinds_agree (.inr ⟨wide.1, Nat.le_of_not_lt ascii⟩)⟩

theorem isKebabByte_of {b : UInt8} (upper : isUpperByte b = false) (blank : b ≠ spaceByte)
    (separator : (b == 0x5F || b == 0x2D) = false) : isKebabByte b = true := by
  rw [Bool.or_eq_false_iff] at separator
  simp only [isKebabByte, upper, bne, separator.1, beq_eq_false_iff_ne.mpr blank, Bool.not_false,
    Bool.and_self]

theorem areKebab_append_of_wide {bytes rest : List UInt8} (wide : ∀ b ∈ bytes, 0x80 ≤ b.toNat) :
    AreKebab (bytes ++ rest) ↔ AreKebab rest := by
  induction bytes with
  | nil => rfl
  | cons b more ih =>
    obtain ⟨own, others⟩ := List.forall_mem_cons.mp wide
    obtain ⟨upper, -, digit, separator, space⟩ := of_wide own
    rw [List.cons_append, AreKebab, separated_cons, ← AreKebab, ih others]
    simp [isKebabByte_of upper space separator, digit]

/-- The bytes of a name tell whether it is in kebab case. -/
theorem areKebab_utf8Bytes (name : String) : AreKebab (utf8Bytes name) ↔ IsKebab name := by
  rw [utf8Bytes, IsKebab]
  induction name.toList with
  | nil => exact ⟨fun _ => ⟨List.forall_mem_nil _, .nil⟩, fun _ => ⟨List.forall_mem_nil _, .nil⟩⟩
  | cons c rest ih =>
    have letter : (rest.flatMap String.utf8EncodeChar).head?.any isLetterByte =
        rest.head?.any Char.isAlpha := by
      cases rest with
      | nil => rfl
      | cons d others =>
        obtain ⟨b, more, bytes, -, -, -, -, same⟩ := exists_utf8EncodeChar d
        rw [List.flatMap_cons, bytes]
        exact same
    obtain ⟨b, more, bytes, single, wide, allowed, digit, -⟩ := exists_utf8EncodeChar c
    rw [List.flatMap_cons, bytes, List.cons_append, AreKebab, separated_cons, separated_cons, ← ih,
      ← AreKebab, areKebab_append_of_wide wide, allowed]
    refine and_congr_right fun _ => and_congr_left fun _ => ?_
    rw [← digit]
    refine imp_congr_right fun isDigit => ?_
    rw [single isDigit, List.nil_append, letter]

theorem areKebab_cons {b : UInt8} {rest : List UInt8} (own : isKebabByte b = true)
    (apart : isDigitByte b = true → rest.head?.any isLetterByte = false) (others : AreKebab rest) :
    AreKebab (b :: rest) :=
  separated_cons.mpr ⟨own, apart, others⟩

theorem areKebab_cons_of_not_digit {b : UInt8} {rest : List UInt8} (own : isKebabByte b = true)
    (digit : isDigitByte b = false) (others : AreKebab rest) : AreKebab (b :: rest) :=
  areKebab_cons own (fun isDigit => absurd (isDigit.symm.trans digit) (by decide)) others

theorem areKebab_hyphen {rest : List UInt8} (others : AreKebab rest) : AreKebab (0x2D :: rest) :=
  areKebab_cons_of_not_digit rfl rfl others

theorem areKebab_lower {b : UInt8} {rest : List UInt8} (lower : isLowerByte b = true)
    (others : AreKebab rest) : AreKebab (b :: rest) := by
  obtain ⟨upper, digit, separator⟩ := of_lower lower
  have solid : b ≠ spaceByte := by
    rintro rfl
    cases lower
  exact areKebab_cons_of_not_digit (isKebabByte_of upper solid separator) digit others

namespace Style

variable {spaces : Option Nat} {previous next : Option UInt8} {b : UInt8} {bytes rest : List UInt8}

theorem isLowerByte_recase_kebab (upper : isUpperByte b = true) :
    isLowerByte (kebab.recase b) = true := by
  have recased : kebab.recase b = b + 0x20 := by
    simp only [recase, kebab, upper, Bool.and_false, Bool.false_eq_true, if_false, Bool.not_false,
      Bool.and_self, if_true]
  have sum : (b + 0x20).toNat = (b.toNat + 32) % 256 := UInt8.toNat_add b 0x20
  rw [isUpperByte_iff] at upper
  rw [recased, isLowerByte_iff]
  omega

theorem recase_kebab_of_not_upper (upper : isUpperByte b = false) : kebab.recase b = b := by
  simp only [recase, kebab, upper, Bool.and_false, Bool.false_and, Bool.false_eq_true, if_false]

/-- After a digit no letter comes next, unless there is one in the name and no space before it. -/
theorem head_writeAll_kebab {count : Nat}
    (apart : 0 < count ∨ bytes.head?.any isLetterByte = false) :
    (kebab.writeAll (some count) previous bytes).head?.any isLetterByte = false := by
  induction bytes generalizing count previous with
  | nil => rfl
  | cons b rest ih =>
    by_cases blank : b = spaceByte
    · rw [blank, writeAll_space]
      exact ih (.inl (Nat.succ_pos count))
    · rw [writeAll_solid blank]
      cases count with
      | succ count => rfl
      | zero =>
        have letter : isLetterByte b = false := apart.resolve_left (Nat.lt_irrefl 0)
        obtain ⟨upper, lower⟩ := Bool.or_eq_false_iff.mp letter
        cases digit : isDigitByte b with
        | true =>
          rw [write_digit digit]
          exact letter
        | false =>
          rw [write_other upper lower digit]
          split
          · rfl
          · exact letter

theorem areKebab_writeAll (spaces : Option Nat) (previous : Option UInt8) (bytes : List UInt8) :
    AreKebab (kebab.writeAll spaces previous bytes) := by
  induction bytes generalizing spaces previous with
  | nil => exact ⟨List.forall_mem_nil _, .nil⟩
  | cons b rest ih =>
    by_cases blank : b = spaceByte
    · rw [blank, writeAll_space]
      exact ih _ _
    · have later := ih (some 0) (some b)
      have hyphens (count : Nat) {bytes : List UInt8} (others : AreKebab bytes) :
          AreKebab (List.replicate count kebab.space ++ bytes) := by
        induction count with
        | zero => exact others
        | succ count own => exact areKebab_hyphen own
      rw [writeAll_solid blank, List.append_assoc]
      refine hyphens _ ?_
      rcases byte_cases b with upper | lower | digit | ⟨upper, lower, digit⟩
      · have own := areKebab_lower (isLowerByte_recase_kebab upper) later
        rw [write_upper upper]
        split
        · exact areKebab_hyphen own
        · exact own
      · rw [write_lower lower, recase_kebab_of_not_upper (of_lower lower).1]
        refine areKebab_lower lower ?_
        split
        · exact areKebab_hyphen later
        · exact later
      · -- A letter that follows in the name has a hyphen before it now.
        obtain ⟨upper, -, separator⟩ := of_digit digit
        have own := isKebabByte_of upper blank separator
        rw [write_digit digit]
        cases letter : rest.head?.any isLetterByte with
        | true => exact areKebab_cons own (fun _ => rfl) (areKebab_hyphen later)
        | false => exact areKebab_cons own (fun _ => head_writeAll_kebab (.inr letter)) later
      · rw [write_other upper lower digit]
        cases separator : b == 0x5F || b == 0x2D with
        | true => exact areKebab_hyphen later
        | false =>
          exact areKebab_cons_of_not_digit (isKebabByte_of upper blank separator) digit later

/-- What is written for a name in kebab case is the name. -/
theorem writeAll_of_areKebab (own : AreKebab bytes) (noSpaces : spaces.getD 0 = 0) :
    kebab.writeAll spaces previous bytes = bytes := by
  induction bytes generalizing spaces previous with
  | nil => rfl
  | cons b rest ih =>
    obtain ⟨allowed, apart, others⟩ := separated_cons.mp own
    simp only [isKebabByte, Bool.and_eq_true, Bool.not_eq_true', bne_iff_ne, ne_eq] at allowed
    obtain ⟨⟨upper, solid⟩, notLow⟩ := allowed
    have written : kebab.write previous b rest.head? = [b] := by
      rcases byte_cases b with isUpper | lower | digit | ⟨-, lower, digit⟩
      · exact absurd (isUpper.symm.trans upper) (by decide)
      · have noUpper : rest.head?.any isUpperByte = false := by
          cases rest with
          | nil => rfl
          | cons next more =>
            have nextAllowed := (separated_cons.mp others).1
            simp only [isKebabByte, Bool.and_eq_true, Bool.not_eq_true'] at nextAllowed
            exact nextAllowed.1.1
        rw [write_lower lower, recase_kebab_of_not_upper upper, noUpper]
        rfl
      · rw [write_digit digit, apart digit]
        rfl
      · rw [write_other upper lower digit, beq_eq_false_iff_ne.mpr notLow, Bool.false_or]
        cases hyphen : b == 0x2D with
        | true =>
          rw [eq_of_beq hyphen]
          rfl
        | false => rfl
    rw [writeAll_solid solid, noSpaces, written, ih others rfl]
    rfl

end Style

/-- A name is brought into kebab case, and stays as it is where it was in kebab case before. -/
theorem kebab_apply (name : String) :
    IsKebab (Style.kebab.apply name) ∧ (Style.kebab.apply name = name ↔ IsKebab name) ∧
      Style.kebab.apply (Style.kebab.apply name) = Style.kebab.apply name := by
  have ascii : Style.kebab.delimiter.toNat < 0x80 := by decide
  have written (name : String) : IsKebab (Style.kebab.apply name) := by
    rw [← areKebab_utf8Bytes, (Style.apply_spec ascii name).1]
    exact Style.areKebab_writeAll none none _
  have fixed (name : String) : Style.kebab.apply name = name ↔ IsKebab name := by
    constructor
    · intro same
      exact same ▸ written name
    · intro own
      have bytes := (areKebab_utf8Bytes name).mpr own
      rw [Style.apply, Style.writeAll_of_areKebab bytes rfl, ofUtf8_utf8Bytes]
  exact ⟨written name, fixed name, (fixed _).mpr (written name)⟩

end DocOptions.Naming
