import DocOptions.Proofs.Numeral.Decimal
import DocOptions.Value
import Mathlib.Data.List.TakeWhile

/-! Which texts are integers of a kind, and why the others are not. Digits only take a number away
from zero, so a number that has left its bounds never comes back: the digits at the start of a text,
up to the first character that is none, decide between the reasons. -/

namespace DocOptions

namespace IntKind

variable {k : IntKind} {negative : Bool} {n : Nat} {chars : List Char}

/-- The signs that a kind knows, none among them, and whether a number behind one is negative. -/
inductive IsSign (k : IntKind) : List Char → Bool → Prop
  | none : IsSign k [] false
  | plus : IsSign k ['+'] false
  | minus : k.isSigned = true → IsSign k ['-'] true

/-- Whether a text is a sign and digits, and the integer that they denote. -/
def Denotes (k : IntKind) (chars : List Char) (n : Int) : Prop :=
  ∃ sign negative digits, k.IsSign sign negative ∧ chars = sign ++ digits ∧ digits ≠ [] ∧
    (∀ c ∈ digits, c.isDigit = true) ∧ n = signed negative (Nat.ofDigitChars 10 digits 0)

/-- Whether a text starts with a minus sign that the kind knows, and the text without its sign. -/
def splitSign (k : IntKind) : List Char → Bool × List Char
  | [] => (false, [])
  | c :: rest =>
    if c = '+' then (false, rest)
    else if c = '-' && k.isSigned then (true, rest)
    else (false, c :: rest)

/-- The integer that the first digits after the sign denote, whatever follows them. -/
def leading (k : IntKind) (chars : List Char) : Int :=
  signed (k.splitSign chars).1
    (Nat.ofDigitChars 10 ((k.splitSign chars).2.takeWhile Char.isDigit) 0)

theorem signed_zero (negative : Bool) : signed negative 0 = 0 := by
  cases negative <;> rfl

/-- A number leaves its bounds on the side of its sign. -/
theorem lt_minimum_iff :
    signed negative n < k.minimum ↔ negative = true ∧ ¬ k.Admits (signed negative n) := by
  obtain ⟨lowZero, highZero⟩ := k.admits_zero
  cases negative with
  | true =>
    simp only [Admits, signed, if_true, true_and]
    omega
  | false =>
    simp only [signed, Bool.false_eq_true, if_false, false_and, iff_false]
    omega

theorem maximum_lt_iff :
    k.maximum < signed negative n ↔ negative = false ∧ ¬ k.Admits (signed negative n) := by
  obtain ⟨lowZero, highZero⟩ := k.admits_zero
  cases negative with
  | true =>
    simp only [signed, if_true, Bool.true_eq_false, false_and, iff_false]
    omega
  | false =>
    simp only [Admits, signed, Bool.false_eq_true, if_false, true_and]
    omega

/-- Why a number that its kind has no room for is refused. -/
def overflow (negative : Bool) : ConversionReason :=
  if negative then .tooSmall else .tooLarge

/-- One more digit is read if the number that it makes is within the bounds. -/
theorem readDigits_digit {c : Char} {rest : List Char} (digit : c.isDigit = true) :
    k.readDigits negative (signed negative n) (c :: rest) =
      if k.Admits (signed negative (10 * n + (c.toNat - '0'.toNat))) then
        k.readDigits negative (signed negative (10 * n + (c.toNat - '0'.toNat))) rest
      else .error (overflow negative) := by
  have value : digit? c = some (c.toNat - '0'.toNat) := if_pos digit
  simp only [readDigits, value, signed_step, lt_minimum_iff, maximum_lt_iff, overflow]
  by_cases admitted : k.Admits (signed negative (10 * n + (c.toNat - '0'.toNat)))
  · simp only [admitted, not_true, and_false, if_false, if_true]
  · cases negative with
    | true => simp only [admitted, not_false_eq_true, and_true, if_true, if_false]
    | false =>
      simp only [admitted, not_false_eq_true, and_true, if_true, if_false, Bool.false_eq_true]

theorem readDigits_other {c : Char} {rest : List Char} (other : c.isDigit = false) (m : Int) :
    k.readDigits negative m (c :: rest) = .error .invalidDigit := by
  have noDigit : digit? c = none := if_neg (Bool.eq_false_iff.mp other)
  rw [readDigits, noDigit]

/-- What has been read is within the bounds, and all that is read after it comes to this. -/
theorem readDigits_cases (admitted : k.Admits (signed negative n)) (chars : List Char) :
    let reached := signed negative (Nat.ofDigitChars 10 (chars.takeWhile Char.isDigit) n)
    k.readDigits negative (signed negative n) chars =
      if k.Admits reached then
        if chars.all Char.isDigit then .ok reached else .error .invalidDigit
      else .error (overflow negative) := by
  induction chars generalizing n with
  | nil => exact (if_pos admitted).symm
  | cons c rest ih =>
    cases digit : c.isDigit with
    | false =>
      simp only [List.takeWhile_cons, digit, Bool.false_eq_true, if_false, Nat.ofDigitChars_nil,
        admitted, if_true, List.all_cons, Bool.false_and]
      exact readDigits_other digit _
    | true =>
      simp only [List.takeWhile_cons, digit, if_true, Nat.ofDigitChars_cons, List.all_cons,
        Bool.true_and, readDigits_digit digit]
      by_cases next : k.Admits (signed negative (10 * n + (c.toNat - '0'.toNat)))
      · rw [if_pos next]
        exact ih next
      · -- the digits after this one take the number further away still
        rw [if_neg next, if_neg fun later => next (later.of_le (le_ofDigitChars _ _))]

/-- A number is read to the end, or the first digits of it decide why not. -/
theorem readNumber_cases (chars : List Char) :
    let reached := signed negative (Nat.ofDigitChars 10 (chars.takeWhile Char.isDigit) 0)
    k.readNumber negative chars =
      if k.Admits reached then
        if chars ≠ [] ∧ chars.all Char.isDigit = true then .ok reached else .error .invalidDigit
      else .error (overflow negative) := by
  cases chars with
  | nil =>
    have zero := k.admits_zero
    simp only [List.takeWhile_nil, Nat.ofDigitChars_nil, signed_zero, zero, if_true, ne_eq,
      not_true, false_and, if_false]
    rfl
  | cons c rest =>
    have zero : k.Admits (signed negative 0) := signed_zero negative ▸ k.admits_zero
    have read := readDigits_cases zero (c :: rest)
    rw [signed_zero] at read
    simp only [ne_eq, List.cons_ne_nil, not_false_eq_true, true_and]
    exact read

theorem read_cases {text : String} (nonempty : text ≠ "") :
    k.read text =
      if k.Admits (k.leading text.toList) then
        if (k.splitSign text.toList).2 ≠ [] ∧ (k.splitSign text.toList).2.all Char.isDigit = true
        then .ok (k.leading text.toList) else .error .invalidDigit
      else .error (overflow (k.splitSign text.toList).1) := by
  have number : k.read text =
      k.readNumber (k.splitSign text.toList).1 (k.splitSign text.toList).2 := by
    have chars : text.toList ≠ [] := by simpa using nonempty
    obtain ⟨c, rest, whole⟩ := List.exists_cons_of_ne_nil chars
    simp only [read, whole, splitSign]
    split
    · rfl
    · split <;> rfl
  rw [number]
  exact readNumber_cases _

theorem exists_isSign (k : IntKind) (chars : List Char) :
    ∃ sign, k.IsSign sign (k.splitSign chars).1 ∧ chars = sign ++ (k.splitSign chars).2 := by
  cases chars with
  | nil => exact ⟨[], .none, rfl⟩
  | cons c rest =>
    rw [splitSign]
    split
    · rename_i plus
      exact ⟨['+'], .plus, by rw [plus]; rfl⟩
    · split
      · rename_i minus
        obtain ⟨minus, signedKind⟩ := Bool.and_eq_true_iff.mp minus
        exact ⟨['-'], .minus signedKind, by rw [of_decide_eq_true minus]; rfl⟩
      · exact ⟨[], .none, rfl⟩

/-- No digit is taken for a sign. -/
theorem splitSign_append {sign digits : List Char} (isSign : k.IsSign sign negative)
    (first : ∀ c ∈ digits.head?, c.isDigit = true) :
    k.splitSign (sign ++ digits) = (negative, digits) := by
  cases isSign with
  | none =>
    cases digits with
    | nil => rfl
    | cons c rest =>
      have digit : c.isDigit = true := first c rfl
      have plus : c ≠ '+' := by
        rintro rfl
        exact absurd digit (by decide)
      have minus : c ≠ '-' := by
        rintro rfl
        exact absurd digit (by decide)
      simp only [List.nil_append, splitSign, plus, minus, if_false, decide_false, Bool.false_and,
        Bool.false_eq_true]
  | plus => rfl
  | minus signedKind =>
    have plus : '-' ≠ '+' := by decide
    simp only [List.cons_append, List.nil_append, splitSign, plus, if_false, decide_true,
      signedKind, Bool.and_self, if_true]

theorem denotes_iff {n : Int} :
    k.Denotes chars n ↔ (k.splitSign chars).2 ≠ [] ∧
      (k.splitSign chars).2.all Char.isDigit = true ∧ n = k.leading chars := by
  constructor
  · rintro ⟨sign, negative, digits, isSign, rfl, filled, all, rfl⟩
    have split := splitSign_append isSign fun c first => all c (List.mem_of_mem_head? first)
    rw [leading, split]
    refine ⟨filled, List.all_eq_true.mpr all, ?_⟩
    rw [List.takeWhile_eq_self_iff.mpr all]
  · rintro ⟨filled, all, rfl⟩
    obtain ⟨sign, isSign, whole⟩ := k.exists_isSign chars
    have all := List.all_eq_true.mp all
    refine ⟨sign, _, _, isSign, whole, filled, all, ?_⟩
    rw [leading, List.takeWhile_eq_self_iff.mpr all]

theorem read_ok_iff {text : String} {n : Int} :
    k.read text = .ok n ↔ k.Denotes text.toList n ∧ k.Admits n := by
  by_cases empty : text = ""
  · subst empty
    have noDigits : ¬ k.Denotes "".toList n := fun denotes => (denotes_iff.mp denotes).1 rfl
    exact ⟨fun accepted => (nomatch accepted), fun denotes => absurd denotes.1 noDigits⟩
  · rw [read_cases empty, denotes_iff]
    split
    · rename_i admitted
      split
      · rename_i digits
        constructor
        · rintro ⟨⟩
          exact ⟨⟨digits.1, digits.2, rfl⟩, admitted⟩
        · rintro ⟨⟨-, -, rfl⟩, -⟩
          rfl
      · rename_i others
        exact ⟨fun accepted => (nomatch accepted),
          fun denotes => absurd ⟨denotes.1.1, denotes.1.2.1⟩ others⟩
    · rename_i outside
      constructor
      · exact fun accepted => nomatch accepted
      · rintro ⟨⟨-, -, rfl⟩, admitted⟩
        exact absurd admitted outside

/-- The first digits decide between the reasons. -/
theorem reason_of_read {text : String} {reason : ConversionReason} (nonempty : text ≠ "")
    (refused : k.read text = .error reason) :
    (reason = .tooLarge ↔ k.maximum < k.leading text.toList) ∧
      (reason = .tooSmall ↔ k.leading text.toList < k.minimum) ∧
      (reason = .invalidDigit ↔ k.Admits (k.leading text.toList)) := by
  rw [read_cases nonempty] at refused
  rw [leading, maximum_lt_iff, lt_minimum_iff, ← leading]
  split at refused
  · rename_i admitted
    split at refused
    · cases refused
    · cases refused
      simp only [admitted, not_true, and_false, reduceCtorEq, and_self]
  · rename_i outside
    cases refused
    cases (k.splitSign text.toList).1 <;> simp [overflow, outside]

end IntKind

namespace ScalarKind

/-- A text is read as an integer if it is a sign and digits that denote one within the bounds of its
kind. Otherwise the digits that it starts with tell why not. The text of an integer is read as the
integer. -/
theorem read_integer (k : IntKind) :
    (∀ text n, (integer k).read text = .ok n ↔ k.Denotes text.toList n ∧ k.Admits n) ∧
    (∀ text e, (integer k).read text = .error e → e.value = text ∧ e.kind = .integer k ∧
      (text = "" → e.reason = .emptyInteger) ∧
      (text ≠ "" →
        (e.reason = .tooLarge ↔ k.maximum < k.leading text.toList) ∧
        (e.reason = .tooSmall ↔ k.leading text.toList < k.minimum) ∧
        (e.reason = .invalidDigit ↔ k.Admits (k.leading text.toList)))) ∧
    (∀ n, k.Admits n → ∃ text, ((integer k).view n).text? = some text ∧
      (integer k).read text = .ok n) := by
  have reading (text : String) :
      (integer k).read text = (k.read text).mapError (⟨text, .integer k, ·⟩) := rfl
  refine ⟨fun text n => ?_, fun text e refused => ?_, fun n admitted => ?_⟩
  · rw [reading, ← IntKind.read_ok_iff]
    cases k.read text with
    | ok m => exact ⟨fun same => Except.ok.inj same ▸ rfl, fun same => Except.ok.inj same ▸ rfl⟩
    | error reason => exact ⟨fun accepted => (nomatch accepted), fun accepted => nomatch accepted⟩
  · rw [reading] at refused
    cases read : k.read text with
    | ok m =>
      rw [read] at refused
      cases refused
    | error reason =>
      rw [read] at refused
      cases refused
      refine ⟨rfl, rfl, ?_, fun nonempty => IntKind.reason_of_read nonempty read⟩
      rintro rfl
      cases read
      rfl
  · refine ⟨toString n, rfl, ?_⟩
    rw [reading, IntKind.read_toString admitted]
    rfl

/-- The least number of a kind, and texts that leave the bounds before or after a character that is
no digit. -/
theorem read_integer_at_bounds :
    (integer .int8).read "-0128" = .ok (-128) ∧
      (∃ text, ((integer .int8).view (-128 : Int)).text? = some text ∧
        (integer .int8).read text = .ok (-128)) ∧
      (integer .int8).read "-129x" = .error ⟨"-129x", .integer .int8, .tooSmall⟩ ∧
      IntKind.int8.leading "-129x".toList < IntKind.int8.minimum ∧
      (integer .uint8).read "25x6" = .error ⟨"25x6", .integer .uint8, .invalidDigit⟩ ∧
      IntKind.uint8.Admits (IntKind.uint8.leading "25x6".toList) := by
  have least : IntKind.int8.Denotes "-0128".toList (-128) :=
    ⟨['-'], true, ['0', '1', '2', '8'], .minus rfl, rfl, List.cons_ne_nil _ _,
      by simp, rfl⟩
  have small : (integer .int8).read "-129x" = .error ⟨"-129x", .integer .int8, .tooSmall⟩ := rfl
  have other : (integer .uint8).read "25x6" = .error ⟨"25x6", .integer .uint8, .invalidDigit⟩ := rfl
  obtain ⟨reads, refuses, again⟩ := read_integer .int8
  obtain ⟨-, refuses', -⟩ := read_integer .uint8
  obtain ⟨-, -, -, reasons⟩ := refuses _ _ small
  obtain ⟨-, -, -, reasons'⟩ := refuses' _ _ other
  exact ⟨(reads _ _).mpr ⟨least, by decide⟩, again _ (by decide), small,
    (reasons (by decide)).2.1.mp rfl, other, (reasons' (by decide)).2.2.mp rfl⟩

end ScalarKind
end DocOptions
