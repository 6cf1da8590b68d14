import DocOptions.Numeral.Integer

/-! Integers and their decimal texts. An integer that its kind has room for is read back from its
text: the digits read so far always denote a number that is no further from zero than the integer
itself, so no bound is crossed on the way. -/

namespace DocOptions.IntKind

/-- Whether a kind has room for an integer. -/
def Admits (k : IntKind) (n : Int) : Prop :=
  k.minimum ≤ n ∧ n ≤ k.maximum

instance (k : IntKind) (n : Int) : Decidable (k.Admits n) :=
  inferInstanceAs (Decidable (_ ∧ _))

theorem admits_zero (k : IntKind) : k.Admits 0 := by
  cases k <;> decide

/-- The integer that lies `n` from zero, on one side or the other. -/
def signed (negative : Bool) (n : Nat) : Int :=
  if negative then -n else n

theorem Admits.of_le {k : IntKind} {negative : Bool} {m n : Nat}
    (admitted : k.Admits (signed negative n)) (le : m ≤ n) : k.Admits (signed negative m) := by
  obtain ⟨low, high⟩ := admitted
  obtain ⟨lowZero, highZero⟩ := k.admits_zero
  cases negative with
  | true =>
    simp only [signed, if_true] at *
    exact ⟨by omega, by omega⟩
  | false =>
    simp only [signed, Bool.false_eq_true, if_false] at *
    exact ⟨by omega, by omega⟩

theorem le_ofDigitChars (n : Nat) (chars : List Char) : n ≤ Nat.ofDigitChars 10 chars n := by
  induction chars generalizing n with
  | nil => exact Nat.le_refl n
  | cons c rest ih =>
    have later := ih (10 * n + (c.toNat - '0'.toNat))
    rw [Nat.ofDigitChars_cons]
    omega

/-- One more digit takes a number away from zero. -/
theorem signed_step (negative : Bool) (n d : Nat) :
    (if negative then signed negative n * 10 - d else signed negative n * 10 + d) =
      signed negative (10 * n + d) := by
  cases negative with
  | true =>
    simp only [signed, if_true]
    omega
  | false =>
    simp only [signed, Bool.false_eq_true, if_false]
    omega

theorem readDigits_eq {k : IntKind} {negative : Bool} {n : Nat} {chars : List Char}
    (digits : ∀ c ∈ chars, c.isDigit = true)
    (admitted : k.Admits (signed negative (Nat.ofDigitChars 10 chars n))) :
    k.readDigits negative (signed negative n) chars =
      .ok (signed negative (Nat.ofDigitChars 10 chars n)) := by
  induction chars generalizing n with
  | nil => rfl
  | cons c rest ih =>
    obtain ⟨digit, others⟩ := List.forall_mem_cons.mp digits
    rw [Nat.ofDigitChars_cons] at admitted ⊢
    obtain ⟨low, high⟩ := admitted.of_le (le_ofDigitChars _ rest)
    have value : digit? c = some (c.toNat - '0'.toNat) := if_pos digit
    simp only [readDigits, value, signed_step, if_neg (Int.not_lt.mpr low),
      if_neg (Int.not_lt.mpr high)]
    exact ih others admitted

theorem isDigit_of_mem_repr {n : Nat} : ∀ c ∈ n.repr.toList, c.isDigit = true := by
  intro c member
  rw [Nat.toList_repr] at member
  exact Nat.isDigit_of_mem_toDigits (by decide) (by decide) member

/-- The digits of a number are read as the number, with the sign that was read before them. -/
theorem readNumber_repr {k : IntKind} {negative : Bool} {n : Nat}
    (admitted : k.Admits (signed negative n)) :
    k.readNumber negative n.repr.toList = .ok (signed negative n) := by
  have value : Nat.ofDigitChars 10 n.repr.toList 0 = n := by
    rw [Nat.toList_repr, Nat.ofDigitChars_ten_toDigits]
  have filled : n.repr.toList.isEmpty = false := by
    rw [Nat.toList_repr, List.isEmpty_eq_false_iff]
    exact Nat.toDigits_ne_nil
  have zero : signed negative 0 = 0 := by cases negative <;> rfl
  have read := readDigits_eq (n := 0) isDigit_of_mem_repr (value.symm ▸ admitted)
  rw [value, zero] at read
  rw [readNumber, filled, if_neg Bool.false_ne_true, read]

theorem isSigned_of_admits {k : IntKind} {n : Nat} (admitted : k.Admits (signed true (n + 1))) :
    k.isSigned = true := by
  obtain ⟨low, -⟩ := admitted
  cases signedKind : k.isSigned with
  | true => rfl
  | false =>
    simp only [minimum, signedKind, Bool.false_eq_true, if_false, signed, if_true] at low
    omega

/-- An integer within the bounds of a kind is read back from its decimal text. -/
theorem read_toString {k : IntKind} {n : Int} (admitted : k.Admits n) :
    k.read (toString n) = .ok n := by
  cases n with
  | ofNat n =>
    have read : k.readNumber false n.repr.toList = .ok (signed false n) :=
      readNumber_repr admitted
    have text : (toString (Int.ofNat n)).toList = n.repr.toList := rfl
    obtain ⟨c, rest, digits⟩ := List.exists_cons_of_ne_nil
      (l := n.repr.toList) (by rw [Nat.toList_repr]; exact Nat.toDigits_ne_nil)
    have digit : c.isDigit = true :=
      isDigit_of_mem_repr c (digits ▸ List.mem_cons_self)
    have noPlus : c ≠ '+' := by
      rintro rfl
      exact absurd digit (by decide)
    have noMinus : (decide (c = '-') && k.isSigned) = false := by
      rw [Bool.and_eq_false_iff]
      refine .inl (decide_eq_false ?_)
      rintro rfl
      exact absurd digit (by decide)
    rw [digits] at read
    simp only [IntKind.read, text, digits, if_neg noPlus, noMinus]
    exact read
  | negSucc n =>
    have negative : Int.negSucc n = signed true (n + 1) := rfl
    rw [negative] at admitted
    have text : (toString (Int.negSucc n)).toList = '-' :: (n + 1).repr.toList :=
      String.toList_append
    have noPlus : '-' ≠ '+' := by decide
    simp only [IntKind.read, text, if_neg noPlus, isSigned_of_admits admitted, decide_true,
      Bool.and_self, if_true]
    exact readNumber_repr admitted

end DocOptions.IntKind
