import DocOptions.Json.Read
import DocOptions.Json.Write

/-! Strings and integers of JSON, read back from what is written for them. A string ends at its
closing quote, whatever follows; an integer ends where nothing goes on with a number. -/

namespace DocOptions.Json

theorem hexDigit?_digitChar {n : Nat} (small : n < 16) : hexDigit? (Nat.digitChar n) = some n := by
  decide +revert

theorem readUnits_cons {c : Char} (notQuote : c ≠ '"') (notBackslash : c ≠ '\\')
    (printable : 0x20 ≤ c.toNat) (rest : List Char) :
    readUnits (c :: rest) = (readUnits rest).map fun (units, rest) => (c.toNat :: units, rest) := by
  rw [readUnits.eq_def]
  simp only [if_neg notQuote, if_neg notBackslash, if_neg (Nat.not_lt.mpr printable)]
  cases readUnits rest <;> rfl

theorem readUnits_escape {e c : Char} (known : escape? e = some c) (rest : List Char) :
    readUnits ('\\' :: e :: rest) =
      (readUnits rest).map fun (units, rest) => (c.toNat :: units, rest) := by
  have notUnicode : e ≠ 'u' := by
    rintro rfl
    cases known
  have notQuote : '\\' ≠ '"' := by decide
  rw [readUnits.eq_def]
  simp only [if_neg notQuote, if_pos, if_neg notUnicode, known]
  cases readUnits rest <;> rfl

theorem readUnits_hex {c : Char} (control : c.toNat < 0x20) (rest : List Char) :
    readUnits ('\\' :: 'u' :: '0' :: '0' :: Nat.digitChar (c.toNat / 16) ::
        Nat.digitChar (c.toNat % 16) :: rest) =
      (readUnits rest).map fun (units, rest) => (c.toNat :: units, rest) := by
  have notQuote : '\\' ≠ '"' := by decide
  have zero : hexDigit? '0' = some 0 := rfl
  have high := hexDigit?_digitChar (n := c.toNat / 16) (by omega)
  have low := hexDigit?_digitChar (n := c.toNat % 16) (by omega)
  have value : ((0 * 16 + 0) * 16 + c.toNat / 16) * 16 + c.toNat % 16 = c.toNat := by omega
  rw [readUnits.eq_def]
  simp only [if_neg notQuote, if_pos, zero, high, low]
  cases readUnits rest with
  | none => rfl
  | some read => exact congrArg (fun n => some (n :: read.1, read.2)) value

theorem readUnits_escapeChar (c : Char) (rest : List Char) :
    readUnits (escapeChar c ++ rest) =
      (readUnits rest).map fun (units, rest) => (c.toNat :: units, rest) := by
  unfold escapeChar
  split
  iterate 7 exact readUnits_escape rfl rest
  split
  · next control => exact readUnits_hex control rest
  · next notQuote notBackslash _ _ _ _ _ printable =>
    exact readUnits_cons notQuote notBackslash (Nat.not_lt.mp printable) rest

theorem readUnits_flatMap_escapeChar (chars rest : List Char) :
    readUnits (chars.flatMap escapeChar ++ '"' :: rest) = some (chars.map Char.toNat, rest) := by
  induction chars with
  | nil =>
    rw [List.flatMap_nil, List.nil_append, readUnits.eq_def]
    rfl
  | cons c chars ih =>
    rw [List.flatMap_cons, List.append_assoc, readUnits_escapeChar, ih]
    rfl

theorem not_isSurrogate (c : Char) :
    isHighSurrogate c.toNat = false ∧ isLowSurrogate c.toNat = false := by
  have valid : c.toNat < 0xD800 ∨ 0xDFFF < c.toNat ∧ c.toNat < 0x110000 := c.valid
  simp only [isHighSurrogate, isLowSurrogate, Bool.and_eq_false_iff, decide_eq_false_iff_not]
  omega

theorem joinUnits_map_toNat (chars : List Char) :
    joinUnits (chars.map Char.toNat) = some chars := by
  induction chars with
  | nil => rfl
  | cons c chars ih =>
    obtain ⟨notHigh, notLow⟩ := not_isSurrogate c
    cases chars with
    | nil => simp [joinUnits, notHigh, notLow, Char.ofNat_toNat]
    | cons d chars =>
      rw [List.map_cons, List.map_cons] at *
      simp [joinUnits, notHigh, notLow, ih, Char.ofNat_toNat]

theorem writeString_append (text : String) (rest : List Char) :
    writeString text ++ rest = '"' :: (text.toList.flatMap escapeChar ++ '"' :: rest) := by
  simp only [writeString, List.cons_append, List.append_assoc, List.nil_append]

theorem readString_escaped (text : String) (rest : List Char) :
    readString (text.toList.flatMap escapeChar ++ '"' :: rest) = some (some text, rest) := by
  simp only [readString, readUnits_flatMap_escapeChar, joinUnits_map_toNat, Option.map_some,
    String.ofList_toList]

theorem digitsValue_eq (chars : List Char) :
    Decimal.digitsValue chars = Nat.ofDigitChars 10 chars 0 := by
  simp only [Decimal.digitsValue, Nat.ofDigitChars, Nat.mul_comm]

/-- Only zero has a leading zero. -/
theorem head_toDigits (n : Nat) : (Nat.toDigits 10 n).head? = some '0' ↔ n = 0 := by
  induction n using Nat.strongRecOn with
  | ind n ih =>
    by_cases small : n < 10
    · rw [Nat.toDigits_of_lt_base small, List.head?_cons, Option.some_inj, Nat.digitChar_eq_zero]
    · have shorter := ih (n / 10) (by omega)
      obtain ⟨c, digits, more⟩ := List.exists_cons_of_ne_nil
        (Nat.toDigits_ne_nil (b := 10) (n := n / 10))
      rw [more, List.head?_cons] at shorter
      rw [Nat.toDigits_of_base_le (by decide) (by omega), more, List.cons_append, List.head?_cons,
        shorter]
      omega

/-- What stands after a number does not go on with it. -/
def EndsNumber (rest : List Char) : Prop :=
  ∀ c ∈ rest.head?, c.isDigit = false ∧ c ≠ '.' ∧ c ≠ 'e' ∧ c ≠ 'E'

theorem readDigits_append {digits rest : List Char} (nonempty : digits ≠ [])
    (all : ∀ c ∈ digits, c.isDigit = true) (ends : EndsNumber rest) :
    readDigits (digits ++ rest) = some (digits, rest) := by
  have stops : rest.takeWhile Char.isDigit = [] ∧ rest.dropWhile Char.isDigit = rest := by
    cases rest with
    | nil => exact ⟨rfl, rfl⟩
    | cons c rest =>
      obtain ⟨noDigit, -⟩ := ends c rfl
      simp [noDigit]
  simp only [readDigits]
  rw [List.takeWhile_append_of_pos all, List.dropWhile_append_of_pos all, stops.1, stops.2,
    List.append_nil, List.isEmpty_eq_false_iff.mpr nonempty]
  rfl

theorem readFraction_of_ends {rest : List Char} (ends : EndsNumber rest) :
    readFraction rest = some ([], rest) := by
  unfold readFraction
  split
  · exact absurd rfl (ends '.' rfl).2.1
  · rfl

theorem readExponent_of_ends {rest : List Char} (ends : EndsNumber rest) :
    readExponent rest = some ([], rest) := by
  cases rest with
  | nil => rfl
  | cons c rest =>
    obtain ⟨-, -, lower, upper⟩ := ends c rfl
    simp [readExponent, lower, upper]

theorem readNumber_signed {sign : List Char} {n : Nat} {rest : List Char}
    (signs : sign = [] ∨ sign = ['-'] ∧ n ≠ 0) (ends : EndsNumber rest) :
    readNumber (sign ++ (Nat.toDigits 10 n ++ rest)) =
      some (.integer (if sign.isEmpty then n else -n), rest) := by
  have digits : ∀ c ∈ Nat.toDigits 10 n, c.isDigit = true :=
    fun c member => Nat.isDigit_of_mem_toDigits (by decide) (by decide) member
  have value : Decimal.digitsValue (Nat.toDigits 10 n) = n := by
    rw [digitsValue_eq, Nat.ofDigitChars_ten_toDigits]
  have unsigned : (Nat.toDigits 10 n ++ rest).takeWhile (· == '-') = [] := by
    obtain ⟨c, others, start⟩ := List.exists_cons_of_ne_nil (Nat.toDigits_ne_nil (b := 10) (n := n))
    have digit := digits c (start ▸ List.mem_cons_self)
    have notMinus : c ≠ '-' := by
      rintro rfl
      exact absurd digit (by decide)
    simp [start, notMinus]
  have own : (sign ++ (Nat.toDigits 10 n ++ rest)).takeWhile (· == '-') = sign := by
    rcases signs with rfl | ⟨rfl, -⟩
    · exact unsigned
    · simp [unsigned]
  have short : ¬ 1 < sign.length := by
    rcases signs with rfl | ⟨rfl, -⟩ <;> simp
  have noLeadingZero : ¬ ((Nat.toDigits 10 n).head? = some '0' ∧ Nat.toDigits 10 n ≠ ['0']) := by
    rintro ⟨zero, more⟩
    rw [(head_toDigits n).mp zero] at more
    exact more (Nat.toDigits_zero 10)
  have notNegativeZero : ¬ (sign = ['-'] ∧ Nat.toDigits 10 n = ['0']) := by
    rintro ⟨rfl, zero⟩
    rcases signs with unsigned | ⟨-, nonzero⟩
    · cases unsigned
    · exact nonzero ((head_toDigits n).mp (by rw [zero, List.head?_cons]))
  simp only [readNumber, own, if_neg short, List.drop_left, Option.bind_eq_bind,
    readDigits_append Nat.toDigits_ne_nil digits ends, Option.bind_some, if_neg noLeadingZero,
    readFraction_of_ends ends, readExponent_of_ends ends, value]
  have plain : (decide (sign = ['-']) && decide (Nat.toDigits 10 n = ['0'])) = false := by
    simpa using notNegativeZero
  simp [plain]

theorem toList_toString_ofNat (n : Nat) : (toString (Int.ofNat n)).toList = Nat.toDigits 10 n :=
  Nat.toList_repr

theorem toList_toString_negSucc (n : Nat) :
    (toString (Int.negSucc n)).toList = '-' :: Nat.toDigits 10 (n + 1) := by
  have joined : toString (Int.negSucc n) = "-" ++ (n + 1).repr := rfl
  rw [joined, String.toList_append, Nat.toList_repr]
  rfl

theorem readNumber_toString (n : Int) {rest : List Char} (ends : EndsNumber rest) :
    readNumber ((toString n).toList ++ rest) = some (.integer n, rest) := by
  cases n with
  | ofNat n =>
    rw [toList_toString_ofNat]
    exact readNumber_signed (.inl rfl) ends
  | negSucc n =>
    rw [toList_toString_negSucc]
    exact readNumber_signed (.inr ⟨rfl, Nat.succ_ne_zero n⟩) ends

/-- An integer starts with a digit or a minus sign. -/
theorem exists_head_toString (n : Int) :
    ∃ c rest, (toString n).toList = c :: rest ∧ (c.isDigit = true ∨ c = '-') := by
  cases n with
  | ofNat n =>
    obtain ⟨c, rest, start⟩ := List.exists_cons_of_ne_nil (Nat.toDigits_ne_nil (b := 10) (n := n))
    have digit : c.isDigit = true :=
      Nat.isDigit_of_mem_toDigits (by decide) (by decide) (start ▸ List.mem_cons_self)
    exact ⟨c, rest, (toList_toString_ofNat n).trans start, .inl digit⟩
  | negSucc n => exact ⟨'-', _, toList_toString_negSucc n, .inr rfl⟩

end DocOptions.Json
