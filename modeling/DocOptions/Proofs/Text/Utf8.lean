import DocOptions.Text.Utf8

/-! Texts are read back from their bytes. A character is told by the number of its first byte, and
each byte after it gives six more bits. -/

namespace DocOptions.Text

section

variable {b : UInt8} {u : Unfinished} {rest : List UInt8}

theorem toNat_ofNat_of_ascii {n : Nat} (ascii : n < 0x80) : (Char.ofNat n).toNat = n := by
  rw [Char.ofNat, dif_pos (.inl (Nat.lt_trans ascii (by decide)))]
  rfl

theorem Lead.ofByte_char (ascii : b.toNat < 0x80) :
    Lead.ofByte b = .char (Char.ofNat b.toNat) := by
  rw [Lead.ofByte, if_pos (UInt8.lt_iff_toNat_lt.mpr ascii)]

theorem Lead.ofByte_two (low : 0xC2 ≤ b.toNat) (high : b.toNat < 0xE0) :
    Lead.ofByte b = .unfinished ⟨1, 0x80, 0xBF, b.toNat - 0xC0⟩ := by
  simp only [Lead.ofByte, UInt8.lt_iff_toNat_lt, UInt8.reduceToNat]
  rw [if_neg (by omega), if_neg (by omega), if_pos high]

theorem Lead.ofByte_three (low : 0xE0 ≤ b.toNat) (high : b.toNat < 0xF0) :
    Lead.ofByte b = .unfinished ⟨2, if b.toNat = 0xE0 then 0xA0 else 0x80,
      if b.toNat = 0xED then 0x9F else 0xBF, b.toNat - 0xE0⟩ := by
  simp only [Lead.ofByte, UInt8.lt_iff_toNat_lt, ← UInt8.toNat_inj, UInt8.reduceToNat]
  rw [if_neg (by omega), if_neg (by omega), if_neg (by omega), if_pos high]

theorem Lead.ofByte_four (low : 0xF0 ≤ b.toNat) (high : b.toNat < 0xF5) :
    Lead.ofByte b = .unfinished ⟨3, if b.toNat = 0xF0 then 0x90 else 0x80,
      if b.toNat = 0xF4 then 0x8F else 0xBF, b.toNat - 0xF0⟩ := by
  simp only [Lead.ofByte, UInt8.lt_iff_toNat_lt, ← UInt8.toNat_inj, UInt8.reduceToNat]
  rw [if_neg (by omega), if_neg (by omega), if_neg (by omega), if_neg (by omega), if_pos high]

theorem readUtf8_char {c : Char} (starts : Lead.ofByte b = .char c) :
    readUtf8 none (b :: rest) = c :: readUtf8 none rest := by
  simp only [readUtf8, starts]

theorem readUtf8_unfinished (starts : Lead.ofByte b = .unfinished u) :
    readUtf8 none (b :: rest) = readUtf8 (some u) rest := by
  simp only [readUtf8, starts]

end

section

variable {missing bits n : Nat} {low high : UInt8} {rest : List UInt8}

theorem readUtf8_within {u : Unfinished} (least : u.low.toNat ≤ n + 128)
    (greatest : n + 128 ≤ u.high.toNat) :
    readUtf8 (some u) (.ofNat (n + 128) :: rest) =
      if u.missing ≤ 1 then Char.ofNat (u.bits * 64 + n) :: readUtf8 none rest
      else readUtf8 (some ⟨u.missing - 1, 0x80, 0xBF, u.bits * 64 + n⟩) rest := by
  have value : (UInt8.ofNat (n + 128)).toNat = n + 128 :=
    UInt8.toNat_ofNat_of_lt' (Nat.lt_of_le_of_lt greatest u.high.toNat_lt)
  have within : (u.low ≤ UInt8.ofNat (n + 128) && UInt8.ofNat (n + 128) ≤ u.high) = true := by
    simp only [UInt8.le_iff_toNat_le, value, least, greatest, decide_true, Bool.and_self]
  simp only [readUtf8, within, if_true, value, Nat.add_sub_cancel]

/-- A byte with others to follow gives six bits. -/
theorem readUtf8_next (least : low.toNat ≤ n + 128) (greatest : n + 128 ≤ high.toNat) :
    readUtf8 (some ⟨missing + 2, low, high, bits⟩) (.ofNat (n + 128) :: rest) =
      readUtf8 (some ⟨missing + 1, 0x80, 0xBF, bits * 64 + n⟩) rest := by
  rw [readUtf8_within least greatest]
  exact if_neg (by simp)

theorem readUtf8_last (small : n < 64) :
    readUtf8 (some ⟨1, 0x80, 0xBF, bits⟩) (.ofNat (n + 128) :: rest) =
      Char.ofNat (bits * 64 + n) :: readUtf8 none rest := by
  have least : 128 ≤ n + 128 := Nat.le_add_left 128 n
  have greatest : n + 128 ≤ 191 := by omega
  rw [readUtf8_within least greatest]
  exact if_pos (Nat.le_refl 1)

end

section

variable (c : Char) (rest : List UInt8)

theorem readUtf8_two (low : 0x80 ≤ c.toNat) (high : c.toNat < 0x800) :
    readUtf8 none (.ofNat (c.toNat / 64 % 32 + 192) :: .ofNat (c.toNat % 64 + 128) :: rest) =
      c :: readUtf8 none rest := by
  have first : (UInt8.ofNat (c.toNat / 64 % 32 + 192)).toNat = c.toNat / 64 % 32 + 192 :=
    UInt8.toNat_ofNat_of_lt' (show _ < 256 by omega)
  have bits : (c.toNat / 64 % 32 + 192 - 0xC0) * 64 + c.toNat % 64 = c.toNat := by omega
  rw [readUtf8_unfinished (Lead.ofByte_two (by omega) (by omega)), first,
    readUtf8_last (Nat.mod_lt _ (by decide)), bits, Char.ofNat_toNat]

/-- The second byte has the bounds that the first one sets: a shorter form would do below them, and
between them are no halves of surrogate pairs. -/
theorem readUtf8_three (low : 0x800 ≤ c.toNat) (high : c.toNat < 0x10000) :
    readUtf8 none (.ofNat (c.toNat / 4096 % 16 + 224) :: .ofNat (c.toNat / 64 % 64 + 128) ::
      .ofNat (c.toNat % 64 + 128) :: rest) = c :: readUtf8 none rest := by
  have first : (UInt8.ofNat (c.toNat / 4096 % 16 + 224)).toNat = c.toNat / 4096 % 16 + 224 :=
    UInt8.toNat_ofNat_of_lt' (show _ < 256 by omega)
  have noSurrogate : c.toNat < 0xD800 ∨ 0xE000 ≤ c.toNat := c.valid.imp id And.left
  have bits : ((c.toNat / 4096 % 16 + 224 - 0xE0) * 64 + c.toNat / 64 % 64) * 64 + c.toNat % 64 =
      c.toNat := by omega
  rw [readUtf8_unfinished (Lead.ofByte_three (by omega) (by omega)), first, readUtf8_next,
    readUtf8_last (Nat.mod_lt _ (by decide)), bits, Char.ofNat_toNat]
  · split <;> simp only [UInt8.reduceToNat] <;> omega
  · split <;> simp only [UInt8.reduceToNat] <;> omega

theorem readUtf8_four (low : 0x10000 ≤ c.toNat) :
    readUtf8 none (.ofNat (c.toNat / 262144 % 8 + 240) :: .ofNat (c.toNat / 4096 % 64 + 128) ::
      .ofNat (c.toNat / 64 % 64 + 128) :: .ofNat (c.toNat % 64 + 128) :: rest) =
        c :: readUtf8 none rest := by
  have high : c.toNat < 0x110000 := by
    rcases c.valid with below | within
    · exact Nat.lt_trans below (by decide)
    · exact within.2
  have first : (UInt8.ofNat (c.toNat / 262144 % 8 + 240)).toNat = c.toNat / 262144 % 8 + 240 :=
    UInt8.toNat_ofNat_of_lt' (show _ < 256 by omega)
  have bits : (((c.toNat / 262144 % 8 + 240 - 0xF0) * 64 + c.toNat / 4096 % 64) * 64 +
      c.toNat / 64 % 64) * 64 + c.toNat % 64 = c.toNat := by omega
  rw [readUtf8_unfinished (Lead.ofByte_four (by omega) (by omega)), first, readUtf8_next,
    readUtf8_next, readUtf8_last (Nat.mod_lt _ (by decide)), bits, Char.ofNat_toNat]
  · simp only [UInt8.reduceToNat]; omega
  · simp only [UInt8.reduceToNat]; omega
  · split <;> simp only [UInt8.reduceToNat] <;> omega
  · split <;> simp only [UInt8.reduceToNat] <;> omega

/-- The bytes of a character, by the number of them. -/
theorem utf8EncodeChar_cases :
    (c.toNat < 0x80 ∧ String.utf8EncodeChar c = [.ofNat c.toNat]) ∨
    (0x80 ≤ c.toNat ∧ c.toNat < 0x800 ∧ String.utf8EncodeChar c =
      [.ofNat (c.toNat / 64 % 32 + 192), .ofNat (c.toNat % 64 + 128)]) ∨
    (0x800 ≤ c.toNat ∧ c.toNat < 0x10000 ∧ String.utf8EncodeChar c =
      [.ofNat (c.toNat / 4096 % 16 + 224), .ofNat (c.toNat / 64 % 64 + 128),
        .ofNat (c.toNat % 64 + 128)]) ∨
    (0x10000 ≤ c.toNat ∧ String.utf8EncodeChar c =
      [.ofNat (c.toNat / 262144 % 8 + 240), .ofNat (c.toNat / 4096 % 64 + 128),
        .ofNat (c.toNat / 64 % 64 + 128), .ofNat (c.toNat % 64 + 128)]) := by
  simp only [String.utf8EncodeChar, show c.val.toNat = c.toNat from rfl]
  by_cases one : c.toNat ≤ 0x7F
  · exact .inl ⟨Nat.lt_succ_of_le one, if_pos one⟩
  · by_cases two : c.toNat ≤ 0x7FF
    · rw [if_neg one, if_pos two]
      exact .inr (.inl ⟨Nat.lt_of_not_le one, Nat.lt_succ_of_le two, rfl⟩)
    · by_cases three : c.toNat ≤ 0xFFFF
      · rw [if_neg one, if_neg two, if_pos three]
        exact .inr (.inr (.inl ⟨Nat.lt_of_not_le two, Nat.lt_succ_of_le three, rfl⟩))
      · rw [if_neg one, if_neg two, if_neg three]
        exact .inr (.inr (.inr ⟨Nat.lt_of_not_le three, rfl⟩))

theorem utf8EncodeChar_of_ascii (ascii : c.toNat < 0x80) :
    String.utf8EncodeChar c = [.ofNat c.toNat] := by
  rcases utf8EncodeChar_cases c with ⟨-, bytes⟩ | ⟨low, -⟩ | ⟨low, -⟩ | ⟨low, -⟩
  · exact bytes
  all_goals exact absurd ascii (by omega)

theorem le_of_mem_utf8EncodeChar {b : UInt8} (wide : 0x80 ≤ c.toNat)
    (inside : b ∈ String.utf8EncodeChar c) : 0x80 ≤ b.toNat := by
  have high {n lead : Nat} (more : 0x80 ≤ lead) (small : n + lead < 256) :
      0x80 ≤ (UInt8.ofNat (n + lead)).toNat := by
    rw [UInt8.toNat_ofNat_of_lt' small]
    omega
  rcases utf8EncodeChar_cases c with ⟨ascii, -⟩ | ⟨-, -, bytes⟩ | ⟨-, -, bytes⟩ | ⟨-, bytes⟩
  · omega
  · simp only [bytes, List.mem_cons, List.not_mem_nil, or_false] at inside
    rcases inside with rfl | rfl
    all_goals exact high (by decide) (by omega)
  · simp only [bytes, List.mem_cons, List.not_mem_nil, or_false] at inside
    rcases inside with rfl | rfl | rfl
    all_goals exact high (by decide) (by omega)
  · simp only [bytes, List.mem_cons, List.not_mem_nil, or_false] at inside
    rcases inside with rfl | rfl | rfl | rfl
    all_goals exact high (by decide) (by omega)

theorem utf8EncodeChar_ne_nil : String.utf8EncodeChar c ≠ [] := by
  rcases utf8EncodeChar_cases c with ⟨-, bytes⟩ | ⟨-, -, bytes⟩ | ⟨-, -, bytes⟩ | ⟨-, bytes⟩
  all_goals rw [bytes]; exact List.cons_ne_nil _ _

/-- The first character of a text is read from its bytes. -/
theorem readUtf8_utf8EncodeChar :
    readUtf8 none (String.utf8EncodeChar c ++ rest) = c :: readUtf8 none rest := by
  rcases utf8EncodeChar_cases c with ⟨ascii, bytes⟩ | ⟨low, high, bytes⟩ | ⟨low, high, bytes⟩ |
    ⟨low, bytes⟩
  · have value : (UInt8.ofNat c.toNat).toNat = c.toNat :=
      UInt8.toNat_ofNat_of_lt' (show _ < 256 by omega)
    have lead : Lead.ofByte (.ofNat c.toNat) = .char c := by
      rw [Lead.ofByte_char (by omega), value, Char.ofNat_toNat]
    rw [bytes]
    exact readUtf8_char lead
  · rw [bytes]
    exact readUtf8_two c rest low high
  · rw [bytes]
    exact readUtf8_three c rest low high
  · rw [bytes]
    exact readUtf8_four c rest low

end

theorem readUtf8_flatMap_utf8EncodeChar (chars : List Char) :
    readUtf8 none (chars.flatMap String.utf8EncodeChar) = chars := by
  induction chars with
  | nil => rfl
  | cons c rest ih => rw [List.flatMap_cons, readUtf8_utf8EncodeChar, ih]

theorem ofUtf8_flatMap_utf8EncodeChar (chars : List Char) :
    ofUtf8 (chars.flatMap String.utf8EncodeChar) = String.ofList chars :=
  congrArg String.ofList (readUtf8_flatMap_utf8EncodeChar chars)

/-- A text is read back from its bytes. -/
theorem ofUtf8_utf8Bytes (text : String) : ofUtf8 (utf8Bytes text) = text :=
  (ofUtf8_flatMap_utf8EncodeChar text.toList).trans String.ofList_toList

end DocOptions.Text
