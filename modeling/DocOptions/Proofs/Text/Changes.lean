import DocOptions.Proofs.Text.Utf8
import Mathlib.Data.List.Basic

/-! Changes of single characters, on a text and on its bytes. -/

namespace DocOptions.Text

theorem chars_inj {first second : List Char}
    (same : first.flatMap String.utf8EncodeChar = second.flatMap String.utf8EncodeChar) :
    first = second := by
  rw [← readUtf8_flatMap_utf8EncodeChar first, same, readUtf8_flatMap_utf8EncodeChar]

theorem utf8EncodeChar_ofNat {n : Nat} (ascii : n < 0x80) :
    String.utf8EncodeChar (.ofNat n) = [.ofNat n] := by
  have value : (Char.ofNat n).toNat = n := toNat_ofNat_of_ascii ascii
  rw [utf8EncodeChar_of_ascii _ (by omega), value]

/-- A change of characters and a change of bytes that do the same below 0x80 and nothing above. -/
structure Agree (ofChars : Char → Option Char) (ofBytes : UInt8 → Option UInt8) : Prop where
  ascii : ∀ n < 0x80,
    (ofChars (.ofNat n)).toList.flatMap String.utf8EncodeChar = (ofBytes (.ofNat n)).toList
  wideChar : ∀ c : Char, 0x80 ≤ c.toNat → ofChars c = some c
  wideByte : ∀ b : UInt8, 0x80 ≤ b.toNat → ofBytes b = some b

namespace Agree

variable {ofChars : Char → Option Char} {ofBytes : UInt8 → Option UInt8}

theorem char (agree : Agree ofChars ofBytes) (c : Char) :
    (ofChars c).toList.flatMap String.utf8EncodeChar =
      (String.utf8EncodeChar c).filterMap ofBytes := by
  rw [List.filterMap_eq_flatMap_toList]
  by_cases ascii : c.toNat < 0x80
  · have own := agree.ascii c.toNat ascii
    rwa [Char.ofNat_toNat, ← List.flatMap_singleton (fun b => (ofBytes b).toList),
      ← utf8EncodeChar_of_ascii c ascii] at own
  · have wide : 0x80 ≤ c.toNat := Nat.le_of_not_lt ascii
    have kept : ∀ b ∈ String.utf8EncodeChar c, (ofBytes b).toList = [b] := fun b inside => by
      rw [agree.wideByte b (le_of_mem_utf8EncodeChar c wide inside), Option.toList_some]
    rw [agree.wideChar c wide, Option.toList_some, List.flatMap_singleton, List.flatMap_congr kept,
      List.flatMap_singleton']

/-- What is done to the characters of a text is done to its bytes. -/
theorem filterMap (agree : Agree ofChars ofBytes) (chars : List Char) :
    (chars.filterMap ofChars).flatMap String.utf8EncodeChar =
      (chars.flatMap String.utf8EncodeChar).filterMap ofBytes := by
  induction chars with
  | nil => rfl
  | cons c rest ih =>
    have first : (c :: rest).filterMap ofChars = (ofChars c).toList ++ rest.filterMap ofChars := by
      cases made : ofChars c with
      | none => exact List.filterMap_cons_none made
      | some d => exact List.filterMap_cons_some made
    rw [first, List.flatMap_append, List.flatMap_cons, List.filterMap_append, agree.char, ih]

theorem map {ofChar : Char → Char} {ofByte : UInt8 → UInt8}
    (agree : Agree (some ∘ ofChar) (some ∘ ofByte)) (text : String) :
    utf8Bytes (text.map ofChar) = (utf8Bytes text).map ofByte := by
  have own := agree.filterMap text.toList
  rwa [List.filterMap_eq_map, List.filterMap_eq_map, ← String.toList_map] at own

section

variable {mark : UInt8} (ascii : mark.toNat < 0x80)

include ascii

theorem ofNat_eq_mark {n : Nat} (small : n < 0x80) :
    UInt8.ofNat n = mark ↔ Char.ofNat n = .ofNat mark.toNat := by
  rw [← Char.toNat_inj, toNat_ofNat_of_ascii small, toNat_ofNat_of_ascii ascii, ← UInt8.toNat_inj,
    UInt8.toNat_ofNat_of_lt' (show _ < 256 by omega)]

theorem ne_mark_of_wide {c : Char} (wide : 0x80 ≤ c.toNat) : c ≠ .ofNat mark.toNat := by
  rintro rfl
  rw [toNat_ofNat_of_ascii ascii] at wide
  omega

theorem byte_ne_mark_of_wide {b : UInt8} (wide : 0x80 ≤ b.toNat) : b ≠ mark := by
  rintro rfl
  omega

/-- Another character in place of the mark. -/
theorem replace {other : UInt8} (otherAscii : other.toNat < 0x80) :
    Agree (some ∘ fun c => if c = .ofNat mark.toNat then .ofNat other.toNat else c)
      (some ∘ fun b => if b = mark then other else b) where
  ascii n small := by
    simp only [Function.comp_apply, Option.toList_some, List.flatMap_singleton,
      ofNat_eq_mark ascii small]
    split
    · rw [utf8EncodeChar_ofNat otherAscii, UInt8.ofNat_toNat]
    · exact utf8EncodeChar_ofNat small
  wideChar c wide := congrArg some (if_neg (ne_mark_of_wide ascii wide))
  wideByte b wide := congrArg some (if_neg (byte_ne_mark_of_wide ascii wide))

theorem without : Agree (Option.guard (· != .ofNat mark.toNat)) (Option.guard (· != mark)) where
  ascii n small := by
    have same : (Char.ofNat n != .ofNat mark.toNat) = (UInt8.ofNat n != mark) := by
      rw [Bool.eq_iff_iff, bne_iff_ne, bne_iff_ne, ne_eq, ne_eq, ofNat_eq_mark ascii small]
    rw [Option.guard, Option.guard, same]
    split
    · rw [Option.toList_some, List.flatMap_singleton, utf8EncodeChar_ofNat small,
        Option.toList_some]
    · rfl
  wideChar c wide := if_pos (bne_iff_ne.mpr (ne_mark_of_wide ascii wide))
  wideByte b wide := if_pos (bne_iff_ne.mpr (byte_ne_mark_of_wide ascii wide))

end

/-- A mark is left out of a text where its byte is left out of the bytes. -/
theorem filter (mark : UInt8) (ascii : mark.toNat < 0x80) (chars : List Char) :
    (chars.filter (· != .ofNat mark.toNat)).flatMap String.utf8EncodeChar =
      (chars.flatMap String.utf8EncodeChar).filter (· != mark) := by
  rw [← List.filterMap_eq_filter, ← List.filterMap_eq_filter]
  exact (without ascii).filterMap chars

end Agree

end DocOptions.Text
