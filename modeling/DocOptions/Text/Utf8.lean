/-! Texts as bytes in UTF-8. Bytes that are no UTF-8 are read too: each longest part that starts a
character but does not finish it is read as one replacement character. -/

namespace DocOptions.Text

/-- The bytes of a text. -/
def utf8Bytes (text : String) : List UInt8 :=
  text.toList.flatMap String.utf8EncodeChar

/-- A character whose first bytes were read: how many bytes are missing, the range of the next one,
and the bits so far. -/
structure Unfinished where
  missing : Nat
  low : UInt8
  high : UInt8
  bits : Nat

/-- What a byte starts when no character is unfinished. -/
inductive Lead
  | char (c : Char)
  | unfinished (u : Unfinished)
  | invalid

def Lead.ofByte (b : UInt8) : Lead :=
  if b < 0x80 then .char (Char.ofNat b.toNat)
  else if b < 0xC2 then .invalid
  else if b < 0xE0 then .unfinished ⟨1, 0x80, 0xBF, b.toNat - 0xC0⟩
  else if b < 0xF0 then
    .unfinished ⟨2, if b = 0xE0 then 0xA0 else 0x80, if b = 0xED then 0x9F else 0xBF,
      b.toNat - 0xE0⟩
  else if b < 0xF5 then
    .unfinished ⟨3, if b = 0xF0 then 0x90 else 0x80, if b = 0xF4 then 0x8F else 0xBF,
      b.toNat - 0xF0⟩
  else .invalid

/-- Stands for bytes that are no character. -/
def replacement : Char := '\uFFFD'

/-- Reads bytes after those of an unfinished character, if there is one. -/
def readUtf8 (unfinished : Option Unfinished) : List UInt8 → List Char
  | [] => if unfinished.isSome then [replacement] else []
  | b :: rest =>
    let fresh :=
      match Lead.ofByte b with
      | .char c => c :: readUtf8 none rest
      | .unfinished u => readUtf8 (some u) rest
      | .invalid => replacement :: readUtf8 none rest
    match unfinished with
    | none => fresh
    | some u =>
      if u.low ≤ b && b ≤ u.high then
        let bits := u.bits * 64 + (b.toNat - 0x80)
        if u.missing ≤ 1 then Char.ofNat bits :: readUtf8 none rest
        else readUtf8 (some ⟨u.missing - 1, 0x80, 0xBF, bits⟩) rest
      else replacement :: fresh

/-- The text of bytes, with replacement characters where they are no UTF-8. -/
def ofUtf8 (bytes : List UInt8) : String :=
  String.ofList (readUtf8 none bytes)

end DocOptions.Text
