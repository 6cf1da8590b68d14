import DocOptions.Text.Utf8

/-! Names as words of one letter case with a delimiter between them, such as `form-max-memory`. A
word ends where a lowercase letter meets an uppercase one, before the last letter of an acronym that
a lowercase letter follows, and after a digit that a letter follows. The rules look at ASCII alone;
other characters are kept. -/

namespace DocOptions.Naming

open Text

/-- How the words of a name are written. Next to the byte `ignored` no word ends, and the byte is
kept even where it would be a delimiter. -/
structure Style where
  delimiter : UInt8
  ignored : Option UInt8
  screaming : Bool

def spaceByte : UInt8 := 0x20

def isUpperByte (b : UInt8) : Bool :=
  0x41 ≤ b && b ≤ 0x5A

def isLowerByte (b : UInt8) : Bool :=
  0x61 ≤ b && b ≤ 0x7A

def isDigitByte (b : UInt8) : Bool :=
  0x30 ≤ b && b ≤ 0x39

namespace Style

/-- A letter in the case of the style. -/
def recase (style : Style) (b : UInt8) : UInt8 :=
  if isLowerByte b && style.screaming then b - 0x20
  else if isUpperByte b && !style.screaming then b + 0x20
  else b

/-- Whether a word ends between a byte and the next one, or just before the byte. -/
def isBoundary (b next : UInt8) : Bool :=
  (isUpperByte b && isLowerByte next) || (isLowerByte b && isUpperByte next) ||
    (isDigitByte b && (isUpperByte next || isLowerByte next))

/-- What is written for a byte between its neighbours; a space is not written by this. -/
def write (style : Style) (previous : Option UInt8) (b : UInt8) (next : Option UInt8) :
    List UInt8 :=
  let afterIgnored := style.ignored.isSome && previous == style.ignored
  if next.any (isBoundary b) && !afterIgnored then
    let acronym := isUpperByte b && next.any isLowerByte && previous.any isUpperByte
    (if acronym then [style.delimiter] else []) ++ [style.recase b] ++
      (if isLowerByte b || isDigitByte b then [style.delimiter] else [])
  else if (b == 0x5F || b == 0x2D) && style.ignored != some b then [style.delimiter]
  else [style.recase b]

/-- What is written for each space between words. -/
def space (style : Style) : UInt8 :=
  if style.ignored = some spaceByte then spaceByte else style.delimiter

/-- Writes the bytes of a name. Spaces are held back until a word follows; before the first word,
where `spaces` is none, they are dropped. -/
def writeAll (style : Style) (spaces : Option Nat) (previous : Option UInt8) :
    List UInt8 → List UInt8
  | [] => []
  | b :: rest =>
    if b = spaceByte then style.writeAll (spaces.map (· + 1)) (some b) rest
    else
      List.replicate (spaces.getD 0) style.space ++ style.write previous b rest.head? ++
        style.writeAll (some 0) (some b) rest

/-- A name in the style. A delimiter above ASCII is no character of its own and may come out as
replacement characters. -/
def apply (style : Style) (name : String) : String :=
  ofUtf8 (style.writeAll none none (utf8Bytes name))

def snake : Style := ⟨0x5F, none, false⟩

def screamingSnake : Style := ⟨0x5F, none, true⟩

def kebab : Style := ⟨0x2D, none, false⟩

def screamingKebab : Style := ⟨0x2D, none, true⟩

end Style
end DocOptions.Naming
