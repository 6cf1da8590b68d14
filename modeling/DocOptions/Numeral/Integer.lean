/-! Integers of bounded kinds, read from decimal text. -/

namespace DocOptions

/-- The kinds of integer: signed or not, with a number of bits. -/
inductive IntKind
  | int8
  | int16
  | int32
  | int64
  | int
  | uint8
  | uint16
  | uint32
  | uint64
  | uint
  deriving DecidableEq

/-- Why a text does not denote a value of its kind. -/
inductive ConversionReason
  | emptyInteger
  | invalidDigit
  | tooLarge
  | tooSmall
  | emptyFloat
  | invalidFloat
  | invalidBool
  deriving DecidableEq

def ConversionReason.message : ConversionReason → String
  | .emptyInteger => "cannot parse integer from empty string"
  | .invalidDigit => "invalid digit found in string"
  | .tooLarge => "number too large to fit in target type"
  | .tooSmall => "number too small to fit in target type"
  | .emptyFloat => "cannot parse float from empty string"
  | .invalidFloat => "invalid float literal"
  | .invalidBool => "invalid syntax"

namespace IntKind

def isSigned : IntKind → Bool
  | int8 | int16 | int32 | int64 | int => true
  | uint8 | uint16 | uint32 | uint64 | uint => false

def bits : IntKind → Nat
  | int8 | uint8 => 8
  | int16 | uint16 => 16
  | int32 | uint32 => 32
  | int64 | uint64 | int | uint => 64

def minimum (k : IntKind) : Int :=
  if k.isSigned then -(Nat.pow 2 (k.bits - 1) : Nat) else 0

def maximum (k : IntKind) : Int :=
  if k.isSigned then Nat.pow 2 (k.bits - 1) - 1 else Nat.pow 2 k.bits - 1

/-- The value of a decimal digit of ASCII. -/
def digit? (c : Char) : Option Nat :=
  if c.isDigit then some (c.toNat - '0'.toNat) else none

/-- Reads digits after those of `n`, downwards for a negative number. The first character that is
no digit or takes the number out of its bounds decides. -/
def readDigits (k : IntKind) (negative : Bool) (n : Int) : List Char → Except ConversionReason Int
  | [] => .ok n
  | c :: rest =>
    match digit? c with
    | none => .error .invalidDigit
    | some d =>
      let next := if negative then n * 10 - d else n * 10 + d
      if next < k.minimum then .error .tooSmall
      else if k.maximum < next then .error .tooLarge
      else k.readDigits negative next rest

/-- Reads a number with at least one digit. -/
def readNumber (k : IntKind) (negative : Bool) (chars : List Char) : Except ConversionReason Int :=
  if chars.isEmpty then .error .invalidDigit else k.readDigits negative 0 chars

/-- Reads an optional sign and digits. A minus sign is one for signed kinds alone. -/
def read (k : IntKind) (text : String) : Except ConversionReason Int :=
  match text.toList with
  | [] => .error .emptyInteger
  | c :: rest =>
    if c = '+' then k.readNumber false rest
    else if c = '-' && k.isSigned then k.readNumber true rest
    else k.readNumber false (c :: rest)

end IntKind
end DocOptions
