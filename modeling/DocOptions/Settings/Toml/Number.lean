import DocOptions.Numeral.Literal
import DocOptions.Numeral.Radix
import DocOptions.Settings.Tree
import DocOptions.Text.Reader

/-! Numbers of a document. Underscores may stand between digits. -/

namespace DocOptions.Toml

open Reader

/-- Reads digits of a radix, of which there is at least one, and leaves out the underscores between
them. -/
def readDigits (radix : Nat) : Reader (List Char) := do
  let first ← take (isDigitIn radix)
  let rest ← many do
    if ← word? "_" then return some (← take (isDigitIn radix))
    else
      match ← peek? with
      | some c => if isDigitIn radix c then return some (← next) else return none
      | none => return none
  return first :: rest

def isSign (c : Char) : Bool :=
  c == '+' || c == '-'

/-- Reads a decimal number with its sign. Zero is the only one whose digits start with a zero. -/
def readWhole : Reader (List Char) := do
  let sign ← option (take isSign)
  let digits ← readDigits 10
  if digits.head? = some '0' ∧ digits ≠ ['0'] then failure
  else return sign.toList ++ digits

def readExponent : Reader (List Char) := do
  let mark ← take fun c => c == 'e' || c == 'E'
  let sign ← option (take isSign)
  return mark :: sign.toList ++ (← readDigits 10)

def readFraction : Reader (List Char) := do
  char '.'
  return '.' :: (← readDigits 10)

/-- Reads a number with a fraction, an exponent or both. One beyond the greatest is refused. -/
def readFloat : Reader Setting := do
  let whole ← readWhole
  let fraction ← option readFraction
  let exponent ← option readExponent
  if fraction.isNone && exponent.isNone then failure
  else
    let literal := whole ++ fraction.getD [] ++ exponent.getD []
    match FloatFormat.binary64.read (String.ofList literal) with
    | .ok x => if x = .infinite false then failure else return .float x
    | .error _ => failure

/-- Reads a number that has a name. -/
def readNamedFloat : Reader Setting := do
  let sign ← option (take isSign)
  if ← word? "inf" then return .float (.infinite (sign = some '-'))
  else if ← word? "nan" then return .float .nan
  else failure

/-- Reads an integer of sixty-four bits. One of another radix has no sign. -/
def readInteger : Reader Setting := do
  let ofRadix (radix : Nat) : Reader Int := do
    match numberIn? radix (← readDigits radix) with
    | some n => return n
    | none => failure
  let n ←
    if ← word? "0x" then ofRadix 16
    else if ← word? "0o" then ofRadix 8
    else if ← word? "0b" then ofRadix 2
    else
      match IntKind.int64.read (String.ofList (← readWhole)) with
      | .ok n => return .integer n
      | .error _ => failure
  if n ≤ IntKind.int64.maximum then return .integer n else failure

def readNumber : Reader Setting :=
  readFloat <|> readNamedFloat <|> readInteger

end DocOptions.Toml
