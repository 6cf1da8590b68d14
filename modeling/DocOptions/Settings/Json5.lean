import DocOptions.Json.Read
import DocOptions.Numeral.Radix
import DocOptions.Settings.Tree
import DocOptions.Text.Blank
import DocOptions.Text.Letter
import DocOptions.Text.Reader

/-! Settings from JSON5 text: JSON with comments, names without quotes, strings in single quotes,
commas after last items and more ways to write a number. -/

namespace DocOptions.Json5

open Reader

def isLineEnd (c : Char) : Bool :=
  c == '\n' || c == '\r' || c == '\u2028' || c == '\u2029'

/-- Whether a character is white space. The next line character is none here. -/
def isSpace (c : Char) : Bool :=
  c == '\uFEFF' || (Text.isBlank c && c != '\u0085')

/-- Skips white space and comments. -/
def skipBlank : Reader Unit := do
  let _ ← many do
    match ← takeWhile isSpace with
    | _ :: _ => return some ()
    | [] =>
      if ← word? "//" then
        skipWhile (!isLineEnd ·)
        return some ()
      else if ← word? "/*" then
        let _ ← many do if ← word? "*/" then return none else return some (← next)
        return some ()
      else return none

/-- Reads an escape after its backslash, as the numbers of its characters. An escape may give half
of a surrogate pair, and one of a line break gives nothing. -/
def readEscape : Reader (List Nat) := do
  let c ← next
  match c with
  | 'b' => return [0x08]
  | 'f' => return [0x0C]
  | 'n' => return [0x0A]
  | 'r' => return [0x0D]
  | 't' => return [0x09]
  | 'v' => return [0x0B]
  | '0' => return [0]
  | 'x' => return (numberIn? 16 (← takeExactly 2 (isDigitIn 16))).toList
  | 'u' => return (numberIn? 16 (← takeExactly 4 (isDigitIn 16))).toList
  | '\r' =>
    let _ ← word? "\n"
    return []
  | c =>
    if isLineEnd c then return []
    else if c.isDigit then failure
    else return [c.toNat]

def joinParts (parts : List (List Nat)) : Reader String := do
  match Json.joinUnits parts.flatten with
  | some chars => return String.ofList chars
  | none => failure

/-- Reads a string after its opening quote. -/
def readString (quote : Char) : Reader String := do
  let parts ← many do
    let c ← next
    if c = quote then return none
    else if c = '\\' then return some (← readEscape)
    else if isLineEnd c then failure
    else return some [c.toNat]
  joinParts parts

def startsName (c : Char) : Bool :=
  c == '$' || c == '_' || Text.isLetter c

def continuesName (c : Char) : Bool :=
  startsName c || Text.isIdentifierMark c || c == '\u200C' || c == '\u200D'

/-- Reads a character of a name without quotes; none where the name ends. -/
def readNamePart (allowed : Char → Bool) : Reader (Option (List Nat)) := do
  if ← word? "\\u" then return (numberIn? 16 (← takeExactly 4 (isDigitIn 16))).map ([·])
  else
    match ← peek? with
    | some c => if allowed c then return some [(← next).toNat] else return none
    | none => return none

def readKey : Reader String := do
  if ← word? "\"" then readString '"'
  else if ← word? "'" then readString '\''
  else
    match ← readNamePart startsName with
    | none => failure
    | some first => joinParts (first :: (← many (readNamePart continuesName)))

/-- Reads a number without its sign as it is written, unless it is hexadecimal. -/
def readDecimal : Reader (List Char) := do
  let whole ← takeWhile Char.isDigit
  if whole.head? = some '0' ∧ whole ≠ ['0'] then failure
  let point ← if ← word? "." then pure ['.'] else pure []
  let fraction ← if point.isEmpty then pure [] else takeWhile Char.isDigit
  if whole.isEmpty ∧ fraction.isEmpty then failure
  let exponent ← option do
    let mark ← take fun c => c == 'e' || c == 'E'
    let sign ← option (take fun c => c == '+' || c == '-')
    return mark :: sign.toList ++ (← takeSome Char.isDigit)
  return whole ++ point ++ fraction ++ exponent.getD []

/-- A decimal number: an integer of sixty-four bits, or a finite floating-point number if it has a
point or an exponent. -/
def decimal? (literal : List Char) : Option Setting :=
  let text := String.ofList literal
  if literal.any fun c => c == '.' || c == 'e' || c == 'E' then
    match FloatFormat.binary64.read text with
    | .ok (.finite negative significand offset) =>
      some (.float (.finite negative significand offset))
    | _ => none
  else (IntKind.int64.read text).toOption.map .integer

/-- Reads a number. Hexadecimal ones have no sign and thirty-two bits, and the names of numbers have
no plus sign. -/
def readNumber : Reader Setting := do
  let sign ← option (take fun c => c == '+' || c == '-')
  if (← word? "0x") || (← word? "0X") then
    match sign, numberIn? 16 (← takeWhile (isDigitIn 16)) with
    | none, some n => if n < Nat.pow 2 32 then return .integer n else failure
    | _, _ => failure
  else if ← word? "Infinity" then
    if sign = some '+' then failure else return .float (.infinite (sign = some '-'))
  else if ← word? "NaN" then
    if sign = some '+' then failure else return .float .nan
  else
    match decimal? (sign.toList ++ (← readDecimal)) with
    | some value => return value
    | none => failure

/-- Reads a value that is nested at most so deep. -/
def readValue (nesting : Nat) : Reader Setting := do
  if ← word? "null" then return .nothing
  else if ← word? "true" then return .bool true
  else if ← word? "false" then return .bool false
  else if ← word? "\"" then return .text (← readString '"')
  else if ← word? "'" then return .text (← readString '\'')
  else
    match nesting with
    | 0 => readNumber
    | nesting + 1 =>
      if ← word? "[" then return .list (← listed skipBlank ']' true (readValue nesting))
      else if ← word? "\x7b" then
        let members ← listed skipBlank '\x7d' true do
          let key ← readKey
          skipBlank
          char ':'
          skipBlank
          return (key, ← readValue nesting)
        return Setting.ofEntries members
      else readNumber

/-- Reads a text that holds one value. A level of nesting takes at least one character. -/
def read (text : String) : Option Setting :=
  readAll (do
    skipBlank
    let value ← readValue text.length
    skipBlank
    return value) text

end DocOptions.Json5
