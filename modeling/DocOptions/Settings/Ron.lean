import DocOptions.Numeral.Literal
import DocOptions.Numeral.Radix
import DocOptions.Settings.Tree
import DocOptions.Text.Reader

/-! Settings from object notation with named records, as in `Config(output: (trace: true))`. Records
and maps are tables, lists and tuples are lists. -/

namespace DocOptions.Ron

open Reader

def isSpace (c : Char) : Bool :=
  c == ' ' || c == '\t' || c == '\n' || c == '\r'

/-- Skips the rest of a comment whose openings and closings are nested. -/
def skipNested : Nat → List Char → Option (List Char)
  | _, [] => none
  | _, [_] => none
  | level, c :: d :: rest =>
    if c = '*' ∧ d = '/' then
      match level with
      | 0 => some rest
      | level + 1 => skipNested level rest
    else if c = '/' ∧ d = '*' then skipNested (level + 1) rest
    else skipNested level (d :: rest)

/-- Skips white space and comments. -/
def skipBlank : Reader Unit := do
  let _ ← many do
    match ← takeWhile isSpace with
    | _ :: _ => return some ()
    | [] =>
      if ← word? "//" then
        skipWhile (· != '\n')
        return some ()
      else if ← word? "/*" then
        match skipNested 0 (← get) with
        | some rest =>
          set rest
          return some ()
        | none => failure
      else return none

def startsName (c : Char) : Bool :=
  c.isAlpha || c == '_'

def continuesName (c : Char) : Bool :=
  c.isAlphanum || c == '_'

/-- Whether a character may be in a name that is marked as one by `r#`. -/
def isRawNameChar (c : Char) : Bool :=
  continuesName c || c == '.' || c == '+' || c == '-'

/-- Reads a name, which must not look like the start of a raw string. -/
def readName : Reader (List Char) := do
  if ← word? "r\"" then failure
  else if ← word? "r#" then takeSome isRawNameChar
  else
    match ← peek? with
    | some c =>
      if startsName c then
        let name ← takeWhile continuesName
        match ← peek? with
        | some d => if isRawNameChar d then failure else return name
        | none => return name
      else failure
    | none => failure

/-- Takes a name of its own if it comes next. -/
def name? (name : String) : Reader Bool := do
  let taken ← option do
    word name
    match ← peek? with
    | some c => if continuesName c then failure else return ()
    | none => return ()
  return taken.isSome

/-- Reads an escape after its backslash. -/
def readEscape : Reader Char := do
  let digits ←
    match ← next with
    | '\'' => return '\''
    | '"' => return '"'
    | '\\' => return '\\'
    | 'n' => return '\n'
    | 'r' => return '\r'
    | 't' => return '\t'
    | '0' => return '\x00'
    | 'x' => takeExactly 2 (isDigitIn 16)
    | 'u' =>
      char '\x7b'
      let digits ← takeSome (isDigitIn 16)
      char '\x7d'
      if digits.length ≤ 6 then pure digits else failure
    | _ => failure
  match charOfHex? digits with
  | some c => return c
  | none => failure

/-- Reads a string after its opening quote. -/
def readString : Reader (List Char) :=
  many do
    match ← next with
    | '"' => return none
    | '\\' => return some (← readEscape)
    | c => return some c

/-- Reads a string without escapes after the letter that marks it. It ends at a quote with as many
hashes as it began with. -/
def readRawString : Reader (List Char) := do
  let hashes ← takeWhile (· == '#')
  char '"'
  let close := String.ofList ('"' :: hashes)
  many do if ← word? close then return none else return some (← next)

def readChar : Reader Char := do
  let c ← next
  let c ← if c = '\\' then readEscape else pure c
  char '\''
  return c

/-- The digits of a run in which underscores may stand after digits; points ask for a digit next. -/
def withoutUnderscores (allowed : Bool) : List Char → Option (List Char)
  | [] => some []
  | c :: rest =>
    if c = '_' then if allowed then withoutUnderscores true rest else none
    else (withoutUnderscores (c != '.' && (allowed || c.isAlphanum)) rest).map (c :: ·)

def isFloatChar (c : Char) : Bool :=
  c.isDigit || c == 'e' || c == 'E' || c == '.' || c == '+' || c == '-' || c == '_'

def readFloat : Reader Setting := do
  let run ← takeSome isFloatChar
  match withoutUnderscores false run with
  | none => failure
  | some digits =>
    match FloatFormat.binary64.read (String.ofList digits) with
    | .ok x => return .float x
    | .error _ => failure

/-- Reads digits after the mark of their radix. -/
def readDigits : Reader Nat := do
  let radix ←
    if ← word? "0x" then pure 16
    else if ← word? "0o" then pure 8
    else if ← word? "0b" then pure 2
    else pure 10
  let run ← takeSome fun c => isDigitIn 16 c || c == '_'
  if run.head? = some '_' then failure
  else
    match numberIn? radix (run.filter (· != '_')) with
    | some n => return n
    | none => failure

/-- Reads an integer: sixty-four bits with a sign, or as many without one. Integers that are too
large to have a sign become floating-point numbers. -/
def readInteger : Reader Setting := do
  let sign ← option (take fun c => c == '+' || c == '-')
  let n ← readDigits
  let value : Int := if sign = some '-' then -n else n
  if IntKind.int64.minimum ≤ value ∧ value ≤ IntKind.int64.maximum then return .integer value
  else if sign = none ∧ n < Nat.pow 2 64 then
    return .float (FloatFormat.binary64.round false n 1)
  else failure

/-- Reads a number. One with a point or a sign among its digits is no integer. -/
def readNumber : Reader Setting := do
  let negative ← option (word "-inf")
  if negative.isSome then return .float (.infinite true)
  else if ← word? "+inf" then return .float (.infinite false)
  else if (← word? "+NaN") || (← word? "-NaN") then return .float .nan
  else
    let chars ← get
    let unsigned := if chars.head? = some '-' ∨ chars.head? = some '+' then chars.drop 1 else chars
    let floatRun := unsigned.takeWhile isFloatChar
    let digitRun := unsigned.takeWhile fun c => isDigitIn 16 c || c == '_'
    if digitRun.length < floatRun.length then readFloat else readInteger <|> readFloat

def readMapped (nesting : Reader Setting) (key : Reader String) : Reader (String × Setting) := do
  let key ← key
  skipBlank
  char ':'
  skipBlank
  return (key, ← nesting)

/-- Reads the fields of a record or the items of a tuple after its opening bracket. It is a record
if a name with a colon comes first. -/
def readGroup (value : Reader Setting) : Reader Setting := do
  skipBlank
  let start ← get
  let named ← option do
    let _ ← readName
    skipBlank
    char ':'
  set start
  if named.isSome then
    let fields ← listed skipBlank ')' true (readMapped value (String.ofList <$> readName))
    return Setting.ofEntries fields
  else return .list (← listed skipBlank ')' true value)

/-- A key of a map: a text. -/
def keyText (key : Setting) : Reader String :=
  match key with
  | .text key => return key
  | _ => failure

/-- Reads a value that is nested at most so deep. -/
def readValue (nesting : Nat) : Reader Setting := do
  if ← name? "true" then return .bool true
  else if ← name? "false" then return .bool false
  else if ← name? "None" then return .nothing
  else if ← word? "()" then return .nothing
  else if ← name? "inf" then return .float (.infinite false)
  else if ← name? "NaN" then return .float .nan
  else if ← word? "'" then return .text (String.ofList [← readChar])
  else if ← word? "\"" then return .text (String.ofList (← readString))
  else
    match nesting with
    | 0 => readNumber
    | nesting + 1 =>
      let value := readValue nesting
      if ← name? "Some" then
        skipBlank
        char '('
        skipBlank
        let value ← value
        skipBlank
        let _ ← word? ","
        skipBlank
        char ')'
        return value
      else if ← word? "[" then return .list (← listed skipBlank ']' true value)
      else if ← word? "\x7b" then
        let key := do keyText (← value)
        return Setting.ofEntries (← listed skipBlank '\x7d' true (readMapped value key))
      else if ← word? "(" then readGroup value
      else
        match ← option readName with
        | some _ =>
          skipBlank
          if ← word? "(" then readGroup value else return .nothing
        | none =>
          if ← word? "r" then return .text (String.ofList (← readRawString)) else readNumber

def extensions : List String :=
  ["unwrap_newtypes", "implicit_some", "unwrap_variant_newtypes"]

/-- Reads a line that enables extensions, none of which changes how settings are read. -/
def readExtensions : Reader (Option Unit) := do
  if (← peek?) == some '#' then
    for part in ["#", "!", "[", "enable", "("] do
      word part
      skipBlank
    let names ← listed skipBlank ')' true (String.ofList <$> readName)
    skipBlank
    char ']'
    skipBlank
    if names.isEmpty || !names.all (· ∈ extensions) then failure else return some ()
  else return none

/-- How deep values may be nested. -/
def greatestNesting : Nat := 128

/-- Reads a text that holds one value. -/
def read (text : String) : Option Setting :=
  readAll (do
    skipBlank
    let _ ← many readExtensions
    let value ← readValue greatestNesting
    skipBlank
    return value) text

end DocOptions.Ron
