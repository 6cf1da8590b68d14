import DocOptions.Json.Read
import DocOptions.Numeral.Radix
import DocOptions.Text.Reader

/-! Quoted strings of a document: with escapes or without, on one line or on several. -/

namespace DocOptions.Toml

open Reader

/-- Whether a character may stand in a string or a comment as it is. -/
def isPlain (c : Char) : Bool :=
  c == '\t' || (0x20 ≤ c.toNat && c.toNat != 0x7F)

def isInlineSpace (c : Char) : Bool :=
  c == ' ' || c == '\t'

/-- Takes a line break if one comes next. -/
def lineBreak? : Reader Bool := do
  if ← word? "\n" then return true else word? "\r\n"

def lineBreak : Reader Unit := do
  if ← lineBreak? then return () else failure

/-- Reads an escape after its backslash. -/
def readEscape : Reader Char := do
  let numbered (count : Nat) : Reader Char := do
    match charOfHex? (← takeExactly count (isDigitIn 16)) with
    | some c => return c
    | none => failure
  match ← next with
  | 'u' => numbered 4
  | 'U' => numbered 8
  | '/' => failure
  | c =>
    match Json.escape? c with
    | some c => return c
    | none => failure

/-- Reads a string with escapes after its opening quote. -/
def readBasic : Reader (List Char) :=
  many do
    match ← next with
    | '"' => return none
    | '\\' => return some (← readEscape)
    | c => if isPlain c then return some c else failure

/-- Reads a string without escapes after its opening quote. -/
def readLiteral : Reader (List Char) :=
  many do
    match ← next with
    | '\'' => return none
    | c => if isPlain c then return some c else failure

/-- Takes the break of a line that ends in a backslash, and all white space after it; without such a
break takes nothing. -/
def skipFolded : Reader Unit := do
  skipWhile isInlineSpace
  lineBreak
  let _ ← many do
    match ← takeWhile isInlineSpace with
    | _ :: _ => return some ()
    | [] => if ← lineBreak? then return some () else return none

/-- Reads quotes inside a string of several lines. Three of them end it, and up to two more before
those still belong to it. -/
def readQuotes (quote : Char) : Reader (List Char × Bool) := do
  let run ← takeWhile (· == quote)
  if run.length < 3 then return (run, false)
  else if run.length ≤ 5 then return (run.drop 3, true)
  else failure

/-- Reads a part of a string of several lines, with the information whether the string ends. -/
def readPart (quote : Char) (escapes : Bool) : Reader (List Char × Bool) := do
  if (← peek?) == some quote then readQuotes quote
  else if ← lineBreak? then return (['\n'], false)
  else
    let c ← next
    if escapes && c == '\\' then
      match ← option skipFolded with
      | some () => return ([], false)
      | none => return ([← readEscape], false)
    else if isPlain c then return ([c], false)
    else failure

/-- Reads parts up to the one that ends the string, at most `fuel` of them. -/
def readParts (quote : Char) (escapes : Bool) : Nat → Reader (List Char)
  | 0 => failure
  | fuel + 1 => do
    let (part, last) ← readPart quote escapes
    if last then return part else return part ++ (← readParts quote escapes fuel)

/-- Reads a string of several lines after its opening quotes. A line break right after them does not
belong to it. -/
def readLines (quote : Char) (escapes : Bool) : Reader (List Char) := do
  let _ ← lineBreak?
  readParts quote escapes ((← get).length + 1)

end DocOptions.Toml
