import DocOptions.Numeral.Radix
import DocOptions.Settings.Tree
import DocOptions.Text.Blank
import DocOptions.Text.Reader

/-! Settings from sections of keys and values, as in `[output]` and `trace = on`. All values are
texts. -/

namespace DocOptions.Ini

open Reader

inductive Entry
  | comment
  | section (name : List Char)
  | property (key value : List Char)

/-- Reads an escape after its backslash; one before a line break stands for nothing. -/
def readEscape : Reader (List Char) := do
  match ← next with
  | '0' => return ['\x00']
  | 'a' => return ['\x07']
  | 'b' => return ['\x08']
  | 't' => return ['\t']
  | 'r' => return ['\r']
  | 'n' => return ['\n']
  | '\n' => return []
  | 'x' =>
    let digits ← takeExactly 4 fun _ => true
    let digits := if digits.head? = some '+' then digits.drop 1 else digits
    match charOfHex? digits with
    | some c => return [c]
    | none => failure
  | c => return [c]

/-- Reads up to a place to stop at, which is not taken. -/
def readUntil (stop : Option Char → Bool) : Reader (List Char) := do
  let parts ← many do
    if stop (← peek?) then return none
    else
      match ← next with
      | '\\' => return some (← readEscape)
      | c => return some [c]
  return parts.flatten

def isLineBreak (c : Char) : Bool :=
  c == '\n' || c == '\r'

def readLine : Reader (List Char) := do
  return Text.trimChars (← readUntil fun c => c.all isLineBreak)

/-- Reads a quoted value after its opening quote, and what follows on the line. -/
def readQuoted (quote : Char) : Reader (List Char) := do
  let quoted ← readUntil (· == some quote)
  char quote
  return quoted ++ (← readLine)

/-- Reads a value after the sign that follows its key. -/
def readValue : Reader (List Char) := do
  skipWhile fun c => Text.isBlank c && !isLineBreak c
  if ← word? "\"" then readQuoted '"'
  else if ← word? "'" then readQuoted '\''
  else readLine

/-- Reads a key, which may go over several lines, and its value. -/
def readProperty : Reader Entry := do
  let key := Text.trimChars (← readUntil fun c => c == some '=' || c == some ':')
  let _ ← next
  if key.isEmpty then failure
  else return .property key (← readValue)

/-- Reads an entry after blanks; none at the end. A comment has to start a line: `atStart` says
whether the text before the blanks does. -/
def readEntry (atStart : Bool) : Reader (Option Entry) := do
  let blanks ← takeWhile Text.isBlank
  let startsLine := if blanks.isEmpty then atStart else blanks.getLast? == some '\n'
  match ← peek? with
  | none => return none
  | some '[' =>
    let _ ← next
    let name ← readUntil (· == some ']')
    char ']'
    return some (.section (Text.trimChars name))
  | some c =>
    if c == ';' || c == '#' then
      if startsLine then
        skipWhile (· != '\n')
        return some .comment
      else failure
    else return some (← readProperty)

def readEntries : Reader (List Entry) := do
  match ← readEntry true with
  | none => return []
  | some first => return first :: (← many (readEntry false))

/-- Properties before the first section, and sections from the last one on. -/
structure Document where
  general : List (String × Setting)
  sections : List (String × List (String × Setting))

def Document.add (document : Document) : Entry → Document
  | .comment => document
  | .section name => { document with sections := (String.ofList name, []) :: document.sections }
  | .property key value =>
    let property := (String.ofList key, Setting.text (String.ofList value))
    match document.sections with
    | [] => { document with general := document.general ++ [property] }
    | (name, properties) :: before =>
      { document with sections := (name, properties ++ [property]) :: before }

/-- The table of a document. Of two sections with one name the second counts. -/
def Document.setting (document : Document) : Setting :=
  Setting.ofEntries (document.general ++ document.sections.reverse.map fun (name, properties) =>
    (name, Setting.ofEntries properties))

def read (text : String) : Option Setting :=
  (readAll readEntries text).map fun entries =>
    (entries.foldl Document.add ⟨[], []⟩).setting

end DocOptions.Ini
