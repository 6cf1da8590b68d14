import DocOptions.Settings.Toml.Moment
import DocOptions.Settings.Toml.Node
import DocOptions.Settings.Toml.Number
import DocOptions.Settings.Toml.Quoted

/-! Reading settings from TOML: tables with headers, arrays of tables, dotted keys, and values of
all kinds. -/

namespace DocOptions.Toml

open Reader

/-- Takes a comment if one comes next, and tells whether it did. -/
def comment? : Reader Bool := do
  if ← word? "#" then
    skipWhile isPlain
    return true
  else return false

/-- Takes what may follow on a line: a comment, and the line break unless the text ends. -/
def lineEnd : Reader Unit := do
  skipWhile isInlineSpace
  let _ ← comment?
  if (← peek?).isSome then lineBreak

/-- Skips white space, line breaks and comments. -/
def skipBlank : Reader Unit := do
  let _ ← many do
    match ← takeWhile isInlineSpace with
    | _ :: _ => return some ()
    | [] => if (← lineBreak?) || (← comment?) then return some () else return none

/-- Whether a character may stand in a key without quotes. -/
def isKeyChar (c : Char) : Bool :=
  c.isAlphanum || c == '_' || c == '-'

def readKeyPart : Reader String := do
  skipWhile isInlineSpace
  let part ←
    if ← word? "\"" then readBasic
    else if ← word? "'" then readLiteral
    else takeSome isKeyChar
  skipWhile isInlineSpace
  return String.ofList part

/-- Keys have fewer parts, and values fewer levels. -/
def depthLimit : Nat := 80

/-- Reads a key of one or more parts with dots between. -/
def readKey : Reader (List String) := do
  let first ← readKeyPart
  let rest ← many do
    if ← word? "." then return some (← readKeyPart) else return none
  if rest.length + 1 < depthLimit then return first :: rest else failure

/-- The table of key-value pairs that are written in braces. -/
def inlineTable (pairs : List (List String × Setting)) : Option Setting :=
  let entries := pairs.foldlM (fun entries (key, value) => Node.addValue value key entries) []
  entries.map fun entries => .table (Node.settings entries)

/-- Reads a value that is nested at most so deep. -/
def readValue (nesting : Nat) : Reader Setting := do
  if ← word? "\"\"\"" then return .text (String.ofList (← readLines '"' true))
  else if ← word? "'''" then return .text (String.ofList (← readLines '\'' false))
  else if ← word? "\"" then return .text (String.ofList (← readBasic))
  else if ← word? "'" then return .text (String.ofList (← readLiteral))
  else if ← word? "true" then return .bool true
  else if ← word? "false" then return .bool false
  else
    match nesting with
    | 0 => ((.text ∘ String.ofList) <$> readMoment) <|> readNumber
    | nesting + 1 =>
      if ← word? "[" then return .list (← listed skipBlank ']' true (readValue nesting))
      else if ← word? "\x7b" then
        let space := skipWhile isInlineSpace
        let pairs ← listed space '\x7d' false do
          let key ← readKey
          char '='
          space
          return (key, ← readValue nesting)
        match inlineTable pairs with
        | some table => return table
        | none => failure
      else ((.text ∘ String.ofList) <$> readMoment) <|> readNumber

/-- A line of a document that is not blank. -/
inductive Line
  | blank
  | table (header : List String)
  | nextTable (header : List String)
  | value (key : List String) (setting : Setting)

/-- Reads a line; none at the end of the text. -/
def readLine : Reader (Option Line) := do
  let start ← get
  skipWhile isInlineSpace
  match ← peek? with
  | none => if start.isEmpty then return none else return some .blank
  | some c =>
    let line ←
      if c == '#' || c == '\n' || c == '\r' then pure .blank
      else if ← word? "[[" then
        let header ← readKey
        word "]]"
        pure (.nextTable header)
      else if ← word? "[" then
        let header ← readKey
        char ']'
        pure (.table header)
      else
        let key ← readKey
        char '='
        skipWhile isInlineSpace
        pure (.value key (← readValue (depthLimit - 1)))
    lineEnd
    return some line

/-- A document that is read so far, and the header that values belong to. -/
structure Progress where
  header : List String
  entries : Entries

def Progress.add (progress : Progress) : Line → Option Progress
  | .blank => some progress
  | .value key setting =>
    (Node.atHeader (Node.addValue setting key) progress.header progress.entries).map fun entries =>
      { progress with entries }
  | .table header => do
    let key ← header.getLast?
    return ⟨header, ← Node.atHeader (Node.openTable key) header.dropLast progress.entries⟩
  | .nextTable header => do
    let key ← header.getLast?
    return ⟨header, ← Node.atHeader (Node.openNext key) header.dropLast progress.entries⟩

/-- The table of a document. A byte order mark may come first. -/
def read (text : String) : Option Setting := do
  let lines ← readAll (do
    let _ ← word? "\uFEFF"
    many readLine) text
  let progress ← lines.foldlM Progress.add ⟨[], []⟩
  return .table (Node.settings progress.entries)

end DocOptions.Toml
