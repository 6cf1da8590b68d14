import DocOptions.Text.Reader

/-! Tokens of YAML text, and the state of the reader that finds them. Where blocks begin and end is
seen from columns, and that a token starts a key is often seen only behind it. -/

namespace DocOptions.Yaml

inductive Token
  | blockSequenceStart
  | blockMappingStart
  | blockEnd
  | blockEntry
  | flowSequenceStart
  | flowSequenceEnd
  | flowMappingStart
  | flowMappingEnd
  | flowEntry
  | key
  | value
  | alias (name : String)
  | anchor (name : String)
  | tag (handle suffix : String)
  | scalar (isPlain : Bool) (text : String)
  | documentStart
  | documentEnd
  | version
  | tagDirective (handle start : String)

/-- A place in a text. -/
structure Mark where
  index : Nat
  line : Nat
  column : Nat

/-- A token that is a key if a colon follows it on its line. -/
structure SimpleKey where
  /-- Whether it still may be a key. -/
  isPossible : Bool
  /-- Whether it has to be a key. -/
  isRequired : Bool
  /-- The number of tokens before it. -/
  position : Nat
  mark : Mark

def SimpleKey.absent : SimpleKey := ⟨false, false, 0, ⟨0, 0, 0⟩⟩

/-- An indentation that has been left for a deeper one. -/
structure Indentation where
  column : Int
  /-- Whether the deeper one is a block, which is closed by a token. -/
  startsBlock : Bool

/-- What has been found in a text, and what is left of it. -/
structure Scan where
  rest : List Char
  mark : Mark
  /-- Whether there are only blanks on the line so far. -/
  onlyBlanks : Bool
  tokens : Array Token
  /-- The column of the last token if it is an anchor or a tag. -/
  propertyColumn : Option Nat
  indent : Int
  indents : List Indentation
  /-- Whether a key may start here. -/
  keyAllowed : Bool
  /-- The possible key of each flow collection, the innermost first. -/
  keys : List SimpleKey
  /-- The place at which a colon needs no space behind it in a flow collection. -/
  adjacentAt : Nat
  flowMappingStarted : Bool
  /-- Whether a pair without braces is open in a flow sequence. -/
  pairIsOpen : Bool

abbrev Scanner (α : Type) := StateT Scan Option α

def isBlank (c : Char) : Bool :=
  c == ' ' || c == '\t'

def isBreak (c : Char) : Bool :=
  c == '\n' || c == '\r'

/-- Whether a line ends here; the end of the text ends one too. -/
def endsLine (c : Option Char) : Bool :=
  c.all isBreak

/-- Whether there is white space here or the text ends. -/
def separates (c : Option Char) : Bool :=
  c.all fun c => isBlank c || isBreak c

/-- The characters that belong to flow collections. -/
def isFlowMark (c : Char) : Bool :=
  c == ',' || c == '[' || c == ']' || c == '\x7b' || c == '\x7d'

def isWordChar (c : Char) : Bool :=
  c.isAlphanum || c == '_' || c == '-'

namespace Scan

def start (text : List Char) : Scan where
  rest := text
  mark := ⟨0, 0, 0⟩
  onlyBlanks := true
  tokens := #[]
  propertyColumn := none
  indent := -1
  indents := []
  keyAllowed := true
  keys := [.absent]
  adjacentAt := 0
  flowMappingStarted := false
  pairIsOpen := false

def column (scan : Scan) : Int :=
  scan.mark.column

/-- How many flow collections are open. -/
def flowLevel (scan : Scan) : Nat :=
  scan.keys.length - 1

def inFlow (scan : Scan) : Bool :=
  scan.flowLevel != 0

def peek? (scan : Scan) : Option Char :=
  scan.rest.head?

def second? (scan : Scan) : Option Char :=
  scan.rest[1]?

/-- Whether three marks stand at the start of a line, and nothing else before white space. -/
def atMarker (scan : Scan) (c : Char) : Bool :=
  scan.mark.column == 0 && scan.rest.take 3 == [c, c, c] && separates scan.rest[3]?

/-- Whether a document starts or ends here. -/
def atDocumentMarker (scan : Scan) : Bool :=
  scan.atMarker '-' || scan.atMarker '.'

/-- Leaves characters of a line behind. -/
def skip (scan : Scan) (count : Nat) : Scan :=
  { scan with
    rest := scan.rest.drop count
    mark := { scan.mark with
      index := scan.mark.index + count, column := scan.mark.column + count } }

/-- Leaves characters behind that are no blanks. -/
def skipSolid (scan : Scan) (count : Nat) : Scan :=
  { scan.skip count with onlyBlanks := false }

/-- Leaves a line break behind if there is one. -/
def skipBreak (scan : Scan) : Scan :=
  let count :=
    match scan.rest with
    | '\r' :: '\n' :: _ => 2
    | '\n' :: _ => 1
    | '\r' :: _ => 1
    | _ => 0
  if count = 0 then scan
  else
    { scan with
      rest := scan.rest.drop count
      mark := ⟨scan.mark.index + count, scan.mark.line + 1, 0⟩
      onlyBlanks := true }

def push (scan : Scan) (token : Token) : Scan :=
  { scan with tokens := scan.tokens.push token, propertyColumn := none }

/-- Puts a token before ones that have been found. -/
def insertAt (scan : Scan) (position : Nat) (token : Token) : Scan :=
  { scan with
    tokens := scan.tokens.extract 0 position ++ #[token] ++
      scan.tokens.extract position scan.tokens.size }

/-- Closes the blocks that lie deeper than a column. -/
def unroll (scan : Scan) (column : Int) : Scan :=
  if scan.inFlow then scan else go scan scan.indents
where
  go (scan : Scan) : List Indentation → Scan
    | [] => scan
    | left :: indents =>
      if column < scan.indent then
        let scan := { scan with indent := left.column, indents }
        go (if left.startsBlock then scan.push .blockEnd else scan) indents
      else scan

/-- Leaves the indentations that start no block. -/
def unrollNarrow (scan : Scan) : Scan :=
  go scan scan.indents
where
  go (scan : Scan) : List Indentation → Scan
    | [] => scan
    | left :: indents =>
      if left.startsBlock then scan
      else go { scan with indent := left.column, indents } indents

/-- Opens a block at a column that lies deeper than the ones that are open. Its token goes before
the token at `position`, or to the end. -/
def roll (scan : Scan) (column : Int) (position : Option Nat) (token : Token) : Scan :=
  if scan.inFlow then scan
  else
    let scan :=
      match scan.indents with
      | left :: indents =>
        if scan.indent ≤ column ∧ !left.startsBlock then
          { scan with indent := left.column, indents }
        else scan
      | [] => scan
    if scan.indent < column then
      let scan :=
        { scan with
          indents := ⟨scan.indent, true⟩ :: scan.indents
          indent := column }
      match position with
      | some position => scan.insertAt position token
      | none => scan.push token
    else scan

/-- Makes the indentation of a block one column deeper for its content. -/
def rollNarrow (scan : Scan) : Scan :=
  match scan.indents with
  | left :: _ =>
    if !scan.inFlow && left.startsBlock then
      { scan with
        indents := ⟨scan.indent, false⟩ :: scan.indents
        indent := scan.indent + 1 }
    else scan
  | [] => scan

/-- Closes a pair without braces in a flow sequence. -/
def closePair (scan : Scan) : Scan :=
  if scan.pairIsOpen then
    { scan.push .flowMappingEnd with pairIsOpen := false, flowMappingStarted := false }
  else scan

end Scan

/-- Gives up the possible key; it must not be one that has to be a key. -/
def dropKey : Scanner Unit := do
  let scan ← get
  match scan.keys with
  | key :: keys =>
    if key.isPossible && key.isRequired then failure
    else set { scan with keys := { key with isPossible := false } :: keys }
  | [] => failure

/-- Notes that the next token may be a key. -/
def saveKey : Scanner Unit := do
  let scan ← get
  if scan.keyAllowed then
    let startsBlock := (scan.indents.head?.map Indentation.startsBlock).getD false
    let isRequired := !scan.inFlow && scan.indent == scan.column && startsBlock
    dropKey
    let key := ⟨true, isRequired, scan.tokens.size, scan.mark⟩
    modify fun scan => { scan with keys := key :: scan.keys.drop 1 }

def setKeyAllowed (keyAllowed : Bool) : Scanner Unit :=
  modify fun scan => { scan with keyAllowed }

/-- Gives up the keys that lie on an earlier line or too far back. -/
def dropStaleKeys : Scanner Unit := do
  let scan ← get
  unless scan.inFlow do
    let isStale (key : SimpleKey) : Bool :=
      key.isPossible &&
        (key.mark.line < scan.mark.line || key.mark.index + 1024 < scan.mark.index)
    if scan.keys.any fun key => isStale key && key.isRequired then failure
    let keys := scan.keys.map fun key => { key with isPossible := key.isPossible && !isStale key }
    set { scan with keys }

/-- Skips blanks and a comment up to the end of a line, and tells whether there were tabs and
spaces. A comment needs a blank before it. -/
def skipToLineEnd (tabs : Bool) : Scanner (Bool × Bool) := do
  let scan ← get
  let run := scan.rest.takeWhile fun c => c == ' ' || (tabs && c == '\t')
  let scan := scan.skip run.length
  let comment := scan.rest.takeWhile (!isBreak ·)
  if comment.head? = some '#' then
    if run.isEmpty then failure
    set (scan.skipSolid comment.length)
  else set scan
  return (run.contains '\t', run.contains ' ')

/-- Skips one stretch of what may stand between tokens; false if there is none. A tab must not
indent the content of a block. -/
def skipBetween : Scanner (Option Unit) := do
  let scan ← get
  match scan.peek? with
  | some '\t' =>
    if !scan.indents.isEmpty && scan.onlyBlanks && scan.column < scan.indent then
      let _ ← skipToLineEnd true
      if endsLine (← get).peek? then return some () else failure
    else
      set (scan.skip 1)
      return some ()
  | some ' ' =>
    set (scan.skip 1)
    return some ()
  | some '#' =>
    set (scan.skipSolid (scan.rest.takeWhile (!isBreak ·)).length)
    return some ()
  | some c =>
    if isBreak c then
      set scan.skipBreak
      unless scan.inFlow do setKeyAllowed true
      return some ()
    else return none
  | none => return none

/-- Does steps until one does nothing. Each takes at least one character. -/
def repeated {α : Type} (step : Scanner (Option α)) : Scanner (List α) := do
  Reader.manyUpTo step ((← get).rest.length + 1)

def skipToToken : Scanner Unit := do
  let _ ← repeated skipBetween

end DocOptions.Yaml
