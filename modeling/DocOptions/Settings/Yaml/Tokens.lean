import DocOptions.Settings.Yaml.Scalar

/-! Finding the tokens of YAML text. -/

namespace DocOptions.Yaml

/-- Whether a character may stand in an address. -/
def isUriChar (c : Char) : Bool :=
  isWordChar c || "#;/?:@&=+$,.!~*'()[]%".toList.contains c

/-- Whether a character may stand in a short tag. -/
def isTagChar (c : Char) : Bool :=
  isUriChar c && !isFlowMark c && c != '!'

/-- Takes the characters that meet a condition. -/
def takeRun (condition : Char → Bool) : Scanner (List Char) := do
  let scan ← get
  let run := scan.rest.takeWhile condition
  set (if run.isEmpty then scan else scan.skipSolid run.length)
  return run

/-- Skips blanks of either kind on a line. -/
def skipBlanks : Scanner Unit :=
  modify fun scan => scan.skip (scan.rest.takeWhile isBlank).length

/-- Reads the bytes of a character that are written as pairs of hexadecimal digits. -/
def readUriEscape : Scanner Char := do
  let byte : Scanner Nat := do
    let scan ← get
    match scan.rest with
    | '%' :: a :: b :: _ =>
      match numberIn? 16 [a, b] with
      | some n =>
        set (scan.skipSolid 3)
        return n
      | none => failure
    | _ => failure
  let first ← byte
  let more :=
    if first < 0x80 then some (0, first)
    else if 0xC0 ≤ first ∧ first < 0xE0 then some (1, first - 0xC0)
    else if 0xE0 ≤ first ∧ first < 0xF0 then some (2, first - 0xE0)
    else if 0xF0 ≤ first ∧ first < 0xF8 then some (3, first - 0xF0)
    else none
  let some (count, start) := more | failure
  let code ← (List.range count).foldlM (fun code _ => do
    let n ← byte
    if 0x80 ≤ n ∧ n < 0xC0 then return code * 0x40 + (n - 0x80) else failure) start
  if code.isValidChar then return Char.ofNat code else failure

/-- Reads characters of a tag, some of which may be escaped. -/
def readTagText (condition : Char → Bool) : Scanner (List Char) :=
  repeated do
    let scan ← get
    match scan.peek? with
    | some c =>
      if !condition c then return none
      else if c == '%' then return some (← readUriEscape)
      else
        set (scan.skipSolid 1)
        return some c
    | none => return none

/-- Reads the handle of a tag: an exclamation mark, or a word between two of them. Of a tag that is
no handle it reads the start. -/
def readTagHandle : Scanner (List Char) := do
  let scan ← get
  if scan.peek? == some '!' then
    set (scan.skipSolid 1)
    let word ← takeRun isWordChar
    let scan ← get
    if scan.peek? == some '!' then
      set (scan.skipSolid 1)
      return '!' :: word ++ ['!']
    else return '!' :: word
  else failure

def isHandle (handle : List Char) : Bool :=
  2 ≤ handle.length && handle.getLast? == some '!'

def readTag : Scanner Token := do
  let scan ← get
  let (handle, suffix) ←
    if scan.second? == some '<' then
      set (scan.skipSolid 2)
      let uri ← readTagText isUriChar
      let scan ← get
      if scan.peek? == some '>' then
        set (scan.skipSolid 1)
        pure ([], uri)
      else failure
    else
      let handle ← readTagHandle
      let suffix ← readTagText isTagChar
      if isHandle handle then pure (handle, suffix)
      else
        match handle.drop 1 ++ suffix with
        | [] => pure ([], ['!'])
        | name => pure (['!'], name)
  let scan ← get
  if separates scan.peek? || (scan.inFlow && scan.peek?.any isFlowMark) then
    return .tag (String.ofList handle) (String.ofList suffix)
  else failure

/-- Reads the name of an anchor after its mark. -/
def readAnchor : Scanner String := do
  modify (·.skipSolid 1)
  let name ← takeRun fun c => !isBlank c && !isBreak c && !isFlowMark c && c != '\uFEFF'
  if name.isEmpty then failure else return String.ofList name

/-- Reads what a directive says about the version of the language. -/
def readVersion : Scanner Token := do
  let number : Scanner Unit := do
    let digits ← takeRun Char.isDigit
    if digits.isEmpty || 9 < digits.length then failure
  skipBlanks
  number
  let scan ← get
  if scan.peek? == some '.' then
    set (scan.skipSolid 1)
    number
    return .version
  else failure

/-- Reads a directive that says what a handle stands for. -/
def readTagDirective : Scanner Token := do
  skipBlanks
  let handle ← readTagHandle
  if !isHandle handle && handle != ['!'] then failure
  skipBlanks
  let mark ← takeRun fun c => c == '!'
  if 1 < mark.length || (mark.isEmpty && !(← get).peek?.any isTagChar) then failure
  let rest ← readTagText isUriChar
  if separates (← get).peek? then
    return .tagDirective (String.ofList handle) (String.ofList (mark ++ rest))
  else failure

/-- Reads a directive with its line. One with an unknown name says nothing about the empty handle.
-/
def readDirective : Scanner Token := do
  modify (·.skipSolid 1)
  let name ← takeRun isWordChar
  if name.isEmpty || !separates (← get).peek? then failure
  let token ←
    match String.ofList name with
    | "YAML" => readVersion
    | "TAG" => readTagDirective
    | _ =>
      let _ ← takeRun (!isBreak ·)
      pure (.tagDirective "" "")
  let _ ← skipToLineEnd true
  let scan ← get
  if endsLine scan.peek? then
    set scan.skipBreak
    return token
  else failure

/-- Adds a token that has been read. -/
def push (token : Token) : Scanner Unit :=
  modify (·.push token)

/-- Adds a token that may be a key. -/
def pushNode (read : Scanner Token) (keyAllowed : Bool) : Scanner Unit := do
  saveKey
  setKeyAllowed keyAllowed
  push (← read)

/-- Adds an anchor or a tag. -/
def pushProperty (read : Scanner Token) : Scanner Unit := do
  let column := (← get).mark.column
  pushNode read false
  modify fun scan => { scan with propertyColumn := some column }

def fetchQuoted (quote : Char) : Scanner Unit := do
  saveKey
  setKeyAllowed false
  let token ← readQuoted quote
  skipToToken
  modify fun scan => { scan.push token with adjacentAt := scan.mark.index }

/-- How many flow collections may be open. -/
def greatestFlowLevel : Nat := 255

def fetchFlowStart (token : Token) (isMapping : Bool) : Scanner Unit := do
  saveKey
  modify Scan.rollNarrow
  let scan ← get
  if greatestFlowLevel ≤ scan.flowLevel then failure
  set { scan.skipSolid 1 with
    keys := .absent :: scan.keys
    keyAllowed := true
    flowMappingStarted := scan.flowMappingStarted || isMapping }
  let _ ← skipToLineEnd true
  push token

def fetchFlowEnd (token : Token) : Scanner Unit := do
  dropKey
  modify fun scan =>
    let scan := { scan with
      keys := if scan.inFlow then scan.keys.drop 1 else scan.keys, keyAllowed := false }
    scan.closePair.skipSolid 1
  let _ ← skipToLineEnd true
  modify fun scan =>
    let scan := if scan.inFlow then { scan with adjacentAt := scan.mark.index } else scan
    scan.push token

def fetchFlowEntry : Scanner Unit := do
  dropKey
  setKeyAllowed true
  modify (·.closePair.skipSolid 1)
  let _ ← skipToLineEnd true
  push .flowEntry

def fetchBlockEntry : Scanner Unit := do
  let scan ← get
  if scan.inFlow || !scan.keyAllowed then failure
  if scan.mark.column == 0 && scan.propertyColumn == some 0 && -1 < scan.indent then failure
  set ((scan.skipSolid 1).roll scan.mark.column none .blockSequenceStart)
  let (tabs, _) ← skipToLineEnd true
  let scan ← get
  if tabs && scan.peek? == some '-' && separates scan.second? then failure
  let _ ← skipToLineEnd false
  let scan ← get
  if scan.peek?.any fun c => isBreak c || isFlowMark c then set scan.rollNarrow
  dropKey
  setKeyAllowed true
  push .blockEntry

/-- Reads the mark of a key that need not be a simple one, and the white space after it. -/
def fetchKey : Scanner Unit := do
  let scan ← get
  if !scan.inFlow && !scan.keyAllowed then failure
  set (if scan.inFlow then { scan with flowMappingStarted := true }
    else scan.roll scan.mark.column none .blockMappingStart)
  dropKey
  setKeyAllowed !scan.inFlow
  modify (·.skipSolid 1)
  let before ← get
  let _ ← repeated do
    let scan ← get
    if scan.peek? == some '\t' then return none else skipBetween
  let scan ← get
  if scan.mark.index == before.mark.index then failure
  if scan.peek? == some '\t' then failure
  push .key

/-- Reads the colon of a value. What was noted as a possible key before it becomes one. -/
def fetchValue : Scanner Unit := do
  let start ← get
  let isPair := start.inFlow && !start.flowMappingStarted
  if isPair then set { start with pairIsOpen := true }
  modify (·.skipSolid 1)
  if (← get).peek? == some '\t' then
    let (_, spaces) ← skipToLineEnd true
    if !spaces && (← get).peek?.any fun c => isWordChar c then failure
  let key := start.keys.headD .absent
  if key.isPossible then
    modify (·.insertAt key.position .key)
    if isPair then
      if key.mark.line < start.mark.line then failure
      modify (·.insertAt key.position .flowMappingStart)
    modify fun scan =>
      let scan := (scan.roll key.mark.column (some key.position) .blockMappingStart).rollNarrow
      { scan with keys := .absent :: scan.keys.drop 1, keyAllowed := false }
  else
    if isPair then push .flowMappingStart
    if !start.inFlow then
      if !start.keyAllowed then failure
      modify (·.roll start.mark.column none .blockMappingStart)
    modify fun scan => { scan.rollNarrow with keyAllowed := !scan.inFlow }
  push .value

/-- Closes all blocks before a mark of a document. -/
def closeBlocks : Scanner Unit := do
  modify (·.unroll (-1))
  dropKey
  setKeyAllowed false

def fetchDocumentStart : Scanner Unit := do
  closeBlocks
  modify (·.skipSolid 3)
  push .documentStart

def fetchDocumentEnd : Scanner Unit := do
  closeBlocks
  modify (·.skipSolid 3)
  push .documentEnd
  let _ ← skipToLineEnd true
  if !endsLine (← get).peek? then failure

def fetchEnd : Scanner Unit := do
  if (← get).keys.any fun key => key.isPossible && key.isRequired then failure
  modify fun scan =>
    { scan with keys := scan.keys.map fun key => { key with isPossible := false } }
  closeBlocks

/-- Reads a token that starts with a character, which need not be at the start of a line. -/
def fetchAt (scan : Scan) (c : Char) : Scanner Unit := do
  let next := scan.second?
  match c with
  | '[' => fetchFlowStart .flowSequenceStart false
  | '\x7b' => fetchFlowStart .flowMappingStart true
  | ']' => fetchFlowEnd .flowSequenceEnd
  | '\x7d' => fetchFlowEnd .flowMappingEnd
  | ',' => fetchFlowEntry
  | '*' => pushNode (.alias <$> readAnchor) false
  | '&' => pushProperty (.anchor <$> readAnchor)
  | '!' => pushProperty readTag
  | '\'' => fetchQuoted '\''
  | '"' => fetchQuoted '"'
  | '%' => failure
  | '@' => failure
  | '\x60' => failure
  | '-' => if separates next then fetchBlockEntry else pushNode readPlain false
  | '?' => if separates next then fetchKey else pushNode readPlain false
  | ':' =>
    if separates next || (scan.inFlow &&
        (next.any isFlowMark || scan.mark.index == scan.adjacentAt)) then fetchValue
    else pushNode readPlain false
  | '|' => if scan.inFlow then pushNode readPlain false else pushNode (readBlock true) true
  | '>' => if scan.inFlow then pushNode readPlain false else pushNode (readBlock false) true
  | _ => pushNode readPlain false

/-- Reads one token with what it closes; none at the end. -/
def fetch : Scanner (Option Unit) := do
  skipToToken
  dropStaleKeys
  modify fun scan => scan.unroll scan.column
  let scan ← get
  match scan.peek? with
  | none =>
    fetchEnd
    return none
  | some c =>
    if scan.mark.column == 0 && c == '%' then
      closeBlocks
      push (← readDirective)
    else if scan.atMarker '-' then fetchDocumentStart
    else if scan.atMarker '.' then fetchDocumentEnd
    else if scan.column < scan.indent then failure
    else fetchAt scan c
    return some ()

/-- The tokens of a text. -/
def tokens? (text : List Char) : Option (List Token) :=
  ((do let _ ← repeated fetch : Scanner Unit).run (.start text)).map fun (_, scan) =>
    scan.tokens.toList

end DocOptions.Yaml
