import DocOptions.Numeral.Radix
import DocOptions.Settings.Yaml.Token

/-! Scalars of YAML text: plain ones, ones in quotes, and blocks of lines. Each goes over several
lines, whose breaks are folded or kept. -/

namespace DocOptions.Yaml

/-- White space that has been read inside a scalar and may belong to it. -/
structure Gap where
  /-- Blanks within a line, in reverse. -/
  blanks : List Char
  /-- Whether there was a line break. -/
  isBroken : Bool
  /-- The line breaks after the first one. -/
  more : Nat

namespace Gap

def empty : Gap := ⟨[], false, 0⟩

/-- What a gap between two lines stands for: its line breaks, of which a single one becomes a
space. -/
def foldedText (gap : Gap) : List Char :=
  if gap.isBroken && gap.more == 0 then [' '] else List.replicate gap.more '\n'

end Gap

/-- Reads the number of an escape. -/
def readNumbered (count : Nat) : Scanner Char := do
  let scan ← get
  let digits := scan.rest.take count
  if digits.length = count then
    match charOfHex? digits with
    | some c =>
      set (scan.skipSolid count)
      return c
    | none => failure
  else failure

/-- Reads an escape after its backslash. -/
def readEscape : Scanner Char := do
  let scan ← get
  let some c := scan.peek? | failure
  set (scan.skipSolid 1)
  match c with
  | '0' => return '\x00'
  | 'a' => return '\x07'
  | 'b' => return '\x08'
  | 't' => return '\t'
  | '\t' => return '\t'
  | 'n' => return '\n'
  | 'v' => return '\x0b'
  | 'f' => return '\x0c'
  | 'r' => return '\r'
  | 'e' => return '\x1b'
  | ' ' => return ' '
  | '"' => return '"'
  | '/' => return '/'
  | '\\' => return '\\'
  | 'N' => return '\u0085'
  | '_' => return '\u00a0'
  | 'L' => return '\u2028'
  | 'P' => return '\u2029'
  | 'x' => readNumbered 2
  | 'u' => readNumbered 4
  | 'U' => readNumbered 8
  | _ => failure

/-- Reads a character of a quoted scalar; none at white space and at the closing quote. An escaped
line break is left behind and gives no character. -/
def readQuotedChar (quote : Char) : Scanner (Option Char) := do
  let scan ← get
  match scan.rest with
  | [] => return none
  | c :: rest =>
    if isBlank c || isBreak c then return none
    else if c == quote then
      if quote == '\'' && rest.head? == some quote then
        set (scan.skipSolid 2)
        return some quote
      else return none
    else if c == '\\' && quote == '"' then
      if rest.head?.any isBreak then return none
      else
        set (scan.skipSolid 1)
        return some (← readEscape)
    else
      set (scan.skipSolid 1)
      return some c

/-- Reads white space inside a quoted scalar. `folded` tells whether a line ended before it. -/
def readQuotedGap (folded : Bool) (gap : Gap) : Nat → Scanner (Gap × Bool)
  | 0 => failure
  | fuel + 1 => do
    let scan ← get
    match scan.peek? with
    | some c =>
      if isBlank c then
        if folded then
          if c == '\t' && scan.column < scan.indent then failure
          set (scan.skip 1)
          readQuotedGap folded gap fuel
        else
          set (scan.skip 1)
          readQuotedGap folded { gap with blanks := c :: gap.blanks } fuel
      else if isBreak c then
        set scan.skipBreak
        if folded then readQuotedGap folded { gap with more := gap.more + 1 } fuel
        else readQuotedGap true { gap with blanks := [], isBroken := true } fuel
      else return (gap, folded)
    | none => return (gap, folded)

/-- Reads stretches of a quoted scalar with the white space between them up to the closing quote, at
most `fuel` of them. -/
def readQuotedParts (quote : Char) : Nat → Scanner (List Char)
  | 0 => failure
  | fuel + 1 => do
    let scan ← get
    if scan.atDocumentMarker || scan.rest.isEmpty || scan.column < scan.indent then failure
    let text ← repeated (readQuotedChar quote)
    let scan ← get
    let folded := quote == '"' && scan.peek? == some '\\'
    if folded then set (scan.skipSolid 1).skipBreak
    if (← get).peek? == some quote then return text
    let (gap, folded) ← readQuotedGap folded .empty ((← get).rest.length + 1)
    let space := if folded then gap.foldedText else gap.blanks.reverse
    return text ++ space ++ (← readQuotedParts quote fuel)

/-- Reads a quoted scalar. It may be followed by a comment, by a colon if it is a key, and by the
marks of a flow collection that it is in. -/
def readQuoted (quote : Char) : Scanner Token := do
  let start ← get
  set (start.skipSolid 1)
  let text ← readQuotedParts quote (start.rest.length + 1)
  modify (·.skipSolid 1)
  let _ ← skipToLineEnd true
  let scan ← get
  let isFollowed :=
    match scan.peek? with
    | none => true
    | some ':' => scan.inFlow || start.mark.line == scan.mark.line
    | some c => isBreak c || (scan.inFlow && (c == ',' || c == '\x7d' || c == ']'))
  if isFollowed then return .scalar false (String.ofList text) else failure

/-- Whether a plain scalar may go on with the next character, which is no white space. -/
def continuesPlain (scan : Scan) : Bool :=
  match scan.peek? with
  | some ':' => !separates scan.second? && !(scan.inFlow && scan.second?.any isFlowMark)
  | some c => !(scan.inFlow && isFlowMark c)
  | none => false

def readPlainChar : Scanner (Option Char) := do
  let scan ← get
  match scan.peek? with
  | some c =>
    if isBlank c || isBreak c || !continuesPlain scan then return none
    else
      set (scan.skipSolid 1)
      return some c
  | none => return none

/-- Reads white space inside a plain scalar. A tab must not stand where its lines are indented. -/
def readPlainGap (indent : Int) (gap : Gap) : Nat → Scanner Gap
  | 0 => failure
  | fuel + 1 => do
    let scan ← get
    match scan.peek? with
    | some c =>
      if isBlank c then
        if !scan.onlyBlanks then
          set (scan.skip 1)
          readPlainGap indent { gap with blanks := c :: gap.blanks } fuel
        else if scan.column < indent && c == '\t' then
          let _ ← skipToLineEnd true
          if endsLine (← get).peek? then readPlainGap indent gap fuel else failure
        else
          set (scan.skip 1)
          readPlainGap indent gap fuel
      else if isBreak c then
        set scan.skipBreak
        if scan.onlyBlanks then readPlainGap indent { gap with more := gap.more + 1 } fuel
        else readPlainGap indent { gap with blanks := [], isBroken := true } fuel
      else return gap
    | none => return gap

/-- Reads stretches of a plain scalar with the gaps between them, at most `fuel` of them. The gap
before a stretch is part of the scalar, the one after the last stretch is not. -/
def readPlainParts (indent : Int) (gap : Gap) : Nat → Scanner (List Char)
  | 0 => failure
  | fuel + 1 => do
    let scan ← get
    if scan.atDocumentMarker || scan.peek? == some '#' then return []
    if scan.inFlow && scan.peek? == some '-' && scan.second?.any isFlowMark then failure
    let stretch ← repeated readPlainChar
    let before :=
      if stretch.isEmpty then []
      else if scan.onlyBlanks then gap.foldedText
      else gap.blanks.reverse
    let scan ← get
    if scan.peek?.any fun c => isBlank c || isBreak c then
      let gap := if stretch.isEmpty then gap else .empty
      let gap ← readPlainGap indent gap (scan.rest.length + 1)
      let scan ← get
      if !scan.inFlow && scan.column < indent then return before ++ stretch
      else return before ++ stretch ++ (← readPlainParts indent gap fuel)
    else return before ++ stretch

def readPlain : Scanner Token := do
  modify Scan.unrollNarrow
  let scan ← get
  let indent := scan.indent + 1
  if scan.inFlow && scan.column < indent then failure
  let text ← readPlainParts indent .empty (scan.rest.length + 1)
  if (← get).onlyBlanks then setKeyAllowed true
  return .scalar true (String.ofList text)

/-- What becomes of the line breaks at the end of a block scalar: they are removed, all but the
first are, or they are kept. -/
inductive Chomping
  | strip
  | clip
  | keep
  deriving DecidableEq

def readChomping : Scanner (Option Chomping) := do
  let scan ← get
  match scan.peek? with
  | some '+' =>
    set (scan.skipSolid 1)
    return some .keep
  | some '-' =>
    set (scan.skipSolid 1)
    return some .strip
  | _ => return none

/-- Reads by how much a block is indented; it must not be zero. -/
def readIncrement : Scanner Nat := do
  let scan ← get
  match scan.peek?.bind (digitIn? 10) with
  | some 0 => failure
  | some n =>
    set (scan.skipSolid 1)
    return n
  | none => return 0

/-- Skips the spaces of an indentation and lines that have nothing else; gives the number of those
lines and the widest indentation. -/
def skipIndentation (limit : Option Nat) (breaks widest : Nat) : Nat → Scanner (Nat × Nat)
  | 0 => failure
  | fuel + 1 => do
    let scan ← get
    let spaces := scan.rest.takeWhile (· == ' ')
    let spaces := limit.elim spaces.length fun limit => min spaces.length (limit - scan.mark.column)
    let scan := scan.skip spaces
    let widest := max widest scan.mark.column
    if scan.peek?.any isBreak then
      set scan.skipBreak
      skipIndentation limit (breaks + 1) widest fuel
    else
      set scan
      return (breaks, widest)

def skipIndentations (limit : Option Nat) : Scanner (Nat × Nat) := do
  skipIndentation limit 0 0 ((← get).rest.length + 1)

/-- Reads the lines of a block scalar, at most `fuel` of them. `wasBroken` tells whether there was a
line before, `breaks` is the number of empty lines since then, and `wasBlank` whether it started
with a blank. Gives the text, whether its last line ended, and the number of empty lines after it.
-/
def readBlockLines (isLiteral : Bool) (indent : Nat) (wasBroken wasBlank : Bool) (breaks : Nat) :
    Nat → Scanner (List Char × Bool × Nat)
  | 0 => failure
  | fuel + 1 => do
    let scan ← get
    if scan.mark.column != indent || scan.rest.isEmpty || (indent == 0 && scan.atMarker '.') then
      return ([], wasBroken, breaks)
    let isBlankLine := scan.peek?.any isBlank
    let before :=
      if !isLiteral && wasBroken && !wasBlank && !isBlankLine then
        Gap.foldedText ⟨[], true, breaks⟩
      else List.replicate (breaks + if wasBroken then 1 else 0) '\n'
    let line := scan.rest.takeWhile (!isBreak ·)
    let scan := scan.skipSolid line.length
    set scan
    if scan.rest.isEmpty then return (before ++ line, false, 0)
    set scan.skipBreak
    let (breaks, _) ← skipIndentations (some indent)
    let (text, rest) ← readBlockLines isLiteral indent true isBlankLine breaks fuel
    return (before ++ line ++ text, rest)

/-- Reads a block scalar: its header, and the lines below that are indented deeply enough. Where the
text ends at the indentation of the block or behind it, a line ends there too. -/
def readBlock (isLiteral : Bool) : Scanner Token := do
  let start ← get
  set (start.skipSolid 1).unrollNarrow
  let first ← readChomping
  let increment ← readIncrement
  let second ← if first.isNone && increment != 0 then readChomping else pure none
  let chomping := (first.or second).getD .clip
  let _ ← skipToLineEnd true
  let scan ← get
  if !endsLine scan.peek? then failure
  let headerBreaks := if scan.peek?.isSome then 1 else 0
  let scan := scan.skipBreak
  if scan.peek? == some '\t' then failure
  set scan
  let base := scan.indent.toNat
  let (breaks, widest) ← skipIndentations (if increment = 0 then none else some (base + increment))
  let indent :=
    if increment ≠ 0 then base + increment
    else
      let found := max widest (scan.indent + 1).toNat
      if 0 < scan.indent then max found 1 else found
  let scan ← get
  if scan.rest.isEmpty then
    let count :=
      match chomping with
      | .strip => 0
      | .clip => headerBreaks
      | .keep => if breaks = 0 then headerBreaks else breaks
    let count := if scan.mark.line = start.mark.line then 0 else count
    return .scalar false (String.ofList (List.replicate count '\n'))
  if scan.mark.column < indent && scan.column > scan.indent then failure
  let (text, isBroken, more) ←
    readBlockLines isLiteral indent false false breaks (scan.rest.length + 1)
  let scan ← get
  let atEnd := scan.rest.isEmpty && max indent 1 ≤ scan.mark.column
  let ended := (if isBroken then 1 else 0) + (if atEnd then 1 else 0)
  let tail :=
    match chomping with
    | .strip => 0
    | .clip => ended
    | .keep => ended + more
  return .scalar false (String.ofList (text ++ List.replicate tail '\n'))

end DocOptions.Yaml
