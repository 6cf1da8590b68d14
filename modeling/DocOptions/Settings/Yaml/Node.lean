import DocOptions.Numeral.Literal
import DocOptions.Numeral.Radix
import DocOptions.Settings.Tree
import DocOptions.Settings.Yaml.Tokens

/-! Settings from YAML text. Plain scalars are typed by their spelling or by a tag; others are
texts. -/

namespace DocOptions.Yaml

/-- A scalar. A floating-point number is kept as it is written. -/
inductive Scalar
  | nothing
  | bool (b : Bool)
  | integer (n : Int)
  | real (literal : String)
  | text (s : String)
  deriving DecidableEq

inductive Node
  | scalar (s : Scalar)
  | list (items : List Node)
  | table (entries : List (Scalar × Node))

namespace Scalar

/-- An integer of sixty-four bits in the digits of a radix, perhaps with a sign. -/
def integerIn? (radix : Nat) (chars : List Char) : Option Int := do
  let (negative, digits) :=
    match chars with
    | '-' :: digits => (true, digits)
    | '+' :: digits => (false, digits)
    | digits => (false, digits)
  let n ← numberIn? radix digits
  let value : Int := if negative then -n else n
  if IntKind.int64.minimum ≤ value ∧ value ≤ IntKind.int64.maximum then some value else none

def namedReals : List String :=
  [".inf", ".Inf", ".INF", "+.inf", "+.Inf", "+.INF", "-.inf", "-.Inf", "-.INF", ".nan", "NaN",
    ".NAN"]

/-- Whether a text is a floating-point number: one with a digit, or one that has a name. -/
def isReal (text : String) : Bool :=
  text ∈ namedReals ||
    (text.toList.any Char.isDigit && (FloatFormat.binary64.read text).toBool)

/-- The integer that a plain scalar is by its first characters: they may give a radix, or a plus
sign before the number. -/
def markedInteger? (text : String) : Option Int :=
  match text.toList with
  | '0' :: 'x' :: digits => integerIn? 16 digits
  | '0' :: 'o' :: digits => integerIn? 8 digits
  | '+' :: number => (IntKind.int64.read (String.ofList number)).toOption
  | _ => none

/-- A plain scalar without a tag. -/
def ofPlain (text : String) : Scalar :=
  match markedInteger? text with
  | some n => .integer n
  | none =>
    if text ∈ ["", "~", "null"] then .nothing
    else if text = "true" then .bool true
    else if text = "false" then .bool false
    else
      match IntKind.int64.read text with
      | .ok n => .integer n
      | .error _ => if isReal text then .real text else .text text

/-- What the handle of the standard tags stands for. -/
def standardTags : String := "tag:yaml.org,2002:"

/-- A plain scalar with a tag, given by what its handle stands for and the rest. A text that a
standard type does not have is nothing. -/
def ofTagged (start suffix text : String) : Scalar :=
  if start ≠ standardTags then .text text
  else if suffix = "bool" then
    if text = "true" then .bool true else if text = "false" then .bool false else .nothing
  else if suffix = "int" then (IntKind.int64.read text).toOption.elim .nothing .integer
  else if suffix = "float" then if isReal text then .real text else .nothing
  else if suffix = "null" then .nothing
  else .text text

/-- A scalar as a key of settings; nothing is no key. -/
def keyText : Scalar → Option String
  | nothing => none
  | bool b => some (if b then "true" else "false")
  | integer n => some (toString n)
  | real literal => some literal
  | text s => some s

def setting : Scalar → Option Setting
  | nothing => some .nothing
  | bool b => some (.bool b)
  | integer n => some (.integer n)
  | real literal => (FloatFormat.binary64.read literal).toOption.map .float
  | text s => some (.text s)

end Scalar

/-- What is left of the tokens, and what names in the document stand for. -/
structure Reading where
  tokens : List Token
  /-- The numbers of the anchors with a name, the latest first. -/
  anchors : List (String × Nat)
  /-- The nodes of anchors, as far as they have been read. -/
  nodes : List (Nat × Node)
  /-- What the handles of tags stand for. -/
  handles : List (String × String)

abbrev NodeReader (α : Type) := StateT Reading Option α

def peek? : NodeReader (Option Token) :=
  return (← get).tokens.head?

def skip : NodeReader Unit :=
  modify fun reading => { reading with tokens := reading.tokens.drop 1 }

/-- A node that was left out. -/
def absent : Node := .scalar .nothing

/-- Does steps until one does nothing. Each takes at least one token. -/
def repeatedly {α : Type} (step : NodeReader (Option α)) : NodeReader (List α) := do
  Reader.manyUpTo step ((← get).tokens.length + 1)

/-- What a tag stands for. A handle of a word has to be declared. -/
def resolveTag (handle suffix : String) : NodeReader (String × String) := do
  match (← get).handles.lookup handle with
  | some start => return (start, suffix)
  | none =>
    if handle = "!!" then return (Scalar.standardTags, suffix)
    else if isHandle handle.toList then failure
    else return (handle, suffix)

/-- Gives an anchor a number; a name may be given again. -/
def addAnchor (name : String) : NodeReader Nat := do
  let number := (← get).anchors.length
  modify fun reading => { reading with anchors := (name, number) :: reading.anchors }
  return number

def anchor? : NodeReader (Option Nat) := do
  match ← peek? with
  | some (.anchor name) =>
    skip
    return some (← addAnchor name)
  | _ => return none

def tag? : NodeReader (Option (String × String)) := do
  match ← peek? with
  | some (.tag handle suffix) =>
    skip
    return some (← resolveTag handle suffix)
  | _ => return none

/-- Notes the node of an anchor once it has been read. -/
def noteNode (anchor : Option Nat) (node : Node) : NodeReader Unit :=
  modify fun reading =>
    { reading with nodes := (anchor.map fun number => (number, node)).toList ++ reading.nodes }

/-- The anchor and the tag of a node, in either order. -/
def readProperties : NodeReader (Option Nat × Option (String × String)) := do
  match ← anchor? with
  | some anchor => return (some anchor, ← tag?)
  | none =>
    match ← tag? with
    | some tag => return (← anchor?, some tag)
    | none => return (none, none)

/-- The node of an alias. One inside the node that it refers to is nothing. -/
def aliasNode (name : String) : NodeReader Node := do
  let reading ← get
  match reading.anchors.lookup name with
  | some number => return (reading.nodes.lookup number).getD absent
  | none => failure

def isKeyOrEnd : Option Token → Bool
  | some .key => true
  | some .value => true
  | some .blockEnd => true
  | _ => false

def isEntryOrEnd : Option Token → Bool
  | some .blockEntry => true
  | some .blockEnd => true
  | _ => false

def endsFlowValue : Option Token → Bool
  | some .flowEntry => true
  | some .flowMappingEnd => true
  | some .flowSequenceEnd => true
  | _ => false

/-- Reads the value of a pair in a block. -/
def readBlockValue (node : NodeReader Node) : NodeReader Node := do
  match ← peek? with
  | some .value =>
    skip
    if isKeyOrEnd (← peek?) then return absent else node
  | _ => return absent

/-- Reads a pair of a block mapping; none at its end. -/
def readBlockPair (node : NodeReader Node) : NodeReader (Option (Node × Node)) := do
  match ← peek? with
  | some .key =>
    skip
    let key ← if isKeyOrEnd (← peek?) then pure absent else node
    return some (key, ← readBlockValue node)
  | some .value => return some (absent, ← readBlockValue node)
  | some .blockEnd =>
    skip
    return none
  | _ => failure

/-- Reads an item of a block sequence; none at its end. -/
def readBlockItem (node : NodeReader Node) : NodeReader (Option Node) := do
  match ← peek? with
  | some .blockEntry =>
    skip
    if isEntryOrEnd (← peek?) then return some absent else return some (← node)
  | some .blockEnd =>
    skip
    return none
  | _ => failure

/-- Reads an item of a sequence that is not indented; it ends before any other token. -/
def readNarrowItem (node : NodeReader Node) : NodeReader (Option Node) := do
  match ← peek? with
  | some .blockEntry =>
    skip
    let next ← peek?
    if isEntryOrEnd next || isKeyOrEnd next then return some absent else return some (← node)
  | _ => return none

/-- Reads the value of a pair in a flow collection. -/
def readFlowValue (node : NodeReader Node) : NodeReader Node := do
  match ← peek? with
  | some .value =>
    skip
    if endsFlowValue (← peek?) then return absent else node
  | _ => return absent

/-- Reads the key of a flow mapping after its mark, and its value. -/
def readMarkedPair (node : NodeReader Node) : NodeReader (Node × Node) := do
  let next ← peek?
  let isMissing :=
    match next with
    | some .value => true
    | next => endsFlowValue next
  let key ← if isMissing then pure absent else node
  return (key, ← readFlowValue node)

/-- Reads what stands between the commas of a flow mapping. -/
def readFlowPair (node : NodeReader Node) : NodeReader (Node × Node) := do
  match ← peek? with
  | some .key =>
    skip
    readMarkedPair node
  | some .value => return (absent, ← readFlowValue node)
  | _ => return (← node, absent)

/-- The table of some pairs. Keys are scalars, and all of them differ. -/
def tableOf (pairs : List (Node × Node)) : Option Node := do
  let entries ← pairs.mapM fun (key, value) =>
    match key with
    | .scalar key => some (key, value)
    | _ => none
  if (entries.map Prod.fst).Nodup then some (.table entries) else none

def readTable (pairs : List (Node × Node)) : NodeReader Node := do
  match tableOf pairs with
  | some node => return node
  | none => failure

/-- Reads what stands between the commas of a flow sequence. A pair is a table of its own. -/
def readFlowItem (node : NodeReader Node) : NodeReader Node := do
  match ← peek? with
  | some .key =>
    skip
    readTable [← readMarkedPair node]
  | _ => node

/-- Reads items with commas between up to a token that closes them, at most `fuel` of them. A comma
may follow the last item. -/
def readFlowItems {α : Type} (closes : Token → Bool) (item : NodeReader α) :
    Nat → NodeReader (List α)
  | 0 => failure
  | fuel + 1 => do
    match ← peek? with
    | none => failure
    | some token =>
      if closes token then
        skip
        return []
      else
        let first ← item
        match ← peek? with
        | some .flowEntry =>
          skip
          return first :: (← readFlowItems closes item fuel)
        | some token =>
          if closes token then
            skip
            return [first]
          else failure
        | none => failure

def closesMapping : Token → Bool
  | .flowMappingEnd => true
  | _ => false

def closesSequence : Token → Bool
  | .flowSequenceEnd => true
  | _ => false

/-- Reads the content of a node after its properties. `isBlock` tells whether a block may start, and
`isNarrow` whether a sequence may that is not indented. `block`, `flow` and `narrow` read the nodes
inside: in block sequences, in flow collections, and in block mappings. -/
def readContent (isBlock isNarrow : Bool) (tag : Option (String × String)) (isAnchored : Bool)
    (block flow narrow : NodeReader Node) : NodeReader Node := do
  let fuel := (← get).tokens.length + 1
  match ← peek? with
  | some (.scalar isPlain text) =>
    skip
    if !isPlain then return .scalar (.text text)
    else
      match tag with
      | some (start, suffix) => return .scalar (.ofTagged start suffix text)
      | none => return .scalar (.ofPlain text)
  | some .flowSequenceStart =>
    skip
    return .list (← readFlowItems closesSequence (readFlowItem flow) fuel)
  | some .flowMappingStart =>
    skip
    readTable (← readFlowItems closesMapping (readFlowPair flow) fuel)
  | token =>
    match token, isNarrow, isBlock with
    | some .blockEntry, true, _ => return .list (← repeatedly (readNarrowItem block))
    | some .blockSequenceStart, _, true =>
      skip
      return .list (← repeatedly (readBlockItem block))
    | some .blockMappingStart, _, true =>
      skip
      readTable (← repeatedly (readBlockPair narrow))
    | _, _, _ =>
      match tag with
      | some (start, suffix) => return .scalar (.ofTagged start suffix "")
      | none => if isAnchored then return absent else failure

/-- Reads a node. The fuel bounds how deep nodes are nested. -/
def readNode (isBlock isNarrow : Bool) : Nat → NodeReader Node
  | 0 => failure
  | fuel + 1 => do
    match ← peek? with
    | some (.alias name) =>
      skip
      aliasNode name
    | _ =>
      let (anchor, tag) ← readProperties
      let node ← readContent isBlock isNarrow tag anchor.isSome (readNode true false fuel)
        (readNode false false fuel) (readNode true true fuel)
      noteNode anchor node
      return node

/-- Reads the directives before a document, with at most one version; no handle is declared twice.
Tells whether there were any. -/
def readDirectives : NodeReader Bool := do
  let directives ← repeatedly do
    match ← peek? with
    | some .version =>
      skip
      return some none
    | some (.tagDirective handle start) =>
      skip
      return some (some (handle, start))
    | _ => return none
  let handles := directives.filterMap id
  let versions := directives.filter Option.isNone
  if 1 < versions.length || !(handles.map Prod.fst).Nodup then failure
  modify fun reading => { reading with handles }
  return !directives.isEmpty

def isDocumentMark : Option Token → Bool
  | some .documentStart => true
  | some .documentEnd => true
  | some .version => true
  | some (.tagDirective _ _) => true
  | none => true
  | _ => false

/-- Reads a document; none at the end of the text. The first one, and one after a mark that ends a
document, may start without a mark. -/
def readDocument (isImplicit : Bool) : NodeReader (Option (Node × Bool)) := do
  let _ ← repeatedly do
    match ← peek? with
    | some .documentEnd =>
      skip
      return some ()
    | _ => return none
  let depth := (← get).tokens.length + 1
  match ← peek? with
  | none => return none
  | some _ =>
    let hasDirectives ← readDirectives
    let node ←
      match ← peek? with
      | some .documentStart =>
        skip
        if isDocumentMark (← peek?) then pure absent else readNode true false depth
      | _ => if hasDirectives || !isImplicit then failure else readNode true false depth
    match ← peek? with
    | some .documentEnd =>
      skip
      return some (node, true)
    | some .version => failure
    | some (.tagDirective _ _) => failure
    | _ => return some (node, false)

/-- Reads all documents, at most `fuel` of them. -/
def readDocuments (isImplicit : Bool) : Nat → NodeReader (List Node)
  | 0 => failure
  | fuel + 1 => do
    match ← readDocument isImplicit with
    | none => return []
    | some (node, isImplicit) => return node :: (← readDocuments isImplicit fuel)

mutual

/-- The setting of a node; it has none if some key is nothing or some number cannot be read. -/
def Node.setting : Node → Option Setting
  | .scalar s => s.setting
  | .list items => (itemSettings items).map .list
  | .table entries => (entrySettings entries).map Setting.ofEntries

def itemSettings : List Node → Option (List Setting)
  | [] => some []
  | item :: rest => do return (← item.setting) :: (← itemSettings rest)

def entrySettings : List (Scalar × Node) → Option (List (String × Setting))
  | [] => some []
  | (key, value) :: rest => do
    return (← key.keyText, ← value.setting) :: (← entrySettings rest)

end

/-- The setting of a text that holds at most one document; a text without one is an empty table. The
null character ends a text. -/
def read (text : String) : Option Setting := do
  let tokens ← tokens? (text.toList.takeWhile (· != '\x00'))
  let (documents, _) ← (readDocuments true (tokens.length + 1)).run ⟨tokens, [], [], []⟩
  match documents with
  | [] => some (.table [])
  | [node] => node.setting
  | _ => none

end DocOptions.Yaml
