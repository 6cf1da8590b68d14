/-! Readers: they take characters from the front of a text, or fail. A failed alternative takes
nothing. -/

namespace DocOptions

abbrev Reader (α : Type) := StateT (List Char) Option α

namespace Reader

variable {α : Type}

/-- The next character, which stays; none at the end of the text. -/
def peek? : Reader (Option Char) :=
  return (← get).head?

/-- Takes a character that meets a condition. -/
def take (condition : Char → Bool) : Reader Char := do
  let c :: rest ← get | failure
  if condition c then
    set rest
    return c
  else failure

/-- Takes any character. -/
def next : Reader Char :=
  take fun _ => true

/-- Takes one character. -/
def char (c : Char) : Reader Unit := do
  let _ ← take (· == c)

/-- Takes the longest run of characters that meet a condition. -/
def takeWhile (condition : Char → Bool) : Reader (List Char) :=
  modifyGet fun chars => (chars.takeWhile condition, chars.dropWhile condition)

def skipWhile (condition : Char → Bool) : Reader Unit :=
  modify (·.dropWhile condition)

/-- Takes the longest run, which has to have at least one character. -/
def takeSome (condition : Char → Bool) : Reader (List Char) := do
  let run ← takeWhile condition
  if run.isEmpty then failure else return run

/-- Takes as many characters, all of which meet a condition. -/
def takeExactly (count : Nat) (condition : Char → Bool) : Reader (List Char) := do
  let chars ← get
  let run := chars.take count
  if run.length = count ∧ run.all condition then
    set (chars.drop count)
    return run
  else failure

/-- Takes a word if it comes next, and tells whether it did. -/
def word? (word : String) : Reader Bool := do
  let chars ← get
  if word.toList.isPrefixOf chars then
    set (chars.drop word.length)
    return true
  else return false

def word (word : String) : Reader Unit := do
  if ← word? word then return () else failure

/-- Reads something that may be missing. -/
def option (reader : Reader α) : Reader (Option α) :=
  (some <$> reader) <|> pure none

/-- Reads items until one is missing, at most `fuel` of them. -/
def manyUpTo {σ : Type} (item : StateT σ Option (Option α)) : Nat → StateT σ Option (List α)
  | 0 => failure
  | fuel + 1 => do
    match ← item with
    | none => return []
    | some first => return first :: (← manyUpTo item fuel)

/-- Reads items until one is missing. Each takes at least one character. -/
def many (item : Reader (Option α)) : Reader (List α) := do
  manyUpTo item ((← get).length + 1)

/-- Reads at least one item with commas between, at most `fuel` of them, and a closing character. -/
def listedUpTo (blank : Reader Unit) (close : Char) (lastComma : Bool) (item : Reader α) :
    Nat → Reader (List α)
  | 0 => failure
  | fuel + 1 => do
    let first ← item
    blank
    if ← word? "," then
      blank
      if lastComma && (← peek?) == some close then
        char close
        return [first]
      else return first :: (← listedUpTo blank close lastComma item fuel)
    else
      char close
      return [first]

/-- Reads items with commas between and a closing character. A comma may follow the last item if
`lastComma` says so. -/
def listed (blank : Reader Unit) (close : Char) (lastComma : Bool) (item : Reader α) :
    Reader (List α) := do
  blank
  if (← peek?) == some close then
    char close
    return []
  else listedUpTo blank close lastComma item ((← get).length + 1)

/-- Reads a whole text. -/
def readAll (reader : Reader α) (text : String) : Option α :=
  match reader.run text.toList with
  | some (value, []) => some value
  | _ => none

end Reader
end DocOptions
