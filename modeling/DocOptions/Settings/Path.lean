import DocOptions.Numeral.Integer
import DocOptions.Settings.Tree
import DocOptions.Text.Reader

/-! Paths to settings, as in `output.trace` and `servers[0].name`. -/

namespace DocOptions.Setting

/-- Whether a character may stand in a name of a path. -/
def isNameChar (c : Char) : Bool :=
  c.isAlphanum || c == ' ' || c == '_' || c == '-'

def isIndexSpace (c : Char) : Bool :=
  c == ' ' || c == '\t'

open Reader in
/-- Reads an index after its opening bracket: an integer of sixty-four bits. -/
def readIndex : Reader Int := do
  skipWhile isIndexSpace
  let negative ← word? "-"
  let digits ← takeSome Char.isDigit
  skipWhile isIndexSpace
  char ']'
  match IntKind.int64.readNumber negative digits with
  | .ok i => return i
  | .error _ => failure

open Reader in
/-- Reads a step after the first one; none at the end. -/
def readStep : Reader (Option SettingStep) := do
  if ← word? "." then return some (.key (String.ofList (← takeSome isNameChar)))
  else if ← word? "[" then return some (.index (← readIndex))
  else return none

open Reader in
def readPath : Reader (List SettingStep) := do
  let name ← takeSome isNameChar
  return .key (String.ofList name) :: (← many readStep)

/-- The steps that a key of a source stands for; a key that is no path stands for itself. -/
def pathOf (key : String) : List SettingStep :=
  (Reader.readAll readPath key).getD [.key key]

/-- Lays a source over a tree. The keys of the source are paths. -/
def overlay (tree : Setting) (source : List (String × Setting)) : Setting :=
  source.foldl (fun tree (key, value) => layAtPath value (some tree) (pathOf key)) tree

end DocOptions.Setting
