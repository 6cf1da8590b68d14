import DocOptions.Text.Alphanumeric
import DocOptions.Text.LetterCase

/-! Names as words that are told apart by their first letters, such as `userId`. -/

namespace DocOptions.Naming

open Text

/-- The case of the last cased letter of the word so far. -/
inductive WordCase
  | none
  | lower
  | upper
  deriving DecidableEq

/-- The words of a stretch of letters and digits. A word ends where a lowercase letter meets an
uppercase one, and before the last letter of an acronym that a lowercase letter follows; characters
without case do not change this. The first word of the result goes on the word being read. -/
def camelWords (word : WordCase) : List Char → List (List Char)
  | [] => []
  | [c] => [[c]]
  | c :: next :: rest =>
    let case :=
      if isLowercase c then .lower else if isUppercase c then .upper else word
    if case = .lower && isUppercase next then [c] :: camelWords .none (next :: rest)
    else if word = .upper && isUppercase c && isLowercase next then
      [] :: (camelWords .none (next :: rest)).modifyHead (c :: ·)
    else (camelWords case (next :: rest)).modifyHead (c :: ·)

/-- The longest stretches of letters and digits, empty ones between neighbouring separators. -/
def stretches : List Char → List (List Char)
  | [] => [[]]
  | c :: rest =>
    if isAlphanumeric c then (stretches rest).modifyHead (c :: ·) else [] :: stretches rest

def lowerWord : List Char → List Char
  | [] => []
  | ['Σ'] => ['ς']
  | c :: rest => toLowercase c ++ lowerWord rest

/-- A word with its first letter in uppercase and the others in lowercase. -/
def capitalWord : List Char → List Char
  | [] => []
  | c :: rest => toUppercase c ++ lowerWord rest

def wordsOf (name : String) : List (List Char) :=
  (stretches name.toList).flatMap (camelWords .none)

/-- All words capitalised. -/
def upperCamel (name : String) : String :=
  String.ofList ((wordsOf name).flatMap capitalWord)

/-- All words but the first capitalised. -/
def lowerCamel (name : String) : String :=
  match wordsOf name with
  | [] => ""
  | first :: rest => String.ofList (lowerWord first ++ rest.flatMap capitalWord)

end DocOptions.Naming
