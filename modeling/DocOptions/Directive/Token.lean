/-! Tokens of a directive line. A token remembers how each of its characters was written, since a
quoted or escaped `=` separates nothing and an escaped quote surrounds nothing. -/

namespace DocOptions

/-- How a character of a line was written. -/
inductive CharKind
  | bare
  | quoted
  | escaped
  | quote
  deriving DecidableEq

structure TokenChar where
  char : Char
  kind : CharKind
  deriving DecidableEq

/-- The text of characters, however they were written. -/
def textOf (chars : List TokenChar) : String :=
  String.ofList (chars.map TokenChar.char)

/-- A stretch of a line between blanks, with the offset of its first character in the line. -/
structure Token where
  chars : List TokenChar
  offset : Nat
  deriving DecidableEq

/-- Whether a character separates a name from its value. -/
def TokenChar.isSeparator (c : TokenChar) : Bool :=
  c.kind == .bare && c.char == '='

namespace Token

def isEmpty (token : Token) : Bool :=
  token.chars.isEmpty

/-- The characters with their quotes and without their escaping backslashes. -/
def text (token : Token) : String :=
  textOf token.chars

/-- The index of the first bare `=`. -/
def separator? (token : Token) : Option Nat :=
  token.chars.findIdx? TokenChar.isSeparator

/-- The name and the value on the two sides of the first bare `=`. -/
def split? (token : Token) : Option (Token × Token) :=
  token.separator?.map fun index =>
    (⟨token.chars.take index, token.offset⟩,
      ⟨token.chars.drop (index + 1), token.offset + index + 1⟩)

/-- The text inside the quotes, where the same quote character opens and closes the token. -/
def unquoted (token : Token) : String :=
  match token.chars with
  | [] => ""
  | first :: rest =>
    match rest.getLast? with
    | none => token.text
    | some last =>
      if first.kind = .quote ∧ last.kind = .quote ∧ first.char = last.char then
        textOf rest.dropLast
      else token.text

end Token
end DocOptions
