import DocOptions.Directive.Index

/-! Comments above a declaration: a title that starts with the name of the declaration,
documentation, and directives. -/

namespace DocOptions

open Text

inductive CommentKind
  | title
  | doc
  | directive
  deriving DecidableEq

/-- One line of a comment without its comment marks. -/
structure CommentLine where
  text : String
  kind : CommentKind
  position : Position
  deriving DecidableEq

/-- A comment line as it stands in the source, with its comment marks. -/
structure RawComment where
  text : String
  position : Option Position
  deriving DecidableEq

/-- Drops every occurrence of a text, from left to right; an occurrence ends before the next one
can start. `skip` counts the characters that are still to be dropped. -/
def removeAll (part : List Char) (skip : Nat) : List Char → List Char
  | [] => []
  | c :: rest =>
    match skip with
    | skip + 1 => removeAll part skip rest
    | 0 =>
      if part.isPrefixOf (c :: rest) then removeAll part (part.length - 1) rest
      else c :: removeAll part 0 rest

/-- The text of a comment after its slashes and the spaces that follow them. -/
def uncomment (raw : String) : List Char :=
  (raw.toList.dropWhile (· == '/')).dropWhile (· == ' ')

/-- Sorts a raw line above the declaration `name`. A title, which starts with the name, loses the
name wherever a space follows it. -/
def CommentLine.classify (raw name : String) (position : Position) : CommentLine :=
  let chars := uncomment raw
  if !name.isEmpty && name.toList.isPrefixOf chars then
    ⟨String.ofList (removeAll (name.toList ++ [' ']) 0 chars), .title, position⟩
  else if chars.head? = some Directive.marker then
    ⟨String.ofList chars, .directive, position⟩
  else ⟨String.ofList chars, .doc, position⟩

/-- What the comments of a declaration hold. -/
structure DocComments where
  title : String
  doc : String
  index : DirectiveIndex
  rejected : List RejectedLine

namespace DocComments

/-- Gathers lines: the last title, all documentation with a newline after each line, and the
directives without the blanks around them. -/
def collect (lines : List CommentLine) : DocComments :=
  let titles := lines.filter (·.kind == .title)
  let docs := lines.filter (·.kind == .doc)
  let directives := lines.filter (·.kind == .directive)
  let (index, rejected) :=
    DirectiveIndex.ofLines (directives.map fun line => (trim line.text, line.position))
  { title := (titles.getLast?.map (·.text)).getD ""
    doc := String.join (docs.map (·.text ++ "\n"))
    index
    rejected }

/-- The comments above the declaration `name`. -/
def ofRaw (name : String) (comments : List RawComment) : DocComments :=
  collect (comments.map fun c => .classify c.text name (c.position.getD .unknown))

end DocComments
end DocOptions
