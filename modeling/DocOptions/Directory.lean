import DocOptions.Text.Pieces
import DocOptions.TextMap

/-! The files of a working directory. Only the spelling of a path is looked at: doubled slashes and
single dots lead nowhere else, and links are not followed. -/

namespace DocOptions

/-- Files by their normal paths. -/
structure Directory where
  files : TextMap String

namespace Directory

/-- A path without doubled slashes and single dots. -/
def normalPath (path : String) : String :=
  let parts := (Text.cut path '/').filter fun part => part != "" && part != "."
  (if path.toList.head? = some '/' then "/" else "") ++ "/".intercalate parts

/-- What follows the last slash of a path. -/
def lastPart (path : String) : String :=
  ((Text.cut path '/').getLast?).getD ""

/-- The text of a file. A path that ends in a slash or a single dot names no file. -/
def read? (directory : Directory) (path : String) : Option String :=
  if lastPart path = "" ∨ lastPart path = "." then none
  else directory.files.get? (normalPath path)

/-- The directory with one more file. -/
def insert (directory : Directory) (path text : String) : Directory :=
  ⟨directory.files.insert (normalPath path) text⟩

instance : EmptyCollection Directory := ⟨⟨∅⟩⟩

end Directory
end DocOptions
