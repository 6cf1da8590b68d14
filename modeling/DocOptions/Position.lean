/-! Places in source files. -/

namespace DocOptions

/-- A place in a source file. Line zero is an unknown line, column zero an unknown column. -/
structure Position where
  file : String
  line : UInt64
  column : UInt64
  deriving DecidableEq

namespace Position

/-- The place nothing is known about. -/
def unknown : Position := ⟨"", 0, 0⟩

instance : Inhabited Position := ⟨unknown⟩

/-- Whether the line is known. -/
def isValid (p : Position) : Bool :=
  p.line != 0

/-- Writes `file:line:column` without the parts that are unknown, and `-` if all are. A column is
only written after a line. -/
def text (p : Position) : String :=
  let column := if p.column = 0 then "" else s!":{p.column.toNat}"
  let place := if p.isValid then
      (if p.file.isEmpty then "" else ":") ++ s!"{p.line.toNat}" ++ column
    else ""
  let full := p.file ++ place
  if full.isEmpty then "-" else full

end Position
end DocOptions
