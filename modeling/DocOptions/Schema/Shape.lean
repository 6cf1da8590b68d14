import DocOptions.Value

/-! What records of options hold. A shape lists the fields of a record, and the record is the
product of their slots, so each field has a slot of its own and of its own type. Two fields that
share a slot are not modelled, nor are records that start with anything but the zero value in each
slot. -/

namespace DocOptions

/-- Where a scalar takes its value from: a directive of its own, or, inside an inline composite, the
first option or a parameter of the composite's directive. -/
inductive ScalarSource
  | key
  | value
  | param
  deriving DecidableEq

/-- A field without fields of its own. -/
inductive Leaf
  /-- One value. -/
  | scalar (source : ScalarSource) (type : ScalarType)
  /-- Whether the field has a directive. -/
  | flag
  /-- The options of the field's directive, each converted. -/
  | list (type : ScalarType)
  /-- Whether the name of the field is one of the options of the composite's directive. -/
  | optionFlag
  /-- The options of the composite's directive. -/
  | options
  deriving DecidableEq

/-- A field with fields of its own. -/
inductive Composite
  /-- Fields with directives of their own, below the key of the composite. -/
  | group
  /-- Fields read from the first directive of the composite. -/
  | inline
  /-- One element with fields for each directive of the composite. -/
  | inlineList
  deriving DecidableEq

/-- The fields of a record, in order. -/
inductive Shape
  | nil
  | leaf (kind : Leaf) (rest : Shape)
  | composite (kind : Composite) (nested rest : Shape)
  deriving DecidableEq

namespace Leaf

@[reducible] def Slot : Leaf → Type
  | scalar _ type => type.Value
  | flag => Bool
  | list type => List type.Value
  | optionFlag => Bool
  | options => List String

def zero : (kind : Leaf) → kind.Slot
  | scalar _ type => type.zero
  | flag => false
  | list type => ([] : List type.Value)
  | optionFlag => false
  | options => ([] : List String)

def view : (kind : Leaf) → kind.Slot → ValueView
  | scalar _ type, v => type.view v
  | flag, b => ScalarKind.bool.view b
  | list type, items => ValueView.ofList (items : List type.Value)
  | optionFlag, b => ScalarKind.bool.view b
  | options, items => ValueView.ofList (items : List String)

end Leaf

namespace Composite

@[reducible] def Slot (Nested : Type) : Composite → Type
  | group => Nested
  | inline => Nested
  | inlineList => List Nested

def zero {Nested : Type} (nested : Nested) : (kind : Composite) → kind.Slot Nested
  | group => nested
  | inline => nested
  | inlineList => ([] : List Nested)

end Composite

namespace Shape

/-- The records of a shape. -/
@[reducible] def Record : Shape → Type
  | nil => Unit
  | leaf kind rest => kind.Slot × rest.Record
  | composite kind nested rest => kind.Slot nested.Record × rest.Record

/-- The record with the zero value in each slot. -/
def zero : (shape : Shape) → shape.Record
  | nil => ()
  | leaf kind rest => (kind.zero, rest.zero)
  | composite kind nested rest => (kind.zero nested.zero, rest.zero)

end Shape
end DocOptions
