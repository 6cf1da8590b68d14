import DocOptions.Numeral.Shortest
import DocOptions.Text.Quoted
import DocOptions.TextMap

/-! Values that the text of a directive can be converted to. -/

namespace DocOptions

open Text

inductive FloatKind
  | float32
  | float64
  deriving DecidableEq

def FloatKind.format : FloatKind → FloatFormat
  | float32 => .binary32
  | float64 => .binary64

inductive ScalarKind
  | string
  | bool
  | integer (kind : IntKind)
  | float (kind : FloatKind)
  deriving DecidableEq

/-- A kind of value, or the same kind with a value that may be missing. -/
inductive ScalarType
  | plain (kind : ScalarKind)
  | optional (kind : ScalarKind)
  deriving DecidableEq

/-- Text that does not denote a value of the kind asked for. -/
structure ConversionError where
  value : String
  kind : ScalarKind
  reason : ConversionReason
  deriving DecidableEq

/-- What a rule sees of a value: whether it is the zero value of its kind, and its text if it is a
scalar that is there. -/
structure ValueView where
  isZero : Bool
  text? : Option String
  deriving DecidableEq

def ValueView.ofList (items : List α) : ValueView :=
  ⟨items.isEmpty, none⟩

def ValueView.ofMap (map : TextMap α) : ValueView :=
  ⟨map.isEmpty, none⟩

def boolText (b : Bool) : String :=
  if b then "true" else "false"

def IntKind.name : IntKind → String
  | int8 => "int8"
  | int16 => "int16"
  | int32 => "int32"
  | int64 => "int64"
  | int => "int"
  | uint8 => "uint8"
  | uint16 => "uint16"
  | uint32 => "uint32"
  | uint64 => "uint64"
  | uint => "uint"

namespace ScalarKind

def name : ScalarKind → String
  | string => "string"
  | bool => "bool"
  | integer kind => kind.name
  | float .float32 => "float32"
  | float .float64 => "float64"

@[reducible] def Value : ScalarKind → Type
  | string => String
  | bool => Bool
  | integer _ => Int
  | float _ => FloatValue

def zero : (kind : ScalarKind) → kind.Value
  | string => ""
  | bool => false
  | integer _ => (0 : Int)
  | float _ => FloatValue.finite false 0 0

def view : (kind : ScalarKind) → kind.Value → ValueView
  | string, s => ⟨String.isEmpty s, some s⟩
  | bool, b => ⟨!b, some (boolText b)⟩
  | integer _, n => ⟨(n : Int) == 0, some (toString (n : Int))⟩
  | float kind, x => ⟨FloatValue.isZero x, some (FloatValue.text kind.format x)⟩

/-- No text is false, and so are the usual words for it. -/
def readBool (text : String) : Except ConversionReason Bool :=
  if text ∈ ["1", "t", "T", "true", "TRUE", "True"] then .ok true
  else if text ∈ ["", "0", "f", "F", "false", "FALSE", "False"] then .ok false
  else .error .invalidBool

def readText : (kind : ScalarKind) → String → Except ConversionReason kind.Value
  | string, text => .ok text
  | bool, text => readBool text
  | integer kind, text => kind.read text
  | float kind, text => kind.format.read text

def read (kind : ScalarKind) (text : String) : Except ConversionError kind.Value :=
  (kind.readText text).mapError (⟨text, kind, ·⟩)

end ScalarKind

def ConversionError.message (e : ConversionError) : String :=
  s!"cannot parse {quoted e.value} as {e.kind.name}: {e.reason.message}"

namespace ScalarType

@[reducible] def Value : ScalarType → Type
  | plain kind => kind.Value
  | optional kind => Option kind.Value

def zero : (type : ScalarType) → type.Value
  | plain kind => kind.zero
  | optional kind => (none : Option kind.Value)

/-- A missing value is the zero value, and one that is there never is. -/
def view : (type : ScalarType) → type.Value → ValueView
  | plain kind, v => kind.view v
  | optional kind, v => ⟨Option.isNone v, Option.bind v fun v => (kind.view v).text?⟩

def read : (type : ScalarType) → String → Except ConversionError type.Value
  | plain kind, text => kind.read text
  | optional kind, text => (kind.read text).map some

/-- Reads all texts, or fails like the first that fails. -/
def readList (type : ScalarType) (texts : List String) : Except ConversionError (List type.Value) :=
  texts.mapM type.read

end ScalarType
end DocOptions
