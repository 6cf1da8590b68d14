import DocOptions.Numeral.Binary
import DocOptions.Numeral.Integer

/-! Floating-point numbers read from decimal text. -/

namespace DocOptions

/-- A decimal number `digits · 10^exponent`. -/
structure Decimal where
  digits : Nat
  exponent : Int
  deriving DecidableEq

namespace Decimal

/-- The number that a run of digits denotes. -/
def digitsValue (chars : List Char) : Nat :=
  chars.foldl (fun n c => n * 10 + (c.toNat - '0'.toNat)) 0

/-- Reads `e` or `E`, a sign or none, and digits; no text at all is the exponent zero. -/
def readExponent (chars : List Char) : Option Int :=
  match chars with
  | [] => some 0
  | e :: rest =>
    if e = 'e' || e = 'E' then
      let (negative, digits) :=
        match rest with
        | '-' :: digits => (true, digits)
        | '+' :: digits => (false, digits)
        | digits => (false, digits)
      if digits.isEmpty || !digits.all Char.isDigit then none
      else if negative then some (-(digitsValue digits : Int)) else some (digitsValue digits)
    else none

/-- Reads digits with at most one point among or around them, and an exponent. -/
def read? (chars : List Char) : Option Decimal :=
  let whole := chars.takeWhile Char.isDigit
  let afterWhole := chars.dropWhile Char.isDigit
  let (fraction, afterFraction) :=
    match afterWhole with
    | '.' :: rest => (rest.takeWhile Char.isDigit, rest.dropWhile Char.isDigit)
    | rest => ([], rest)
  if whole.isEmpty && fraction.isEmpty then none
  else
    (readExponent afterFraction).map fun exponent =>
      ⟨digitsValue (whole ++ fraction), exponent - fraction.length⟩

/-- The nearest number of a format. Powers of ten beyond 400 are not worked out: every format here
has smaller ones only, so such a number is zero or infinite. -/
def round (d : Decimal) (format : FloatFormat) (negative : Bool) : FloatValue :=
  let order := (Nat.toDigits 10 d.digits).length + d.exponent
  if d.digits = 0 || order < -400 then .finite negative 0 0
  else if 400 < order then .infinite negative
  else
    match d.exponent with
    | .ofNat e => format.round negative (d.digits * Nat.pow 10 e) 1
    | .negSucc e => format.round negative d.digits (Nat.pow 10 (e + 1))

end Decimal

namespace FloatFormat

/-- Reads a number without its sign, or the name of one, in any letter case. -/
def readMagnitude (format : FloatFormat) (negative : Bool) (chars : List Char) :
    Option FloatValue :=
  let name := String.ofList (chars.map Char.toLower)
  if name = "inf" || name = "infinity" then some (.infinite negative)
  else if name = "nan" then some .nan
  else (Decimal.read? chars).map (·.round format negative)

def read (format : FloatFormat) (text : String) : Except ConversionReason FloatValue :=
  if text.isEmpty then .error .emptyFloat
  else
    let value :=
      match text.toList with
      | '-' :: rest => format.readMagnitude true rest
      | '+' :: rest => format.readMagnitude false rest
      | chars => format.readMagnitude false chars
    match value with
    | some value => .ok value
    | none => .error .invalidFloat

end FloatFormat
end DocOptions
