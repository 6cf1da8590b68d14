import DocOptions.Numeral.Literal

/-! The numbers of double precision that JSON literals denote. Digits are gathered into a word of
sixty-four bits, and the power of ten is applied in rounded steps; the outcome may lie next to the
number that is nearest to the literal, and a literal near the greatest number may be out of range.
-/

namespace DocOptions.Json

/-- Digits that have been gathered, times a power of ten. -/
structure Gathered where
  significand : Nat
  exponent : Int

namespace Gathered

/-- Whether a significand fits a word. -/
def fits (n : Nat) : Bool :=
  n < Nat.pow 2 64

/-- Appends the digits of a whole number. From the first one on that does not fit, digits are left
out and count for the exponent. -/
def appendWhole (g : Gathered) : List Char → Gathered
  | [] => g
  | c :: rest =>
    let next := Decimal.digitsValue [c] + g.significand * 10
    if fits next then appendWhole { g with significand := next } rest
    else { g with exponent := g.exponent + (rest.length + 1 : Nat) }

/-- Appends the digits of a fraction, up to the first one that does not fit. -/
def appendFraction (g : Gathered) : List Char → Gathered
  | [] => g
  | c :: rest =>
    let next := Decimal.digitsValue [c] + g.significand * 10
    if fits next then appendFraction ⟨next, g.exponent - 1⟩ rest else g

/-- The power of ten that is nearest in double precision, in units of the least number. -/
def powerUnits (exponent : Nat) : Nat :=
  (FloatFormat.binary64.round false (Nat.pow 10 exponent) 1).units

/-- A number divided by a power of ten, rounded. -/
def divided (negative : Bool) (x : FloatValue) (exponent : Nat) : FloatValue :=
  FloatFormat.binary64.round negative x.units (powerUnits exponent)

/-- A number times a power of ten, rounded. -/
def multiplied (negative : Bool) (x : FloatValue) (exponent : Nat) : FloatValue :=
  let unit := Nat.pow 2 FloatFormat.binary64.leastExponent
  FloatFormat.binary64.round negative (x.units * powerUnits exponent) (unit * unit)

/-- The greatest exponent of a power of ten in double precision. -/
def greatestPower : Nat := 308

/-- The number, unless it is out of range. A division is done in two steps where the power of ten is
out of range itself. -/
def toDouble? (g : Gathered) (negative : Bool) : Option FloatValue :=
  let start := FloatFormat.binary64.round negative g.significand 1
  match g.exponent with
  | .ofNat e =>
    if g.significand = 0 then some start
    else if greatestPower < e then none
    else
      match multiplied negative start e with
      | .infinite _ => none
      | x => some x
  | .negSucc e =>
    let e := e + 1
    if e ≤ greatestPower then some (divided negative start e)
    else if e ≤ 2 * greatestPower then
      some (divided negative (divided negative start greatestPower) (e - greatestPower))
    else some (.finite negative 0 0)

end Gathered

/-- The number of a literal: a sign or none, digits, a fraction or none, an exponent or none. It is
missing where the number is out of range. -/
def double? (literal : List Char) : Option FloatValue := do
  let negative := literal.head? = some '-'
  let unsigned := if negative then literal.drop 1 else literal
  let whole := unsigned.takeWhile Char.isDigit
  let (fraction, rest) :=
    match unsigned.drop whole.length with
    | '.' :: rest => (rest.takeWhile Char.isDigit, rest.dropWhile Char.isDigit)
    | rest => ([], rest)
  let exponent ← Decimal.readExponent rest
  let digits := ((⟨0, 0⟩ : Gathered).appendWhole whole).appendFraction fraction
  ({ digits with exponent := digits.exponent + exponent } : Gathered).toDouble? negative

end DocOptions.Json
