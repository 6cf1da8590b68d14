import DocOptions.Numeral.Literal

/-! Floating-point numbers written with the fewest decimal digits that read back as the number. -/

namespace DocOptions

/-- A number as a multiple of `1 / den`, with the ends of the interval that rounds to it; the ends
belong to the interval if `closed`. -/
structure RoundingInterval where
  low : Nat
  value : Nat
  high : Nat
  den : Nat
  closed : Bool

namespace RoundingInterval

/-- The interval of a positive finite number. Below the least significand of its offset the numbers
lie half as far apart. -/
def ofFinite (format : FloatFormat) (significand offset : Nat) : RoundingInterval :=
  let below := if significand = Nat.pow 2 (format.precision - 1) && 0 < offset then 1 else 2
  { low := (4 * significand - below) * Nat.pow 2 offset
    value := 4 * significand * Nat.pow 2 offset
    high := (4 * significand + 2) * Nat.pow 2 offset
    den := 4 * Nat.pow 2 format.leastExponent
    closed := significand % 2 == 0 }

def scale (interval : RoundingInterval) (factor unit : Nat) : RoundingInterval :=
  { interval with
    low := interval.low * factor
    value := interval.value * factor
    high := interval.high * factor
    den := interval.den * unit }

/-- The interval in units of `10^exponent`. -/
def inUnits (interval : RoundingInterval) : Int → RoundingInterval
  | .ofNat e => interval.scale 1 (Nat.pow 10 e)
  | .negSucc e => interval.scale (Nat.pow 10 (e + 1)) 1

/-- Whether an integer lies in the interval. -/
def contains (interval : RoundingInterval) (n : Nat) : Bool :=
  let point := n * interval.den
  if interval.closed then interval.low ≤ point && point ≤ interval.high
  else interval.low < point && point < interval.high

/-- The integer of the interval nearest to its number, the upper one of two. -/
def nearestInteger? (interval : RoundingInterval) : Option Nat :=
  let lower := interval.value / interval.den
  let upper := lower + 1
  let toLower := interval.value - lower * interval.den
  let toUpper := upper * interval.den - interval.value
  match interval.contains lower, interval.contains upper with
  | true, true => some (if toLower < toUpper then lower else upper)
  | true, false => some lower
  | false, true => some upper
  | false, false => none

/-- The number of digits before the decimal point; negative where zeros follow the point. Numbers
below `10^-400` are in no format here. -/
def order (interval : RoundingInterval) : Int :=
  (Nat.toDigits 10 (interval.value * Nat.pow 10 400 / interval.den)).length - 400

/-- The decimal with the fewest digits in the interval, up to seventeen, which always suffice. -/
def shortest (interval : RoundingInterval) : Decimal :=
  let candidate (count : Nat) : Option Decimal :=
    let exponent := interval.order - (count + 1 : Nat)
    (interval.inUnits exponent).nearestInteger?.map fun digits => ⟨digits, exponent⟩
  ((List.range 17).findSome? candidate).getD ⟨0, 0⟩

end RoundingInterval

namespace Decimal

/-- Written without an exponent: zeros are added up to the decimal point, and zeros at the end of a
fraction are left out. -/
def positional (d : Decimal) : List Char :=
  let digits := Nat.toDigits 10 d.digits
  let solid := (digits.reverse.dropWhile (· == '0')).reverse
  let exponent := d.exponent + (digits.length - solid.length : Nat)
  match exponent with
  | .ofNat zeros => solid ++ List.replicate zeros '0'
  | .negSucc e =>
    let places := e + 1
    let padded := List.replicate (places + 1 - solid.length) '0' ++ solid
    padded.take (padded.length - places) ++ ['.'] ++ padded.drop (padded.length - places)

end Decimal

/-- The text of a floating-point number: the fewest digits that read back, never an exponent, and no
fraction on a whole number. -/
def FloatValue.text (format : FloatFormat) : FloatValue → String
  | .nan => "NaN"
  | .infinite negative => if negative then "-inf" else "inf"
  | .finite negative significand offset =>
    let magnitude :=
      if significand = 0 then ['0']
      else (RoundingInterval.ofFinite format significand offset).shortest.positional
    String.ofList ((if negative then ['-'] else []) ++ magnitude)

end DocOptions
