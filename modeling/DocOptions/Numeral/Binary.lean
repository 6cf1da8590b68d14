/-! Binary floating-point numbers of a fixed precision, and rounding to the nearest of them. -/

namespace DocOptions

/-- A format of floating-point numbers. A finite one is `significand · 2^(offset - leastExponent)`
with a significand below `2^precision` and an offset of at most `maxOffset`. -/
structure FloatFormat where
  precision : Nat
  leastExponent : Nat
  maxOffset : Nat

namespace FloatFormat

def binary32 : FloatFormat := ⟨24, 149, 253⟩

def binary64 : FloatFormat := ⟨53, 1074, 2045⟩

end FloatFormat

/-- A floating-point number. The offset of a finite one is zero where its significand has fewer bits
than the precision, so that each number has one form. -/
inductive FloatValue
  | nan
  | infinite (negative : Bool)
  | finite (negative : Bool) (significand offset : Nat)
  deriving DecidableEq

namespace FloatValue

/-- Whether it is one of the two zeros. -/
def isZero : FloatValue → Bool
  | finite _ significand _ => significand == 0
  | _ => false

/-- The bits of the interchange encoding without those of the sign: the biased exponent, then the
significand without its leading bit. -/
def magnitudeBits (format : FloatFormat) : FloatValue → Nat
  | nan => (2 * format.maxOffset + 5) * Nat.pow 2 (format.precision - 2)
  | infinite _ => (format.maxOffset + 2) * Nat.pow 2 (format.precision - 1)
  | finite _ significand offset => offset * Nat.pow 2 (format.precision - 1) + significand

/-- How many times the least positive number a finite number is, without its sign. -/
def units : FloatValue → Nat
  | finite _ significand offset => significand * Nat.pow 2 offset
  | _ => 0

def isNegative : FloatValue → Bool
  | nan => false
  | infinite negative => negative
  | finite negative _ _ => negative

end FloatValue

/-- A quotient rounded to the nearest integer, a half to the even neighbour. -/
def roundHalfEven (num den : Nat) : Nat :=
  let q := num / den
  let r := num % den
  if 2 * r > den || (2 * r == den && q % 2 == 1) then q + 1 else q

namespace FloatFormat

/-- The number nearest to `num / den`, the one with the even significand of two; beyond the largest
finite one, infinity. -/
def round (format : FloatFormat) (negative : Bool) (num den : Nat) : FloatValue :=
  let scaled := num * Nat.pow 2 format.leastExponent
  let offset := (scaled / den).log2 + 1 - format.precision
  let significand := roundHalfEven scaled (den * Nat.pow 2 offset)
  let (significand, offset) :=
    if significand = Nat.pow 2 format.precision then (Nat.pow 2 (format.precision - 1), offset + 1)
    else (significand, offset)
  if offset > format.maxOffset then .infinite negative else .finite negative significand offset

end FloatFormat
end DocOptions
