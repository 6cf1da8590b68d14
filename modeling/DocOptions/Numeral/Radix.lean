/-! Natural numbers written in a radix. -/

namespace DocOptions

/-- The value of a digit. Letters of either case are digits from ten on. -/
def digitIn? (radix : Nat) (c : Char) : Option Nat :=
  let digit :=
    if c.isDigit then c.toNat - '0'.toNat
    else if c.isLower then c.toNat - 'a'.toNat + 10
    else if c.isUpper then c.toNat - 'A'.toNat + 10
    else radix
  if digit < radix then some digit else none

def isDigitIn (radix : Nat) (c : Char) : Bool :=
  (digitIn? radix c).isSome

/-- The number that digits denote; there has to be at least one. -/
def numberIn? (radix : Nat) (digits : List Char) : Option Nat :=
  if digits.isEmpty then none
  else digits.foldlM (fun n c => (digitIn? radix c).map (n * radix + ·)) 0

/-- The character that a number in hexadecimal digits names. -/
def charOfHex? (digits : List Char) : Option Char := do
  let n ← numberIn? 16 digits
  if n.isValidChar then some (Char.ofNat n) else none

end DocOptions
