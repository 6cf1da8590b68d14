import DocOptions.Numeral.Literal
import DocOptions.Text.Reader

/-! Dates and times of a document. As settings they are texts: a date, a time, or both with a `T`
between them and perhaps an offset. -/

namespace DocOptions.Toml

open Reader

/-- Reads a number of exactly `count` digits within bounds. -/
def readField (count least greatest : Nat) : Reader (List Char) := do
  let digits ← takeExactly count Char.isDigit
  let n := Decimal.digitsValue digits
  if least ≤ n ∧ n ≤ greatest then return digits else failure

def daysOfMonth (year month : Nat) : Nat :=
  if month = 2 then
    if year % 4 = 0 ∧ (year % 100 ≠ 0 ∨ year % 400 = 0) then 29 else 28
  else if month ∈ [4, 6, 9, 11] then 30
  else 31

/-- Reads a day of the calendar. -/
def readDate : Reader (List Char) := do
  let year ← takeExactly 4 Char.isDigit
  char '-'
  let month ← readField 2 1 12
  char '-'
  let days := daysOfMonth (Decimal.digitsValue year) (Decimal.digitsValue month)
  let day ← readField 2 1 days
  return year ++ ['-'] ++ month ++ ['-'] ++ day

/-- A fraction of a second to nine places, without zeros at its end. -/
def fractionText (digits : List Char) : List Char :=
  match ((digits.take 9).reverse.dropWhile (· == '0')).reverse with
  | [] => []
  | solid => '.' :: solid

/-- Reads a time of the day. A minute may have a second more than sixty. -/
def readTime : Reader (List Char) := do
  let hour ← readField 2 0 23
  char ':'
  let minute ← readField 2 0 59
  char ':'
  let second ← readField 2 0 60
  let fraction ← option do
    char '.'
    takeSome Char.isDigit
  return hour ++ [':'] ++ minute ++ [':'] ++ second ++ fractionText (fraction.getD [])

/-- Reads an offset from universal time. One of no length is written with a plus sign. -/
def readOffset : Reader (List Char) := do
  let sign ← take fun c => c == 'Z' || c == 'z' || c == '+' || c == '-'
  if sign.toLower == 'z' then return ['Z']
  else
    let hour ← readField 2 0 23
    char ':'
    let minute ← readField 2 0 59
    let isZero := Decimal.digitsValue (hour ++ minute) == 0
    return (if isZero then '+' else sign) :: hour ++ [':'] ++ minute

def readMoment : Reader (List Char) := do
  let dated ← option do
    let date ← readDate
    let timed ← option do
      let _ ← take fun c => c == 'T' || c == 't' || c == ' '
      let time ← readTime
      return 'T' :: time ++ (← option readOffset).getD []
    return date ++ timed.getD []
  match dated with
  | some moment => return moment
  | none => readTime

end DocOptions.Toml
