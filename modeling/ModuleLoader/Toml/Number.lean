import ModuleLoader.Toml.Text

/-!
# Numbers, dates and times

A number is a decimal, hexadecimal, octal or binary integer of 64 bits, or a decimal fraction, an
infinity or a "not a number". Digits may be grouped by single underscores. A fraction is accepted
unless it is positive and too large for a binary floating-point number of 64 bits, in which case it
would read as infinite.

Dates are those of the Gregorian calendar with a year of four digits. A time of day has seconds,
perhaps with a fraction, and sixty seconds are allowed for a leap second. After a date may come a
time, and after that an offset from universal time.
-/

namespace ModuleLoader

-- Powers are the ones that come with the numbers, whatever algebra is imported elsewhere.
attribute [local instance (high)] instPowNat

namespace Toml

/-! ## Digits -/

/-- One digit or more, with single underscores between digits. -/
def digitGroups (isDigit : Char → Bool) : Parser (List Char) := do
  let first ← takeExactly isDigit 1
  repeatUntil first fun acc => do
    match ← peek with
    | '_' :: _ =>
      char '_'
      return (acc ++ (← takeExactly isDigit 1), false)
    | c :: _ =>
      if isDigit c then
        discard next
        return (acc ++ [c], false)
      else return (acc, true)
    | [] => return (acc, true)

/-- The integer, if it fits 64 bits with a sign. -/
def int64 (value : Int) : Parser Document :=
  if -2 ^ (63 : Nat) ≤ value ∧ value < 2 ^ (63 : Nat) then return .integer value else fail

/-- Whether `mantissa * 10 ^ exponent` is rounded to infinity in 64 bits: it is at least halfway
from the largest finite number to the next power of two. -/
def isHuge (mantissa : Nat) (exponent : Int) : Bool :=
  let bound : Nat := 2 ^ (1024 : Nat) - 2 ^ (970 : Nat)
  let length : Int := (Nat.toDigits 10 mantissa).length
  if mantissa = 0 then false
  else if length + exponent < 300 then false
  else if length + exponent > 400 then true
  else if 0 ≤ exponent then bound ≤ mantissa * 10 ^ exponent.toNat
  else bound * 10 ^ (-exponent).toNat ≤ mantissa

/-- A sign, if there is one: whether it is a minus. -/
def sign? : Parser (Option Bool)
  | '+' :: rest => some (some false, rest)
  | '-' :: rest => some (some true, rest)
  | cs => some (none, cs)

/-- A decimal integer without superfluous zeros, or a fraction that begins with one. -/
def decimal (negative : Bool) : Parser Document := do
  let whole ← if ← startsWith "0" then takeExactly isDigit 1 else digitGroups isDigit
  let point ← startsWith "."
  let fraction ← if point then char '.' *> digitGroups isDigit else pure []
  let scaled := (← startsWith "e") || (← startsWith "E")
  let exponent : Int ←
    if scaled then do
      discard next
      let minus := (← sign?).getD false
      let size : Int := digitsValue 10 (← digitGroups isDigit)
      pure (if minus then -size else size)
    else pure 0
  let mantissa := digitsValue 10 (whole ++ fraction)
  if point || scaled then
    if !negative && isHuge mantissa (exponent - fraction.length) then fail else return .real
  else int64 (if negative then -mantissa else mantissa)

/-- An integer in a base that a letter after a zero announces. -/
def based (base : Nat) (isDigit : Char → Bool) : Parser Document := do
  discard (takeExactly (fun _ => true) 2)
  int64 (digitsValue base (← digitGroups isDigit))

/-- A number. -/
def number : Parser Document := do
  if ← startsWith "0x" then based 16 isHexDigit
  else if ← startsWith "0o" then based 8 fun c => '0' ≤ c && c ≤ '7'
  else if ← startsWith "0b" then based 2 fun c => c == '0' || c == '1'
  else
    let negative := (← sign?).getD false
    if ← startsWith "inf" then literal "inf" *> return .real
    else if ← startsWith "nan" then literal "nan" *> return .real
    else decimal negative

/-! ## Dates and times -/

/-- A number of exactly so many digits within bounds. -/
def digitsBetween (count low high : Nat) : Parser Nat := do
  let n := digitsValue 10 (← takeExactly isDigit count)
  if low ≤ n ∧ n ≤ high then return n else fail

/-- The number of days of a month. -/
def daysOfMonth (year month : Nat) : Nat :=
  if month = 2 then
    if year % 4 = 0 ∧ (year % 100 ≠ 0 ∨ year % 400 = 0) then 29 else 28
  else if month = 4 ∨ month = 6 ∨ month = 9 ∨ month = 11 then 30
  else 31

/-- A date. -/
def date : Parser Unit := do
  let year ← digitsBetween 4 0 9999
  char '-'
  let month ← digitsBetween 2 1 12
  char '-'
  discard (digitsBetween 2 1 (daysOfMonth year month))

/-- A time of day. -/
def timeOfDay : Parser Unit := do
  discard (digitsBetween 2 0 23)
  char ':'
  discard (digitsBetween 2 0 59)
  char ':'
  discard (digitsBetween 2 0 60)
  match ← peek with
  | '.' :: c :: _ => if isDigit c then char '.' *> discard (takeWhile isDigit)
  | _ => pure ()

/-- An offset from universal time, if there is one. -/
def offset : Parser Unit := do
  match ← peek with
  | 'Z' :: _ | 'z' :: _ => discard next
  | '+' :: _ | '-' :: _ =>
    discard next
    discard (digitsBetween 2 0 23)
    char ':'
    discard (digitsBetween 2 0 59)
  | _ => pure ()

/-- Whether characters begin like a date. -/
def looksLikeDate : List Char → Bool
  | a :: b :: c :: d :: '-' :: _ => [a, b, c, d].all isDigit
  | _ => false

/-- Whether characters begin like a time of day. -/
def looksLikeTime : List Char → Bool
  | a :: b :: ':' :: _ => isDigit a && isDigit b
  | _ => false

/-- A date, a time of day, or a date with a time and perhaps an offset; or else a number. -/
def numberOrMoment : Parser Document := do
  let input ← peek
  if looksLikeDate input then
    date
    match ← peek with
    | c :: rest =>
      if (c == 'T' || c == 't' || c == ' ') && looksLikeTime rest then
        discard next
        timeOfDay
        offset
    | [] => pure ()
    return .moment
  else if looksLikeTime input then
    timeOfDay
    return .moment
  else number

end Toml

end ModuleLoader
