/-!
# Decimal digits

Every script's decimal digits stand in a row of ten, so the digits are known from the places of the
zeros.  Numerals may be written in any of these scripts, and may even mix them.
-/

namespace GroupOperator.Text

/-- The code points of the decimal zeros, in increasing order. -/
def decimalZeros : List Nat := [
  48, 1632, 1776, 1984, 2406, 2534, 2662, 2790, 2918, 3046, 3174, 3302, 3430, 3558, 3664, 3792,
  3872, 4160, 4240, 6112, 6160, 6470, 6608, 6784, 6800, 6992, 7088, 7232, 7248, 42528, 43216,
  43264, 43472, 43504, 43600, 44016, 65296, 66720, 68912, 69734, 69872, 69942, 70096, 70384,
  70736, 70864, 71248, 71360, 71472, 71904, 72016, 72784, 73040, 73120, 92768, 92864, 93008,
  120782, 120792, 120802, 120812, 120822, 123200, 123632, 125264, 130032]

/-- The value of `n` in the row of ten that holds it, if one of the rows does. -/
def digitFrom : List Nat → Nat → Option Nat
  | [], _ => none
  | start :: starts, n =>
    if n < start then none
    else if n < start + 10 then some (n - start)
    else digitFrom starts n

/-- The value of a decimal digit, in whatever script it is written. -/
def digitValue? (c : Char) : Option Nat :=
  digitFrom decimalZeros c.toNat

/-- Whether a character is a decimal digit. -/
def isDigit (c : Char) : Bool :=
  (digitValue? c).isSome

/-- The digit of value `d`, for `d` below ten. -/
def digitChar (d : Nat) : Char :=
  Char.ofNat (48 + d)

/-- The number that a row of digit values denotes, the first being the most significant. -/
def ofDigits (ds : List Nat) : Nat :=
  ds.foldl (fun n d => 10 * n + d) 0

end GroupOperator.Text
