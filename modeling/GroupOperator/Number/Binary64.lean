/-!
# Binary numbers of 64 bits

The numbers of the double format, as data: a sign, a significand and a power of two.  Every value
has one form, so equality of values is equality of data, with one exception that the format itself
makes: zero keeps its sign.

A ratio of whole numbers is *rounded* to the nearest of these numbers, a tie going to the even
significand; every other way of making one goes through that.
-/

namespace GroupOperator

/-- A number of the double format. -/
inductive Binary64 where
  /-- Not a number. -/
  | nan
  /-- An infinity. -/
  | infinite (negative : Bool)
  /-- The number `significand * 2 ^ exponent`, negated if `negative`.  The significand has at most
  53 bits, and exactly 53 unless the exponent is the least one, -1074. -/
  | finite (negative : Bool) (significand : Nat) (exponent : Int)
  deriving DecidableEq, Repr, Inhabited

namespace Binary64

/-- The least exponent. -/
def minExponent : Int := -1074

/-- The greatest exponent. -/
def maxExponent : Int := 971

/-- Zero with a sign. -/
def zero (negative : Bool) : Binary64 :=
  .finite negative 0 minExponent

/-! ## Rounding -/

/-- A quotient rounded to the nearest whole number, a tie going to the even one. -/
def divideEven (num den : Nat) : Nat :=
  let q := num / den
  let twice := 2 * (num % den)
  if twice < den then q
  else if den < twice then q + 1
  else if q % 2 = 0 then q else q + 1

/-- The ratio `num / den` divided by `2 ^ e`, as a ratio. -/
def scaled (num den : Nat) (e : Int) : Nat × Nat :=
  if 0 ≤ e then (num, den * Nat.pow 2 e.toNat) else (num * Nat.pow 2 (-e).toNat, den)

/-- The exponent at which a ratio has a significand of 53 bits, or the least exponent if that is
greater. -/
def exponentOf (num den : Nat) : Int :=
  let guess : Int := Int.ofNat num.log2 - Int.ofNat den.log2 - 53
  let (n, d) := scaled num den guess
  let e := if n / d < Nat.pow 2 53 then guess else guess + 1
  max e minExponent

/-- The number of a significand and an exponent, one bit too many being carried into the exponent
and an exponent too great giving infinity. -/
def assemble (negative : Bool) (significand : Nat) (e : Int) : Binary64 :=
  let (m, e) := if significand = Nat.pow 2 53 then (Nat.pow 2 52, e + 1) else (significand, e)
  if maxExponent < e then .infinite negative else .finite negative m e

/-- The number nearest to `num / den`, a tie going to the even significand. -/
def ofRatio (negative : Bool) (num den : Nat) : Binary64 :=
  if num = 0 then zero negative
  else
    let e := exponentOf num den
    let (n, d) := scaled num den e
    assemble negative (divideEven n d) e

/-- The number nearest to `digits * 10 ^ exponent`.  Exponents that cannot matter are not worked
out: past either end of the format the answer is infinity or zero. -/
def ofDecimal (negative : Bool) (digits : Nat) (exponent : Int) : Binary64 :=
  let magnitude : Int := exponent + Int.ofNat (digits.log2 * 30103 / 100000)
  if digits = 0 then zero negative
  else if 400 < magnitude then .infinite negative
  else if magnitude < -400 then zero negative
  else if 0 ≤ exponent then ofRatio negative (digits * Nat.pow 10 exponent.toNat) 1
  else ofRatio negative digits (Nat.pow 10 (-exponent).toNat)

/-! ## Comparison with zero

Not a number compares neither below nor above nor equal. -/

/-- Whether the number is less than zero. -/
def isNegative : Binary64 → Bool
  | .nan => false
  | .infinite negative => negative
  | .finite negative m _ => negative && m != 0

/-- Whether the number is greater than zero. -/
def isPositive : Binary64 → Bool
  | .nan => false
  | .infinite negative => !negative
  | .finite negative m _ => !negative && m != 0

/-- Whether the number is zero, of either sign. -/
def isZero : Binary64 → Bool
  | .finite _ m _ => m == 0
  | _ => false

/-- Every number is less than zero, zero or greater than zero, unless it is no number. -/
theorem eq_nan_or_signed (x : Binary64) :
    x = .nan ∨ x.isNegative = true ∨ x.isZero = true ∨ x.isPositive = true := by
  cases x with
  | nan => exact .inl rfl
  | infinite n => cases n <;> simp [isNegative, isPositive]
  | finite n m e => by_cases h : m = 0 <;> cases n <;> simp [isNegative, isPositive, isZero, h]

/-! ## Whole numbers -/

/-- The whole number left when the fraction of a finite number is dropped. -/
def truncate? : Binary64 → Option Int
  | .finite negative m e =>
    let n : Nat := if 0 ≤ e then m * Nat.pow 2 e.toNat else m / Nat.pow 2 (-e).toNat
    some (if negative then -(n : Int) else n)
  | _ => none

/-- The whole number that a number equals, if it equals one. -/
def whole? : Binary64 → Option Int
  | .finite negative m e =>
    if 0 ≤ e || m % Nat.pow 2 (-e).toNat == 0 then truncate? (.finite negative m e) else none
  | _ => none

end Binary64

end GroupOperator
