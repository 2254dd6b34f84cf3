import GroupOperator.Number.Binary64
import GroupOperator.Text.Digit

/-!
# The shortest decimal of a number

A number of the double format stands for an interval of reals, those that round to it.  Its text
shows the point of that interval that needs the fewest digits: the decimal grids are tried from
coarse to fine, and the first one with a point in the interval wins.  If both neighbours of the
number on that grid lie inside, the nearer is taken, and of two equally near the one with the even
last digit.

How digits are laid out (where the point stands, when an exponent is written) is a separate
decision, held in one record.
-/

namespace GroupOperator.Binary64

/-! ## The interval -/

/-- The reals that round to a number, in units of `2 ^ unit`: from `low` to `high`, around
`value`. -/
structure Interval where
  /-- The lower end. -/
  low : Nat
  /-- The number itself. -/
  value : Nat
  /-- The upper end. -/
  high : Nat
  /-- The power of two in which all three are counted. -/
  unit : Int
  /-- Whether the ends belong to the interval. -/
  closed : Bool

/-- The interval of a positive number.  Below a power of two the next number is nearer. -/
def interval (m : Nat) (e : Int) : Interval where
  low := if m = Nat.pow 2 52 ∧ minExponent < e then 4 * m - 1 else 4 * m - 2
  value := 4 * m
  high := 4 * m + 2
  unit := e - 2
  closed := m % 2 = 0

/-- The power `base ^ e` as a ratio. -/
def powerRatio (base : Nat) (e : Int) : Nat × Nat :=
  if 0 ≤ e then (Nat.pow base e.toNat, 1) else (1, Nat.pow base (-e).toNat)

/-- The interval of a number and one decimal grid, brought to a common unit: the grid's points are
the multiples of `step`, and the interval runs from `low` to `high`. -/
structure Ruler where
  /-- The distance between neighbouring points of the grid. -/
  step : Nat
  /-- The lower end of the interval. -/
  low : Nat
  /-- The number. -/
  value : Nat
  /-- The upper end. -/
  high : Nat
  /-- Whether the ends belong to the interval. -/
  closed : Bool

/-- The grid of the multiples of `10 ^ k`, laid along an interval. -/
def Interval.ruler (i : Interval) (k : Int) : Ruler :=
  let (p, q) := powerRatio 10 k
  let (a, b) := powerRatio 2 i.unit
  { step := p * b, low := i.low * a * q, value := i.value * a * q, high := i.high * a * q,
    closed := i.closed }

namespace Ruler

/-- Whether a place on the ruler lies in the interval. -/
def holds (r : Ruler) (place : Nat) : Bool :=
  if r.closed then r.low ≤ place && place ≤ r.high else r.low < place && place < r.high

/-- The multiple of the step that stands for the number, if one lies in the interval. -/
def best? (r : Ruler) : Option Nat :=
  let below := r.value / r.step
  let above := below + 1
  match r.holds (below * r.step), r.holds (above * r.step) with
  | true, false => some below
  | false, true => some above
  | false, false => none
  | true, true =>
    let left := r.value - below * r.step
    let right := above * r.step - r.value
    if left < right then some below
    else if right < left then some above
    else if below % 2 = 0 then some below else some above

end Ruler

/-- Tries the grids of `10 ^ k`, `10 ^ (k - 1)`, … in turn. -/
def searchGrids (i : Interval) : Nat → Int → Option (Nat × Int)
  | 0, _ => none
  | tries + 1, k =>
    match (i.ruler k).best? with
    | some n => some (n, k)
    | none => searchGrids i tries (k - 1)

/-- The digits `n` and exponent `k` of the shortest decimal `n * 10 ^ k` of a positive number.  The
first grid tried is coarser than the number; seventeen digits always suffice. -/
def shortest (m : Nat) (e : Int) : Nat × Int :=
  let magnitude : Int := (Int.ofNat m.log2 + 1 + e) * 30103 / 100000 + 1
  (searchGrids (interval m e) 20 magnitude).getD (m, 0)

/-! ## Layout -/

/-- How the digits of a number are laid out as text. -/
structure Layout where
  /-- The least decimal exponent written without exponent notation. -/
  leastPlain : Int
  /-- The least decimal exponent, above that, written with exponent notation. -/
  leastScientific : Int
  /-- What ends a whole number written without exponent. -/
  wholeSuffix : String
  /-- The least number of digits of an exponent. -/
  exponentWidth : Nat
  /-- The text of infinity. -/
  infinity : String
  /-- The text of what is not a number. -/
  notANumber : String

/-- Whole numbers end in ".0", an exponent is written below -4 and from 16 on, and has a sign and at
least two digits. -/
def layout : Layout := ⟨-4, 16, ".0", 2, "inf", "nan"⟩

/-- A number in decimal digits, with zeros in front up to a width. -/
def paddedDigits (width n : Nat) : List Char :=
  let ds := Nat.toDigits 10 n
  List.replicate (width - ds.length) '0' ++ ds

/-- Lays out the digits `ds` of a number whose first digit counts `10 ^ first`. -/
def Layout.place (l : Layout) (ds : List Char) (first : Int) : List Char :=
  if first < l.leastPlain ∨ l.leastScientific ≤ first then
    let point := match ds with
      | d :: [] => [d]
      | d :: rest => d :: '.' :: rest
      | [] => []
    let sign := if first < 0 then '-' else '+'
    point ++ 'e' :: sign :: paddedDigits l.exponentWidth first.natAbs
  else if first < 0 then
    '0' :: '.' :: List.replicate ((-first).toNat - 1) '0' ++ ds
  else
    let whole := first.toNat + 1
    if ds.length ≤ whole then
      ds ++ List.replicate (whole - ds.length) '0' ++ l.wholeSuffix.toList
    else ds.take whole ++ '.' :: ds.drop whole

/-- The text of a number. -/
def text : Binary64 → String
  | .nan => layout.notANumber
  | .infinite negative => (if negative then "-" else "") ++ layout.infinity
  | .finite negative m e =>
    let body :=
      if m = 0 then layout.place ['0'] 0
      else
        let (n, k) := shortest m e
        let ds := Nat.toDigits 10 n
        let kept := (ds.reverse.dropWhile (· == '0')).reverse
        layout.place kept (k + Int.ofNat ds.length - 1)
    (if negative then "-" else "") ++ String.ofList body

end GroupOperator.Binary64
