import GroupOperator.Number.Binary64
import GroupOperator.Text.Blank
import GroupOperator.Text.Digit

/-!
# Numerals

How numbers are read from text: blanks around the numeral are dropped, a sign may stand in front,
digits of any script count, and a single underscore may separate two digits.

A decimal numeral has digits with at most one point among or beside them and possibly an exponent;
the words for infinity and for what is not a number are read too, in any case.
-/

namespace GroupOperator.Numeral

open GroupOperator.Text

/-! ## Marks

A numeral is read as a row of marks, in which the script of a digit no longer shows. -/

/-- One character of a numeral. -/
inductive Mark where
  /-- A digit, by its value. -/
  | digit (value : Nat)
  /-- Any other character. -/
  | other (c : Char)
  deriving DecidableEq, Repr

/-- What a character means in a numeral. -/
def Mark.ofChar (c : Char) : Mark :=
  match digitValue? c with
  | some d => .digit d
  | none => .other c

/-- The marks of a text without the blanks around it. -/
def marks (s : String) : List Mark :=
  (trimBy isNumberBlank s.toList).map .ofChar

/-- Drops the underscores, each of which must stand between two digits. -/
def dropUnderscores : List Mark → Option (List Mark)
  | [] => some []
  | .digit d :: .other '_' :: .digit e :: rest =>
    (dropUnderscores (.digit e :: rest)).map (.digit d :: ·)
  | .other '_' :: _ => none
  | mark :: rest => (dropUnderscores rest).map (mark :: ·)

/-- The digits a row starts with, and the rest. -/
def spanDigits : List Mark → List Nat × List Mark
  | .digit d :: rest => let (ds, rest) := spanDigits rest; (d :: ds, rest)
  | rest => ([], rest)

/-- The sign a row starts with, `true` for minus, and the rest. -/
def spanSign : List Mark → Bool × List Mark
  | .other '-' :: rest => (true, rest)
  | .other '+' :: rest => (false, rest)
  | rest => (false, rest)

/-! ## Decimal numerals -/

/-- The letters of a row, in lower case. -/
def lowerLetters (row : List Mark) : List Char :=
  row.map fun
    | .digit d => digitChar d
    | .other c => c.toLower

/-- The value of the words for infinity and for what is not a number. -/
def word? (negative : Bool) (row : List Mark) : Option Binary64 :=
  let letters := lowerLetters row
  if letters = "inf".toList || letters = "infinity".toList then some (.infinite negative)
  else if letters = "nan".toList then some .nan
  else none

/-- The exponent at the end of a numeral: none at all, or a letter, a sign and digits. -/
def exponent? : List Mark → Option Int
  | [] => some 0
  | .other c :: rest =>
    if c = 'e' || c = 'E' then
      let (negative, rest) := spanSign rest
      match spanDigits rest with
      | ([], _) => none
      | (ds, []) => some (if negative then -(ofDigits ds : Int) else ofDigits ds)
      | _ => none
    else none
  | _ => none

/-- The digits after the point, if there is a point, and the rest. -/
def spanFraction : List Mark → List Nat × List Mark
  | .other '.' :: rest => spanDigits rest
  | rest => ([], rest)

/-- The value of digits with a point and an exponent. -/
def digits? (negative : Bool) (row : List Mark) : Option Binary64 :=
  let (whole, rest) := spanDigits row
  let (fraction, rest) := spanFraction rest
  if whole.isEmpty && fraction.isEmpty then none
  else
    (exponent? rest).map fun e =>
      .ofDecimal negative (ofDigits (whole ++ fraction)) (e - fraction.length)

/-- The number a text denotes, if it is a decimal numeral. -/
def decimal? (s : String) : Option Binary64 := do
  let row ← dropUnderscores (marks s)
  let (negative, row) := spanSign row
  digits? negative row <|> word? negative row

/-! ## Whole numerals -/

/-- The most digits a whole numeral may have. -/
def maxWholeDigits : Nat := 4300

/-- Why a text is no whole numeral. -/
inductive WholeError where
  /-- It has more digits than are read; the number of digits is given. -/
  | tooLong (digits : Nat)
  /-- It is not written as one. -/
  | malformed
  deriving DecidableEq, Repr

/-- The digits a row starts with, single underscores between them being dropped, and the rest.
There is none if an underscore stands anywhere else. -/
def spanSeparated : List Mark → Option (List Nat × List Mark)
  | .digit d :: .other '_' :: .digit e :: rest =>
    (spanSeparated (.digit e :: rest)).map fun (ds, rest) => (d :: ds, rest)
  | .digit _ :: .other '_' :: _ => none
  | .digit d :: rest => (spanSeparated rest).map fun (ds, rest) => (d :: ds, rest)
  | .other '_' :: _ => none
  | rest => some ([], rest)

/-- The whole number a text denotes.  The length is judged before what follows the digits is. -/
def whole? (s : String) : Except WholeError Int :=
  let (negative, row) := spanSign (marks s)
  match spanSeparated row with
  | none => .error .malformed
  | some ([], _) => .error .malformed
  | some (ds, rest) =>
    if maxWholeDigits < ds.length then .error (.tooLong ds.length)
    else if rest.isEmpty then .ok (if negative then -(ofDigits ds : Int) else ofDigits ds)
    else .error .malformed

end GroupOperator.Numeral
