import GroupOperator.Text.Quoted

/-!
# Tokens of a document

A document is first cut into tokens: the six marks, texts with their escapes undone, and words,
which are numbers or the names of constants.  One walk over the characters does it; what has been
begun and not finished is held in a small state.

A text may hold any character, written plainly or as escapes; an escape for half of a surrogate pair
must be followed by the escape for the other half.
-/

namespace GroupOperator.Json

/-- A token. -/
inductive Token where
  /-- An opening square bracket. -/
  | openList
  /-- A closing square bracket. -/
  | closeList
  /-- An opening curly brace. -/
  | openObject
  /-- A closing curly brace. -/
  | closeObject
  /-- A comma. -/
  | comma
  /-- A colon. -/
  | colon
  /-- A text, its escapes undone. -/
  | text (s : String)
  /-- A number or the name of a constant, as written. -/
  | word (cs : List Char)
  deriving DecidableEq, Repr

/-- What has been begun; characters are held backwards. -/
inductive Pending where
  /-- Nothing. -/
  | nothing
  /-- A word. -/
  | word (cs : List Char)
  /-- A text. -/
  | text (cs : List Char)
  /-- A text, and a backslash in it. -/
  | escape (cs : List Char)
  /-- A text, and a numeric escape in it of which `missing` digits are still to come; `high` is the
  first half of a surrogate pair, if one went before. -/
  | code (cs : List Char) (high : Option Nat) (missing value : Nat)
  /-- A text, and the first half of a surrogate pair. -/
  | halfPair (cs : List Char) (high : Nat)
  /-- The same, and a backslash. -/
  | halfPairEscape (cs : List Char) (high : Nat)

/-- Whether a character may stand in a word. -/
def isWordPart (c : Char) : Bool :=
  c.isAlphanum || c = '-' || c = '+' || c = '.'

/-- Whether a character may stand between tokens. -/
def isSpace (c : Char) : Bool :=
  c = ' ' || c = '\n' || c = '\r' || c = '\t'

/-- The token that a mark is. -/
def mark? (c : Char) : Option Token :=
  if c = '[' then some .openList
  else if c = ']' then some .closeList
  else if c = '\x7b' then some .openObject
  else if c = '\x7d' then some .closeObject
  else if c = ',' then some .comma
  else if c = ':' then some .colon
  else none

/-- What a character does when nothing has been begun: a token it completes, and what it begins. -/
def begin? (c : Char) : Option (List Token × Pending) :=
  match mark? c with
  | some mark => some ([mark], .nothing)
  | none =>
    if isSpace c then some ([], .nothing)
    else if c = '"' then some ([], .text [])
    else if isWordPart c then some ([], .word [c])
    else none

/-- The character that a short escape stands for. -/
def shortEscape? (c : Char) : Option Char :=
  if c = '"' || c = '\\' || c = '/' then some c
  else if c = 'n' then some '\n'
  else if c = 't' then some '\t'
  else if c = 'r' then some '\r'
  else if c = 'b' then some '\x08'
  else if c = 'f' then some '\x0c'
  else none

/-- The value of a hexadecimal digit. -/
def hexValue? (c : Char) : Option Nat :=
  if '0' ≤ c ∧ c ≤ '9' then some (c.toNat - 48)
  else if 'a' ≤ c ∧ c ≤ 'f' then some (c.toNat - 87)
  else if 'A' ≤ c ∧ c ≤ 'F' then some (c.toNat - 55)
  else none

/-- Adds the code unit of a numeric escape to a text. -/
def addUnit? (cs : List Char) (high : Option Nat) (unit : Nat) : Option Pending :=
  match high with
  | some h =>
    if 0xDC00 ≤ unit ∧ unit < 0xE000 then
      some (.text (Char.ofNat (0x10000 + (h - 0xD800) * 0x400 + (unit - 0xDC00)) :: cs))
    else none
  | none =>
    if unit < 0xD800 ∨ 0xE000 ≤ unit then some (.text (Char.ofNat unit :: cs))
    else if unit < 0xDC00 then some (.halfPair cs unit)
    else none

/-- One character: the tokens it completes and what is then begun. -/
def Pending.step (c : Char) : Pending → Option (List Token × Pending)
  | .nothing => begin? c
  | .word cs =>
    if isWordPart c then some ([], .word (c :: cs))
    else (begin? c).map fun (ts, p) => (.word cs.reverse :: ts, p)
  | .text cs =>
    if c = '"' then some ([.text (String.ofList cs.reverse)], .nothing)
    else if c = '\\' then some ([], .escape cs)
    else if c.toNat < 32 then none
    else some ([], .text (c :: cs))
  | .escape cs =>
    if c = 'u' then some ([], .code cs none 4 0)
    else (shortEscape? c).map fun d => ([], .text (d :: cs))
  | .code cs high missing value =>
    match hexValue? c with
    | none => none
    | some d =>
      if missing ≤ 1 then (addUnit? cs high (16 * value + d)).map ([], ·)
      else some ([], .code cs high (missing - 1) (16 * value + d))
  | .halfPair cs high => if c = '\\' then some ([], .halfPairEscape cs high) else none
  | .halfPairEscape cs high => if c = 'u' then some ([], .code cs (some high) 4 0) else none

/-- The tokens completed from here on. -/
def tokensFrom : Pending → List Char → Option (List Token)
  | .nothing, [] => some []
  | .word cs, [] => some [.word cs.reverse]
  | _, [] => none
  | pending, c :: rest =>
    match pending.step c with
    | none => none
    | some ([], pending) => tokensFrom pending rest
    | some (ts, pending) => (tokensFrom pending rest).map (ts ++ ·)

/-- The tokens of a document. -/
def tokens? (s : String) : Option (List Token) :=
  tokensFrom .nothing s.toList

end GroupOperator.Json
