import GroupOperator.Text.CharClass

/-!
# White space

Two sets of blanks are in use.  Text is trimmed of every Unicode blank, among which the four
information separators count.  Numbers are trimmed of the same set less those separators, so a
separator beside a numeral makes it malformed.
-/

namespace GroupOperator.Text

/-- The characters Unicode treats as white space, with the separators U+001C to U+001F. -/
def blanks : CharClass := ⟨[
  9, 14, 28, 33, 133, 134, 160, 161, 5760, 5761, 8192, 8203, 8232, 8234, 8239, 8240, 8287, 8288,
  12288, 12289]⟩

/-- Whether a character is white space. -/
def isBlank (c : Char) : Bool :=
  blanks.contains c

/-- Whether a character may surround a numeral. -/
def isNumberBlank (c : Char) : Bool :=
  isBlank c && !(28 ≤ c.toNat && c.toNat ≤ 31)

/-- Whether a text has nothing but white space in it. -/
def isAllBlank (cs : List Char) : Bool :=
  cs.all isBlank

/-- Drops the characters of a class from both ends. -/
def trimBy (p : Char → Bool) (cs : List Char) : List Char :=
  ((cs.dropWhile p).reverse.dropWhile p).reverse

/-- Drops the white space at both ends. -/
def trim (cs : List Char) : List Char :=
  trimBy isBlank cs

@[simp] theorem isAllBlank_nil : isAllBlank [] = true := rfl

end GroupOperator.Text
