import GroupOperator.Value

/-!
# Writing documents

The written form of a value as one line of plain ASCII: a blank after every comma and colon, and
every character outside the printable ASCII range as an escape, those beyond the first plane as a
pair of escapes.
-/

namespace GroupOperator.Json

/-- A numeric escape for one 16-bit unit. -/
def unitEscape (n : Nat) : List Char :=
  '\\' :: 'u' :: Text.hexDigits 4 n

/-- The escape of a character by its code point. -/
def codeEscape (n : Nat) : List Char :=
  if n < 0x10000 then unitEscape n
  else unitEscape (0xD800 + (n - 0x10000) / 0x400) ++ unitEscape (0xDC00 + (n - 0x10000) % 0x400)

/-- How one character is written between double quotes. -/
def escapeChar (c : Char) : List Char :=
  if c = '"' || c = '\\' then ['\\', c]
  else if c = '\n' then ['\\', 'n']
  else if c = '\r' then ['\\', 'r']
  else if c = '\t' then ['\\', 't']
  else if c = '\x08' then ['\\', 'b']
  else if c = '\x0c' then ['\\', 'f']
  else if 32 ≤ c.toNat && c.toNat ≤ 126 then [c]
  else codeEscape c.toNat

/-- The written form of a text. -/
def writeText (s : String) : String :=
  String.ofList ('"' :: s.toList.flatMap escapeChar ++ ['"'])

/-- The written form of a floating number. -/
def writeFloat : Binary64 → String
  | .nan => "NaN"
  | .infinite negative => if negative then "-Infinity" else "Infinity"
  | x => x.text

mutual

/-- The written form of a value. -/
def write : Value → String
  | .null => "null"
  | .bool b => if b then "true" else "false"
  | .int i => toString i
  | .float x => writeFloat x
  | .str s => writeText s
  | .list items => "[" ++ ", ".intercalate (writeItems items) ++ "]"
  | .object members => "\x7b" ++ ", ".intercalate (writeMembers members) ++ "\x7d"

/-- The written forms of the items of a sequence. -/
def writeItems : List Value → List String
  | [] => []
  | v :: vs => write v :: writeItems vs

/-- The written forms of the members of an object. -/
def writeMembers : List (String × Value) → List String
  | [] => []
  | (k, v) :: vs => (writeText k ++ ": " ++ write v) :: writeMembers vs

end

end GroupOperator.Json
