import GroupOperator.Json.Token
import GroupOperator.Number.Numeral
import GroupOperator.Value

/-!
# Reading documents

Tokens become a value in one walk.  The containers that have been opened and not yet closed are
held in a list of frames, innermost first, beside what may come next.

A number with a point or an exponent is a floating number and any other a whole number.  A member
that is named twice keeps its first place and its last value.
-/

namespace GroupOperator.Json

open GroupOperator.Numeral

/-! ## Words -/

/-- The number that a word is: no sign but minus, no needless zero in front, digits on both sides of
a point. -/
def number? (cs : List Char) : Option Value :=
  let row := cs.map Mark.ofChar
  let (negative, row) := match row with
    | .other '-' :: rest => (true, rest)
    | rest => (false, rest)
  let (whole, rest) := spanDigits row
  if whole.isEmpty || (whole.head? = some 0 && 1 < whole.length) then none
  else if rest.isEmpty then
    some (.int (if negative then -(Text.ofDigits whole : Int) else Text.ofDigits whole))
  else
    let (fraction, tail) := spanFraction rest
    if rest.head? = some (.other '.') && fraction.isEmpty then none
    else
      (digits? negative row).bind fun x =>
        if (exponent? tail).isSome then some (.float x) else none

/-- The values that have a name. -/
def named : List (String × Value) :=
  [("null", .null), ("true", .bool true), ("false", .bool false), ("NaN", .float .nan),
    ("Infinity", .float (.infinite false)), ("-Infinity", .float (.infinite true))]

/-- The value of a word. -/
def word? (cs : List Char) : Option Value :=
  match named.find? (·.1.toList = cs) with
  | some (_, v) => some v
  | none => number? cs

/-! ## Containers -/

/-- Gives a member its value: in place if there is one of that name, else at the end.  The row is
held backwards. -/
def assign (name : String) (v : Value) (members : List (String × Value)) : List (String × Value) :=
  if members.any (·.1 = name) then members.map fun m => if m.1 = name then (name, v) else m
  else (name, v) :: members

/-- A container that has been opened; what it holds so far is held backwards. -/
inductive Frame where
  /-- A sequence. -/
  | list (items : List Value)
  /-- An object, and the name of the member whose value comes next. -/
  | object (members : List (String × Value)) (name : String)

/-- What may come next. -/
inductive Expected where
  /-- A value. -/
  | value
  /-- The first item of a sequence, or its end. -/
  | itemOrEnd
  /-- The first member of an object, or its end. -/
  | memberOrEnd
  /-- A further member of an object. -/
  | member (members : List (String × Value))
  /-- The colon after the name of a member. -/
  | colon
  /-- A comma or the end of the innermost container. -/
  | commaOrEnd
  /-- Nothing: the document is complete. -/
  | nothing (v : Value)

/-- The containers that are open, innermost first, and what may come next. -/
structure Progress where
  /-- The open containers. -/
  frames : List Frame
  /-- What may come next. -/
  expected : Expected

namespace Progress

/-- A value is complete: it goes into the innermost container, or it is the document. -/
def complete (v : Value) : List Frame → Progress
  | [] => ⟨[], .nothing v⟩
  | .list items :: frames => ⟨.list (v :: items) :: frames, .commaOrEnd⟩
  | .object members name :: frames => ⟨.object (assign name v members) name :: frames, .commaOrEnd⟩

/-- A token where a value may stand. -/
def value? (frames : List Frame) : Token → Option Progress
  | .openList => some ⟨.list [] :: frames, .itemOrEnd⟩
  | .openObject => some ⟨frames, .memberOrEnd⟩
  | .text s => some (complete (.str s) frames)
  | .word cs => (word? cs).map (complete · frames)
  | _ => none

/-- One token. -/
def step (p : Progress) (t : Token) : Option Progress :=
  match p.expected, t, p.frames with
  | .value, t, frames => value? frames t
  | .itemOrEnd, .closeList, _ :: frames => some (complete (.list []) frames)
  | .itemOrEnd, t, frames => value? frames t
  | .memberOrEnd, .closeObject, frames => some (complete (.object []) frames)
  | .memberOrEnd, .text name, frames => some ⟨.object [] name :: frames, .colon⟩
  | .member members, .text name, frames => some ⟨.object members name :: frames, .colon⟩
  | .colon, .colon, frames => some ⟨frames, .value⟩
  | .commaOrEnd, .comma, .list items :: frames => some ⟨.list items :: frames, .value⟩
  | .commaOrEnd, .comma, .object members _ :: frames => some ⟨frames, .member members⟩
  | .commaOrEnd, .closeList, .list items :: frames => some (complete (.list items.reverse) frames)
  | .commaOrEnd, .closeObject, .object members _ :: frames =>
    some (complete (.object members.reverse) frames)
  | _, _, _ => none

end Progress

/-- The value that a document holds. -/
def read? (s : String) : Option Value := do
  let tokens ← tokens? s
  let p ← tokens.foldlM Progress.step ⟨[], .value⟩
  match p.expected with
  | .nothing v => some v
  | _ => none

end GroupOperator.Json
