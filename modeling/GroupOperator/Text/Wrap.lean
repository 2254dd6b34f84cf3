import GroupOperator.Text.Blank
import GroupOperator.Text.Word

/-!
# Filling lines

A paragraph is cut into *chunks* at the places where a line may end, and the chunks are laid on
lines of a given width.

* A run of blanks is a chunk; a dash of two or more hyphens between words is a chunk.
* A word ends after a hyphen that has two letters before it (or a letter, a hyphen and a letter) and
  two letters after it (again with a hyphen allowed between them).
* Blanks at the start of a line are dropped, save on the first line, and so is a blank chunk at the
  end of any line.
* A chunk too long for any line is cut where the current line is full, after the last hyphen that
  still fits if something other than hyphens stands before it.

Widths are counted in characters.
-/

namespace GroupOperator.Text

/-! ## Where a line may end -/

/-- The blanks at which words end. -/
def isWordBreak (c : Char) : Bool :=
  c = ' ' || (9 ≤ c.toNat && c.toNat ≤ 13)

/-- The characters after which a dash may follow without a blank. -/
def joinsDash (c : Char) : Bool :=
  isWordChar c || ['!', '"', '\x27', '&', '.', ',', '?'].contains c

/-- Whether the text starts with at least `least` hyphens and goes on with a word character. -/
def dashAhead : Nat → List Char → Bool
  | least, '-' :: rest => dashAhead (least - 1) rest
  | 0, c :: _ => isWordChar c
  | _, _ => false

/-- Whether a dash between words starts at `rest`, the text before it being `past` backwards. -/
def dashStarts (past rest : List Char) : Bool :=
  (past.head?.any joinsDash) && dashAhead 2 rest

/-- Whether the text before a hyphen, backwards, lets a line end after the hyphen. -/
def hyphenBehind : List Char → Bool
  | a :: b :: rest =>
    isLetter a && (isLetter b || (b = '-' && rest.head?.any isLetter))
  | _ => false

/-- Whether the text after a hyphen lets a line end after the hyphen. -/
def hyphenAhead : List Char → Bool
  | a :: b :: rest =>
    isLetter a && (isLetter b || (b = '-' && rest.head?.any isLetter))
  | _ => false

/-- What the chunk being read consists of. -/
inductive ChunkKind where
  /-- Blanks. -/
  | blank
  /-- The hyphens of a dash between words. -/
  | dash
  /-- Anything else. -/
  | word

/-- The kind of chunk that starts with `c`, followed by `rest`. -/
def ChunkKind.starting (past : List Char) (c : Char) (rest : List Char) : ChunkKind :=
  if isWordBreak c then .blank
  else if c = '-' && dashStarts past (c :: rest) then .dash
  else .word

/-- Whether `c` goes on the chunk that is being read. -/
def ChunkKind.goesOn (past : List Char) (c : Char) (rest : List Char) : ChunkKind → Bool
  | .blank => isWordBreak c
  | .dash => c = '-'
  | .word => !isWordBreak c && !dashStarts past (c :: rest)

/-- Whether a word ends right after `c`, which is part of it. -/
def ChunkKind.endsAfter (past : List Char) (c : Char) (rest : List Char) : ChunkKind → Bool
  | .word => c = '-' && hyphenBehind past && hyphenAhead rest
  | _ => false

/-- Reads on: `past` is all the text before, backwards, and `chunk` the chunk so far, backwards,
with its kind; no chunk is open when there is no kind. -/
def chunksFrom (past chunk : List Char) : Option ChunkKind → List Char → List (List Char)
  | none, [] => []
  | some _, [] => [chunk.reverse]
  | none, c :: rest => chunksFrom (c :: past) [c] (some (.starting past c rest)) rest
  | some kind, c :: rest =>
    if kind.goesOn past c rest then
      if kind.endsAfter past c rest then
        (c :: chunk).reverse :: chunksFrom (c :: past) [] none rest
      else chunksFrom (c :: past) (c :: chunk) (some kind) rest
    else chunk.reverse :: chunksFrom (c :: past) [c] (some (.starting past c rest)) rest

/-- Cuts a paragraph into the chunks between which a line may end. -/
def chunks (cs : List Char) : List (List Char) :=
  chunksFrom [] [] none cs

/-! ## Laying chunks on lines -/

/-- The lines so far and the one being filled. -/
structure Page where
  /-- The finished lines, last first. -/
  finished : List (List Char)
  /-- The chunks of the current line, last first. -/
  line : List (List Char)
  /-- Whether the current line has not met a chunk yet. -/
  fresh : Bool

namespace Page

/-- The characters on the current line. -/
def used (p : Page) : Nat :=
  p.line.foldl (fun n chunk => n + chunk.length) 0

/-- Ends the current line, less a blank chunk at its end; a line left without chunks is no line. -/
def close (p : Page) : Page :=
  let line :=
    match p.line with
    | chunk :: rest => if isAllBlank chunk then rest else chunk :: rest
    | [] => []
  match line with
  | [] => { p with line := [], fresh := true }
  | _ => { finished := line.reverse.flatten :: p.finished, line := [], fresh := true }

/-- Puts a chunk on the current line. -/
def put (p : Page) (chunk : List Char) : Page :=
  { p with line := chunk :: p.line, fresh := false }

/-- Where a chunk too long for its line is cut, `space` being left: after the last hyphen that fits,
if another character stands before that hyphen. -/
def cut (space : Nat) (chunk : List Char) : Nat :=
  let fitting := (chunk.take space).reverse
  let hyphen := space - 1 - (fitting.takeWhile (· != '-')).length
  if fitting.contains '-' && (chunk.take hyphen).any (· != '-') then hyphen + 1 else space

/-- Lays one chunk, in as many rounds as it needs: each round ends a line or finishes the chunk. -/
def lay (width : Nat) : Nat → List Char → Page → Page
  | 0, chunk, p => p.put chunk
  | rounds + 1, chunk, p =>
    if p.fresh && !p.finished.isEmpty && isAllBlank chunk then { p with fresh := false }
    else if p.used + chunk.length ≤ width then p.put chunk
    else if width < chunk.length then
      let place := cut (width - p.used) chunk
      lay width rounds (chunk.drop place) ((p.put (chunk.take place)).close)
    else lay width rounds chunk p.close

end Page

/-- The lines of a paragraph, none wider than `width`. -/
def wrap (width : Nat) (cs : List Char) : List (List Char) :=
  let page : Page :=
    (chunks cs).foldl (fun p chunk => p.lay width (chunk.length + 2) chunk) ⟨[], [], true⟩
  page.close.finished.reverse

end GroupOperator.Text
