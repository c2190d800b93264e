import SdkModel.Yaml.Fault

/-!
# Places in a YAML text

What is left of the text, how much of it has been read, and the line and column. Columns carry the
block structure: a node belongs to the nearest collection that starts further left. A byte order
mark takes no column. Five characters end a line, two of which keep their own meaning in a scalar;
the others are read as line feeds.
-/

namespace SdkModel.Yaml

structure Cursor where
  rest : List Char
  index : Nat := 0
  line : Nat := 0
  column : Nat := 0

/-- Reading from a place, which may find that the text has no value. -/
abbrev Reading := StateT Cursor (Except Fault)

/-- The characters that a YAML text may hold. -/
def isAllowed (c : Char) : Bool :=
  let n := c.toNat
  n = 9 || n = 10 || n = 13 || (0x20 ≤ n && n ≤ 0x7e) || n = 0x85 || (0xa0 ≤ n && n ≤ 0xfffd) ||
    0x10000 ≤ n

def isBreak (c : Char) : Bool :=
  c = '\n' || c = '\r' || c = '\u0085' || c = '\u2028' || c = '\u2029'

def isBlank (c : Char) : Bool := c = ' ' || c = '\t'

/-- The end of the text or of a line. -/
def endsLine : Option Char → Bool
  | none => true
  | some c => isBreak c

/-- The end of the text or of a line, or a space. -/
def endsPart (c : Option Char) : Bool := c = some ' ' || endsLine c

/-- The end of the text or of a line, or a blank. -/
def endsWord (c : Option Char) : Bool := c = some '\t' || endsPart c

/-- A mark between documents stands at the start of these characters. -/
def marksDocument (cs : List Char) : Bool :=
  (['-', '-', '-'].isPrefixOf cs || ['.', '.', '.'].isPrefixOf cs) && endsWord (cs.drop 3).head?

namespace Cursor

def peek (c : Cursor) : Option Char := c.rest.head?

def second (c : Cursor) : Option Char := c.rest.tail.head?

/-- The place behind one character. -/
def next (c : Cursor) : Cursor :=
  match c.rest with
  | [] => c
  | ch :: cs =>
    let index := c.index + 1
    if isBreak ch && !(ch = '\r' && cs.head? = some '\n') then
      { rest := cs, index, line := c.line + 1, column := 0 }
    else if ch = '\ufeff' then { c with rest := cs, index }
    else { c with rest := cs, index, column := c.column + 1 }

/-- The place behind `n` characters. -/
def skip (c : Cursor) : Nat → Cursor
  | 0 => c
  | n + 1 => c.next.skip n

/-- The characters of a class that stand here, and the place behind them. -/
def run (p : Char → Bool) (c : Cursor) : List Char × Cursor :=
  let cs := c.rest.takeWhile p
  (cs, c.skip cs.length)

/-- The place behind the characters of a class. -/
def past (p : Char → Bool) (c : Cursor) : Cursor := (c.run p).2

/-- The line break that stands here, as a scalar reads it, and the place behind it. -/
def lineBreak? (c : Cursor) : Option (Char × Cursor) :=
  match c.rest with
  | '\r' :: '\n' :: _ => some ('\n', c.skip 2)
  | ch :: _ =>
    if ch = '\u2028' || ch = '\u2029' then some (ch, c.next)
    else if isBreak ch then some ('\n', c.next)
    else none
  | [] => none

/-- The place behind a line break, if one stands here. -/
def pastBreak (c : Cursor) : Cursor :=
  match c.lineBreak? with
  | some (_, c) => c
  | none => c

/-- The place behind the comment that stands here, if one does. -/
def pastComment (c : Cursor) : Cursor :=
  if c.peek = some '#' then c.past fun ch => !isBreak ch else c

/-- The place of the next word, behind blanks, comments and line breaks, and whether a line break
was passed. -/
def nextWord (fuel : Nat) (crossed : Bool) (c : Cursor) : Bool × Cursor :=
  match fuel with
  | 0 => (crossed, c)
  | fuel + 1 =>
    let c := (c.past (· = ' ')).pastComment
    match c.lineBreak? with
    | some (_, c) => nextWord fuel true c
    | none => (crossed, c)

end Cursor

/-- Moves behind `n` characters. -/
def advance (n : Nat) : Reading Unit := modify (·.skip n)

/-- The characters of a class that stand here. -/
def takeRun (p : Char → Bool) : Reading (List Char) := modifyGet (Cursor.run p)

def malformed {α : Type} : Reading α := throw .malformed

def require (ok : Bool) : Reading Unit := if ok then pure () else malformed

end SdkModel.Yaml
