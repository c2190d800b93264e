import SdkModel.Text.CodePoint
import SdkModel.Text.Digit
import SdkModel.Yaml.Cursor

/-!
# The text of scalars

The five ways to write a scalar. A scalar may go over several lines: a single line feed between two
lines is read as a blank and further line breaks are kept (`joined`). In block scalars, marked by
`|` or `>`, the lines are kept or folded as the mark says, and a sign behind the mark tells what
becomes of the line breaks at the end.

Loops take a count that bounds them; every round reads at least one character, so the count of the
characters that are left is enough.
-/

namespace SdkModel.Yaml

/-- What a gap between two lines reads as, from its first line break and the further ones. -/
def joined (first : Char) (more : List Char) : List Char :=
  if first ≠ '\n' then first :: more
  else if more.isEmpty then [' ']
  else more

/-! ## Plain scalars -/

/-- A plain scalar may begin here. -/
def beginsPlain (inFlow : Bool) (c : Cursor) : Bool :=
  match c.peek with
  | none => false
  | some ch =>
    (!endsWord (some ch) && ch ∉ "-?:,[]\x7b\x7d#&*!|>'\"%@\x60".toList) ||
      (!endsWord c.second && (ch = '-' || (!inFlow && (ch = '?' || ch = ':'))))

/-- The part of a plain scalar up to the next blank or indicator. -/
def plainPart (inFlow : Bool) : List Char → List Char
  | [] => []
  | c :: cs =>
    let stops := endsWord (some c) ||
      (c = ':' && (endsWord cs.head? || (inFlow && cs.head?.any (· ∈ ",[]\x7b\x7d".toList)))) ||
      (inFlow && c ∈ ",?[]\x7b\x7d".toList)
    if stops then [] else c :: plainPart inFlow cs

/-- The line breaks that follow the first one of a gap; none when the gap ends at a document
mark. -/
def plainBreaks (fuel : Nat) (c : Cursor) : Option (List Char) × Cursor :=
  match fuel with
  | 0 => (some [], c)
  | fuel + 1 =>
    let c := c.past (· = ' ')
    match c.lineBreak? with
    | none => (some [], c)
    | some (ch, c) =>
      if marksDocument c.rest then (none, c)
      else
        let (more, c) := plainBreaks fuel c
        (more.map (ch :: ·), c)

/-- What the gap behind a part of a plain scalar reads as, and whether it holds a line break. An
empty gap ends the scalar. -/
def plainGap (c : Cursor) : List Char × Bool × Cursor :=
  let (blanks, c) := c.run (· = ' ')
  match c.lineBreak? with
  | none => (blanks, false, c)
  | some (first, c) =>
    if marksDocument c.rest then ([], true, c)
    else match plainBreaks (c.rest.length + 1) c with
      | (none, c) => ([], true, c)
      | (some more, c) => (joined first more, true, c)

/-- The rest of a plain scalar behind the gap `gap`, and whether a line break stands at its end. A
line that goes on has to reach the column `indent`. -/
def plainFrom (fuel : Nat) (inFlow : Bool) (indent : Int) (gap : List Char) (crossed : Bool)
    (c : Cursor) : List Char × Bool × Cursor :=
  match fuel with
  | 0 => ([], crossed, c)
  | fuel + 1 =>
    let part := if c.peek = some '#' then [] else plainPart inFlow c.rest
    if part.isEmpty then ([], crossed, c)
    else
      let (after, crossed, c) := plainGap (c.skip part.length)
      if after.isEmpty || c.peek = some '#' || (!inFlow && (c.column : Int) < indent) then
        (gap ++ part, crossed, c)
      else
        let (rest, crossed, c) := plainFrom fuel inFlow indent after crossed c
        (gap ++ part ++ rest, crossed, c)

/-- A plain scalar, and whether a line break stands at its end. -/
def plainScalar (inFlow : Bool) (indent : Int) : Reading (String × Bool) := do
  let c ← get
  let (text, crossed, c) := plainFrom (c.rest.length + 1) inFlow indent [] false c
  set c
  return (String.ofList text, crossed)

/-! ## Quoted scalars -/

/-- The characters of the escapes of one letter. -/
def escapes : List (Char × Char) := [
  ('0', '\x00'), ('a', '\x07'), ('b', '\x08'), ('t', '\t'), ('\t', '\t'), ('n', '\n'),
  ('v', '\x0b'), ('f', '\x0c'), ('r', '\r'), ('e', '\x1b'), (' ', ' '), ('"', '"'),
  ('\\', '\\'), ('/', '/'), ('N', '\u0085'), ('_', '\u00a0'), ('L', '\u2028'), ('P', '\u2029')]

/-- How many digits the code point escapes have. -/
def codeLengths : List (Char × Nat) := [('x', 2), ('u', 4), ('U', 8)]

/-- The line breaks that stand here between blanks. A document mark must not stand at the start of
a line. -/
def quotedBreaks (fuel : Nat) : Reading (List Char) :=
  match fuel with
  | 0 => malformed
  | fuel + 1 => do
    require (!marksDocument (← get).rest)
    modify (·.past isBlank)
    match (← get).lineBreak? with
    | none => return []
    | some (ch, c) =>
      set c
      return ch :: (← quotedBreaks fuel)

/-- What the blanks and line breaks that stand here read as. -/
def quotedGap : Reading (List Char) := do
  let blanks ← takeRun isBlank
  match (← get).lineBreak? with
  | none => return blanks
  | some (first, c) =>
    set c
    return joined first (← quotedBreaks (c.rest.length + 1))

/-- The number that a code point escape of `n` digits names. -/
def codeEscape (n : Nat) : Reading Nat := do
  let ds := (← get).rest.take n
  require (ds.length = n && ds.all fun d => (Text.hexDigit? d).isSome)
  let code := Text.ofDigits 16 (ds.filterMap Text.hexDigit?)
  if Nat.pow 2 31 ≤ code then throw .codeWord
  if 0x110000 ≤ code then throw .codePoint
  advance n
  return code

/-- The code points of an escape, behind its sign. An escaped line break stands for the line breaks
that follow it. -/
def escaped : Reading (List Nat) := do
  let c ← get
  let some e := c.peek | malformed
  match c.lineBreak? with
  | some (_, c) =>
    set c
    return (← quotedBreaks (c.rest.length + 1)).map (·.toNat)
  | none =>
    advance 1
    match escapes.lookup e, codeLengths.lookup e with
    | some ch, _ => return [ch.toNat]
    | none, some n => return [← codeEscape n]
    | none, none => malformed

/-- The code points up to the closing quote. -/
def quotedFrom (fuel : Nat) (quote : Char) : Reading (List Nat) :=
  match fuel with
  | 0 => malformed
  | fuel + 1 => do
    let c ← get
    let some ch := c.peek | malformed
    if endsWord (some ch) then
      let gap ← quotedGap
      return gap.map (·.toNat) ++ (← quotedFrom fuel quote)
    advance 1
    if ch = quote then
      if quote = '\'' && c.second = some '\'' then
        advance 1
        return ch.toNat :: (← quotedFrom fuel quote)
      return []
    if quote = '"' && ch = '\\' then
      let codes ← escaped
      return codes ++ (← quotedFrom fuel quote)
    return ch.toNat :: (← quotedFrom fuel quote)

/-- A scalar between quotes. -/
def quotedScalar (quote : Char) : Reading String := do
  advance 1
  let codes ← quotedFrom ((← get).rest.length + 1) quote
  return String.ofList (Text.ofCodes codes)

/-! ## Block scalars -/

/-- What becomes of the line breaks at the end of a block scalar. -/
inductive Chomp where
  | clip
  | strip
  | keep
deriving DecidableEq

/-- The sign of what becomes of the line breaks at the end. -/
def chompSign : Reading (Option Chomp) := do
  match (← get).peek with
  | some '+' => advance 1; return some .keep
  | some '-' => advance 1; return some .strip
  | _ => return none

/-- The digit of an indentation, which is not zero. -/
def indentDigit : Reading (Option Nat) := do
  match (← get).peek with
  | some ch =>
    if '0' ≤ ch ∧ ch ≤ '9' then
      require (ch ≠ '0')
      advance 1
      return some (ch.toNat - '0'.toNat)
    return none
  | none => return none

/-- Nothing but a comment may stand on the rest of the line; goes to the next one. -/
def endLine : Reading Unit := do
  modify fun c => (c.past (· = ' ')).pastComment
  require (endsLine (← get).peek)
  modify Cursor.pastBreak

/-- The header of a block scalar behind its mark: the sign and the indentation, each at most once
and in either order. -/
def blockHeader : Reading (Chomp × Option Nat) := do
  let first ← chompSign
  let indent ← indentDigit
  let chomp ← match first with
    | some chomp => pure (some chomp)
    | none => if indent.isSome then chompSign else pure none
  require (endsPart (← get).peek)
  endLine
  return (chomp.getD .clip, indent)

/-- The blank lines before a line of a block scalar whose lines start at `indent`. -/
def blockBreaks (fuel : Nat) (indent : Nat) (c : Cursor) : List Char × Cursor :=
  match fuel with
  | 0 => ([], c)
  | fuel + 1 =>
    let margin := (c.rest.takeWhile (· = ' ')).length
    let c := c.skip (min margin (indent - c.column))
    match c.lineBreak? with
    | none => ([], c)
    | some (ch, c) =>
      let (more, c) := blockBreaks fuel indent c
      (ch :: more, c)

/-- The blank lines at the start of a block scalar, and the greatest indentation among them and the
first other line. -/
def blockStart (fuel : Nat) (most : Nat) (c : Cursor) : List Char × Nat × Cursor :=
  match fuel with
  | 0 => ([], most, c)
  | fuel + 1 =>
    let margin := (c.rest.takeWhile (· = ' ')).length
    let c := c.skip margin
    let most := if margin = 0 then most else max most c.column
    match c.lineBreak? with
    | none => ([], most, c)
    | some (ch, c) =>
      let (more, most, c) := blockStart fuel most c
      (ch :: more, most, c)

/-- The lines of a block scalar, joined, the line break behind the last one and the blank lines
that follow. -/
def blockLines (fuel : Nat) (folded : Bool) (indent : Nat) (before : List Char) (c : Cursor) :
    List Char × List Char × List Char × Cursor :=
  match fuel with
  | 0 => ([], [], before, c)
  | fuel + 1 =>
    let goesOn (c : Cursor) : Bool := c.column = indent && c.peek.isSome
    if !goesOn c then ([], [], before, c)
    else
      let indented (c : Cursor) : Bool := c.peek.any isBlank
      let (text, behind) := c.run fun ch => !isBreak ch
      let (ending, after) := match behind.lineBreak? with
        | some (ch, c) => ([ch], c)
        | none => ([], behind)
      let (more, after) := blockBreaks (after.rest.length + 1) indent after
      if !goesOn after then (before ++ text, ending, more, after)
      else
        let gap :=
          if folded && ending = ['\n'] && !indented c && !indented after then
            (if more.isEmpty then [' '] else [])
          else ending
        let (rest, last, tail, final) := blockLines fuel folded indent more after
        (before ++ text ++ gap ++ rest, last, tail, final)

/-- A block scalar inside a collection at column `parent`. -/
def blockScalar (parent : Int) : Reading String := do
  let folded := (← get).peek = some '>'
  advance 1
  let (chomp, given) ← blockHeader
  let least := max 1 (parent + 1).toNat
  let c ← get
  let (indent, before, c) := match given with
    | some n =>
      let indent := least + n - 1
      (indent, blockBreaks (c.rest.length + 1) indent c)
    | none =>
      let (before, most, c) := blockStart (c.rest.length + 1) 0 c
      (max least most, before, c)
  let (text, last, tail, c) := blockLines (c.rest.length + 1) folded indent before c
  set c
  return String.ofList (match chomp with
    | .strip => text
    | .clip => text ++ last
    | .keep => text ++ last ++ tail)

end SdkModel.Yaml
