import SdkModel.Yaml.Token

/-!
# The tokens of a text

A text is cut into tokens from left to right. Two things are only known later than they are needed,
and the layout keeps track of them.

* Block collections end where a line starts further left: `indent` is the column of the innermost
  one and `outer` holds the columns around it.
* A key shows itself by the colon behind it: a node that may turn out to be a key is kept as a
  `Candidate`, and when its colon comes, the key token is put in front of it. A candidate has to
  stand on one line and may be 1024 characters long.

When a text cannot be cut further, the tokens in front of the first candidate stand, since nothing
can be put in front of them any more; what comes later is lost with the fault (`Tokens`).
-/

namespace SdkModel.Yaml

/-- A node that may be a key. -/
structure Candidate where
  /-- The count of brackets around it. -/
  level : Nat
  /-- The count of tokens in front of it. -/
  token : Nat
  /-- It stands where nothing but a key can stand. -/
  required : Bool
  index : Nat
  line : Nat
  column : Nat

/-- The longest that a key can be. -/
def longestKey : Nat := 1024

/-- The tokens so far and what decides on the next ones. -/
structure Layout where
  cursor : Cursor
  tokens : Array Token := #[]
  /-- The count of open brackets. -/
  level : Nat := 0
  /-- The column of the innermost block collection, -1 outside of all. -/
  indent : Int := -1
  outer : List Int := []
  /-- A key may stand here. -/
  keyAllowed : Bool := true
  candidates : List Candidate := []
  /-- The text is at its end. -/
  complete : Bool := false

namespace Layout

variable (l : Layout)

def inFlow : Bool := l.level ≠ 0

/-- Reads from the place of the layout. -/
def read {α : Type} (x : Reading α) : Except Fault (α × Layout) := do
  let (a, cursor) ← x.run l.cursor
  return (a, { l with cursor })

def push (t : Token) : Layout := { l with tokens := l.tokens.push t }

/-- Goes behind `n` characters that are a token. -/
def emit (n : Nat) (t : Token) : Layout :=
  { l with cursor := l.cursor.skip n, tokens := l.tokens.push t }

/-! ## Candidates -/

def isExpired (k : Candidate) : Bool :=
  k.line ≠ l.cursor.line || longestKey < l.cursor.index - k.index

/-- Drops the candidates that can be no keys any more. -/
def dropExpired : Except Fault Layout :=
  if l.candidates.any fun k => l.isExpired k && k.required then .error .malformed
  else .ok { l with candidates := l.candidates.filter fun k => !l.isExpired k }

/-- The candidate between the innermost brackets. -/
def candidate? : Option Candidate := l.candidates.find? (·.level = l.level)

/-- Drops the candidate between the innermost brackets. -/
def dropCandidate : Except Fault Layout :=
  if l.candidate?.any (·.required) then .error .malformed
  else .ok { l with candidates := l.candidates.filter (·.level ≠ l.level) }

/-- Keeps the node that starts here as a candidate, where a key may stand. -/
def addCandidate : Except Fault Layout :=
  if !l.keyAllowed then .ok l
  else do
    let l ← l.dropCandidate
    let k : Candidate := {
      level := l.level
      token := l.tokens.size
      required := !l.inFlow && l.indent = l.cursor.column
      index := l.cursor.index
      line := l.cursor.line
      column := l.cursor.column }
    return { l with candidates := k :: l.candidates }

def allowKey (allowed : Bool) : Layout := { l with keyAllowed := allowed }

/-! ## Block collections -/

/-- Ends the block collections that start further right than a column. -/
def closeBlocks (column indent : Int) (outer : List Int) (tokens : Array Token) :
    Int × List Int × Array Token :=
  if indent ≤ column then (indent, outer, tokens)
  else match outer with
    | [] => (indent, [], tokens)
    | i :: rest => closeBlocks column i rest (tokens.push .blockEnd)

/-- Ends the block collections that start further right than a column, outside of brackets. -/
def unwind (column : Int) : Layout :=
  if l.inFlow then l
  else
    let (indent, outer, tokens) := closeBlocks column l.indent l.outer l.tokens
    { l with indent, outer, tokens }

/-- Starts a block collection at a column, unless one starts there or further right already: puts
its token in front of the token with number `place`. -/
def openBlock (column place : Nat) (t : Token) : Layout :=
  if l.indent < column then
    { l with
      indent := column
      outer := l.indent :: l.outer
      tokens := l.tokens.insertIdxIfInBounds place t }
  else l

/-! ## Tokens -/

/-- The end of the text. -/
def finish : Except Fault Layout := do
  let l ← (l.unwind (-1)).dropCandidate
  return { l.push .textEnd with keyAllowed := false, candidates := [], complete := true }

def takeDirective : Except Fault Layout := do
  let l ← (l.unwind (-1)).dropCandidate
  let (t, l) ← l.read directive
  return (l.push t).allowKey false

/-- A mark between documents. -/
def takeMark (t : Token) : Except Fault Layout := do
  let l ← (l.unwind (-1)).dropCandidate
  return (l.emit 3 t).allowKey false

def openBracket (t : Token) : Except Fault Layout := do
  let l ← l.addCandidate
  return { (l.emit 1 t).allowKey true with level := l.level + 1 }

/-- A closing bracket. One that closes nothing is refused. -/
def closeBracket (t : Token) : Except Fault Layout := do
  let l ← l.dropCandidate
  if l.level = 0 then throw .malformed
  return { (l.emit 1 t).allowKey false with level := l.level - 1 }

def takeComma : Except Fault Layout := do
  let l ← l.dropCandidate
  return (l.emit 1 .comma).allowKey true

/-- An indicator that may start a block collection. -/
def takeIndicator (start t : Token) (keyAfter : Bool) : Except Fault Layout := do
  if !l.inFlow && !l.keyAllowed then throw .malformed
  let l := if l.inFlow then l else l.openBlock l.cursor.column l.tokens.size start
  let l ← l.dropCandidate
  return (l.emit 1 t).allowKey keyAfter

/-- A colon. Behind a candidate it makes the candidate a key. -/
def takeColon : Except Fault Layout := do
  match l.candidate? with
  | some k =>
    let l := { l with
      candidates := l.candidates.filter (·.level ≠ l.level)
      tokens := l.tokens.insertIdxIfInBounds k.token .key }
    let l := if l.inFlow then l else l.openBlock k.column k.token .mappingStart
    return (l.emit 1 .value).allowKey false
  | none => l.takeIndicator .mappingStart .value (!l.inFlow)

/-- A token that may be a key or stand in front of one. -/
def takeNode (x : Reading Token) : Except Fault Layout := do
  let l ← l.addCandidate
  let (t, l) ← l.read x
  return (l.push t).allowKey false

def takeBlockScalar : Except Fault Layout := do
  let l ← l.dropCandidate
  let (text, l) ← l.read (blockScalar l.indent)
  return (l.push (.scalar false text)).allowKey true

def takePlain : Except Fault Layout := do
  let l ← l.addCandidate
  let ((text, crossed), l) ← l.read (plainScalar l.inFlow (l.indent + 1))
  return (l.push (.scalar true text)).allowKey crossed

/-- Goes to the next word. A byte order mark may stand at the start of the text. -/
def toNextWord : Layout :=
  let c := if l.cursor.index = 0 && l.cursor.peek = some '\ufeff' then l.cursor.next else l.cursor
  let (crossed, cursor) := c.nextWord (c.rest.length + 1) false
  { l with cursor, keyAllowed := l.keyAllowed || (crossed && !l.inFlow) }

/-- Reads the next token. -/
def step : Except Fault Layout := do
  let l ← l.toNextWord.dropExpired
  let l := l.unwind l.cursor.column
  let c := l.cursor
  let marks := c.column = 0 && marksDocument c.rest
  let apart := endsWord c.second
  match c.peek with
  | none => l.finish
  | some ch =>
    if ch = '%' && c.column = 0 then l.takeDirective
    else if marks then l.takeMark (if ch = '-' then .documentStart else .documentEnd)
    else if ch = '[' then l.openBracket .bracketOpen
    else if ch = '\x7b' then l.openBracket .braceOpen
    else if ch = ']' then l.closeBracket .bracketClose
    else if ch = '\x7d' then l.closeBracket .braceClose
    else if ch = ',' then l.takeComma
    else if ch = '-' && apart then l.takeIndicator .sequenceStart .dash true
    else if ch = '?' && (l.inFlow || apart) then l.takeIndicator .mappingStart .key (!l.inFlow)
    else if ch = ':' && (l.inFlow || apart) then l.takeColon
    else if ch = '*' then l.takeNode (Token.alias <$> anchorName)
    else if ch = '&' then l.takeNode (Token.anchor <$> anchorName)
    else if ch = '!' then l.takeNode tagToken
    else if (ch = '|' || ch = '>') && !l.inFlow then l.takeBlockScalar
    else if ch = '\'' || ch = '"' then l.takeNode (Token.scalar false <$> quotedScalar ch)
    else if beginsPlain l.inFlow c then l.takePlain
    else throw .malformed

/-- The tokens in front of the first candidate. -/
def settled : List Token :=
  let live := l.candidates.filter fun k => !l.isExpired k
  l.tokens.toList.take (live.foldl (fun n k => min n k.token) l.tokens.size)

end Layout

/-- The tokens of a text, and the fault that they end in. A text without a fault has a last token
that says so. -/
structure Tokens where
  list : List Token
  ending : Option Fault

/-- Reads tokens up to the end. Every step but the last one goes on by a character. -/
def Layout.tokensFrom (fuel : Nat) (l : Layout) : Tokens :=
  match fuel with
  | 0 => ⟨l.settled, some .malformed⟩
  | fuel + 1 =>
    match l.step with
    | .error fault => ⟨l.settled, some fault⟩
    | .ok next => if next.complete then ⟨next.tokens.toList, none⟩ else next.tokensFrom fuel

/-- The tokens of a text. -/
def Tokens.ofText (text : List Char) : Tokens :=
  Layout.tokensFrom (text.length + 2) { cursor := { rest := text } }

end SdkModel.Yaml
