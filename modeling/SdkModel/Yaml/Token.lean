import SdkModel.Yaml.Scalar

/-!
# YAML tokens

The words of a YAML text. Brackets and indicators are tokens of their own; the start and the end of
a block collection, which are only seen in the columns, are tokens as well. This module reads the
tokens that hold a name: anchors, aliases, tags and directives.
-/

namespace SdkModel.Yaml

/-- A line in front of a document that says how to read it. -/
inductive Directive where
  | version (major minor : Nat)
  | handle (name expansion : String)
  | other
deriving DecidableEq, Repr

inductive Token where
  | directive (d : Directive)
  | documentStart
  | documentEnd
  | sequenceStart
  | mappingStart
  | blockEnd
  | bracketOpen
  | bracketClose
  | braceOpen
  | braceClose
  | dash
  | comma
  | key
  | value
  | alias (name : String)
  | anchor (name : String)
  | tag (handle : Option String) (suffix : String)
  | scalar (plain : Bool) (text : String)
  | textEnd
deriving DecidableEq, Repr

/-- A character of the name of an anchor, a handle or a directive. -/
def isNameChar (c : Char) : Bool := c.isAlphanum || c = '-' || c = '_'

/-- The name of an anchor or an alias, behind its sign. -/
def anchorName : Reading String := do
  advance 1
  let name ← takeRun isNameChar
  require (!name.isEmpty)
  let after := (← get).peek
  require (endsWord after || after.any (· ∈ "?:,]\x7d%@\x60".toList))
  return String.ofList name

/-! ## Tags -/

/-- A character of a tag other than a percent sign. -/
def isTagChar (c : Char) : Bool := c.isAlphanum || c ∈ "-;/?:@&=+$,_.!~*'()[]".toList

/-- The bytes that percent signs with two digits spell. -/
def percentBytes (fuel : Nat) : Reading (List UInt8) :=
  match fuel with
  | 0 => malformed
  | fuel + 1 => do
    if (← get).peek ≠ some '%' then return []
    advance 1
    let ds := ((← get).rest.take 2).filterMap Text.hexDigit?
    require (ds.length = 2)
    advance 2
    return UInt8.ofNat (Text.ofDigits 16 ds) :: (← percentBytes fuel)

/-- The characters that percent signs with two digits spell. -/
def percentChars : Reading (List Char) := do
  let bytes ← percentBytes ((← get).rest.length + 1)
  match String.fromUTF8? ⟨bytes.toArray⟩ with
  | some s => return s.toList
  | none => malformed

/-- The parts of a tag, percent signs spelled out. -/
def tagParts (fuel : Nat) : Reading (List Char) :=
  match fuel with
  | 0 => malformed
  | fuel + 1 => do
    let plain ← takeRun isTagChar
    if (← get).peek ≠ some '%' then return plain
    let spelled ← percentChars
    return plain ++ spelled ++ (← tagParts fuel)

/-- A tag, or the part of one behind its handle. -/
def tagText : Reading String := do
  let c ← get
  require (c.peek.any fun ch => isTagChar ch || ch = '%')
  return String.ofList (← tagParts (c.rest.length + 1))

/-- A handle: an exclamation mark, or a name between two of them. -/
def tagHandle : Reading String := do
  require ((← get).peek = some '!')
  advance 1
  if (← get).peek = some ' ' then return "!"
  let name ← takeRun isNameChar
  require ((← get).peek = some '!')
  advance 1
  return String.ofList ('!' :: name ++ ['!'])

/-- A tag token: a tag in angle brackets, an exclamation mark alone, or a handle and what follows
it. -/
def tagToken : Reading Token := do
  let c ← get
  let token ←
    if c.second = some '<' then do
      advance 2
      let suffix ← tagText
      require ((← get).peek = some '>')
      advance 1
      pure (Token.tag none suffix)
    else if endsWord c.second then do
      advance 1
      pure (Token.tag none "!")
    else do
      let word := c.rest.tail.takeWhile fun ch => !endsPart (some ch)
      let handle ← if '!' ∈ word then tagHandle else do advance 1; pure "!"
      pure (Token.tag (some handle) (← tagText))
  require (endsPart (← get).peek)
  return token

/-! ## Directives -/

/-- A number of a version. -/
def versionNumber : Reading Nat := do
  let ds ← takeRun fun c => '0' ≤ c && c ≤ '9'
  require (!ds.isEmpty)
  return Text.ofDigits 10 (ds.filterMap Text.decimalDigit?)

def versionDirective : Reading Directive := do
  modify (·.past (· = ' '))
  let major ← versionNumber
  require ((← get).peek = some '.')
  advance 1
  let minor ← versionNumber
  require (endsPart (← get).peek)
  return .version major minor

def handleDirective : Reading Directive := do
  modify (·.past (· = ' '))
  let name ← tagHandle
  require ((← get).peek = some ' ')
  modify (·.past (· = ' '))
  let expansion ← tagText
  require (endsPart (← get).peek)
  return .handle name expansion

/-- A directive with its line. -/
def directive : Reading Token := do
  advance 1
  let name ← takeRun isNameChar
  require (!name.isEmpty)
  require (endsPart (← get).peek)
  let d ←
    if name = "YAML".toList then versionDirective
    else if name = "TAG".toList then handleDirective
    else do
      modify (·.past fun ch => !isBreak ch)
      pure Directive.other
  endLine
  return .directive d

end SdkModel.Yaml
