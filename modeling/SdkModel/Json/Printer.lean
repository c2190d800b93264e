import SdkModel.Text.Digit
import SdkModel.Value.Basic

/-!
# Printing JSON

One printer writes every JSON text of the program: on one line or with two blanks per level, and
with characters beyond ASCII as they are or escaped. An empty container is written without a line
break in both layouts.
-/

namespace SdkModel.Json

/-- How a JSON text is laid out. -/
structure Layout where
  /-- Every item and every entry on a line of its own. -/
  indented : Bool
  /-- Characters other than the printable ones of ASCII are escaped. -/
  asciiOnly : Bool

/-- The escape of one UTF-16 unit. -/
def unitEscape (n : Nat) : List Char := '\\' :: 'u' :: Text.hexDigits 4 n

def escapedChar (asciiOnly : Bool) (c : Char) : List Char :=
  if c = '"' ∨ c = '\\' then ['\\', c]
  else if c = '\n' then ['\\', 'n']
  else if c = '\r' then ['\\', 'r']
  else if c = '\t' then ['\\', 't']
  else if c = '\x08' then ['\\', 'b']
  else if c = '\x0c' then ['\\', 'f']
  else
    let n := c.toNat
    if n < 0x20 ∨ (asciiOnly ∧ 0x7f ≤ n) then
      if n < 0x10000 then unitEscape n
      else
        let above := n - 0x10000
        unitEscape (0xd800 + above / 0x400) ++ unitEscape (0xdc00 + above % 0x400)
    else [c]

def stringText (l : Layout) (s : String) : String :=
  String.ofList ('"' :: s.toList.flatMap (escapedChar l.asciiOnly) ++ ['"'])

def numberText : Binary64 → String
  | .undefined => "NaN"
  | .infinite false => "Infinity"
  | .infinite true => "-Infinity"
  | x => x.render

/-- The text that stands for a key. -/
def keyText : Key → String
  | .null => "null"
  | .bool true => "true"
  | .bool false => "false"
  | .int i => toString i
  | .float x => numberText x
  | .text s => s
  | .special x => x.display

mutual

/-- The value has a JSON text: no key in it is a date or binary data. -/
def isWritable : Value → Bool
  | .list xs => areWritable xs
  | .object es => haveWritable es
  | _ => true

def areWritable : List Value → Bool
  | [] => true
  | x :: xs => isWritable x && areWritable xs

def haveWritable : List (Key × Value) → Bool
  | [] => true
  | (k, v) :: es => !(k matches .special _) && isWritable v && haveWritable es

end

/-- A line break followed by the blanks of a level, in the indented layout. -/
def lineBreak (l : Layout) (level : Nat) : String :=
  if l.indented then String.ofList ('\n' :: List.replicate (2 * level) ' ') else ""

/-- The parts of a container between its brackets. -/
def enclosed (l : Layout) (level : Nat) (opening closing : String) : List String → String
  | [] => opening ++ closing
  | parts =>
    let comma := if l.indented then "," else ", "
    let sep := comma ++ lineBreak l (level + 1)
    opening ++ lineBreak l (level + 1) ++ sep.intercalate parts ++ lineBreak l level ++ closing

mutual

def print (l : Layout) (level : Nat) : Value → String
  | .null => "null"
  | .bool true => "true"
  | .bool false => "false"
  | .int i => toString i
  | .float x => numberText x
  | .text s => stringText l s
  | .list xs => enclosed l level "[" "]" (printItems l (level + 1) xs)
  | .object es => enclosed l level "\x7b" "\x7d" (printEntries l (level + 1) es)
  | .special x => stringText l x.display

def printItems (l : Layout) (level : Nat) : List Value → List String
  | [] => []
  | x :: xs => print l level x :: printItems l level xs

def printEntries (l : Layout) (level : Nat) : List (Key × Value) → List String
  | [] => []
  | (k, v) :: es =>
    (stringText l (keyText k) ++ ": " ++ print l level v) :: printEntries l level es

end

/-- The indented text of a value, characters kept as they are. -/
def pretty (v : Value) : String := print ⟨true, false⟩ 0 v

/-- The text of a value on one line, characters kept as they are. -/
def line (v : Value) : String := print ⟨false, false⟩ 0 v

/-- The indented text of a value in ASCII, as configuration is stored. -/
def stored (v : Value) : String := print ⟨true, true⟩ 0 v

/-- The text of a value on one line, in ASCII. -/
def asciiLine (v : Value) : String := print ⟨false, true⟩ 0 v

end SdkModel.Json
