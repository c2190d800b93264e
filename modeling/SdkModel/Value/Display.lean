import SdkModel.Text.Quoted
import SdkModel.Value.Basic

/-!
# The text of a value

A value that stands where the model needs text (an enum value, a type, a parameter name) is shown
by one rule: text as it is, `None`, `True` and `False` for null and the truth values, numbers as
written, and lists and maps in brackets with quoted text inside them.
-/

namespace SdkModel

namespace Key

/-- The text of a key that names a schema, a property or a path. -/
def display : Key → String
  | .null => "None"
  | .bool true => "True"
  | .bool false => "False"
  | .int i => toString i
  | .float x => x.render
  | .text s => s
  | .special x => x.display

/-- The text of a key inside a bracketed map. -/
def displayQuoted : Key → String
  | .text s => Text.quoted s
  | .special x => x.displayQuoted
  | k => k.display

end Key

namespace Value

mutual

/-- The text of a value inside brackets. -/
def displayQuoted : Value → String
  | .null => "None"
  | .bool true => "True"
  | .bool false => "False"
  | .int i => toString i
  | .float x => x.render
  | .text s => Text.quoted s
  | .list xs => "[" ++ ", ".intercalate (displayItems xs) ++ "]"
  | .object es => "\x7b" ++ ", ".intercalate (displayEntries es) ++ "\x7d"
  | .special x => x.displayQuoted

def displayItems : List Value → List String
  | [] => []
  | x :: xs => displayQuoted x :: displayItems xs

def displayEntries : List (Key × Value) → List String
  | [] => []
  | (k, v) :: es => (k.displayQuoted ++ ": " ++ displayQuoted v) :: displayEntries es

end

/-- The text of a value. -/
def display : Value → String
  | .text s => s
  | .special x => x.display
  | v => v.displayQuoted

end Value

end SdkModel
