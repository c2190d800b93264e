/-!
# Characters from numbers

An escape names a character by a number. Numbers of the surrogate range are no characters: a high
and a low one side by side spell one character beyond U+FFFF together, and half a pair alone is
replaced by U+FFFD.
-/

namespace SdkModel.Text

def isHighSurrogate (n : Nat) : Bool := 0xd800 ≤ n && n ≤ 0xdbff

def isLowSurrogate (n : Nat) : Bool := 0xdc00 ≤ n && n ≤ 0xdfff

/-- The character that a high and a low surrogate spell. -/
def pairChar (high low : Nat) : Char :=
  Char.ofNat (0x10000 + (high - 0xd800) * 0x400 + (low - 0xdc00))

/-- The character with a number; half a pair alone is no character and is replaced. -/
def codeChar (n : Nat) : Char := if n.isValidChar then Char.ofNat n else '\ufffd'

/-- The characters that numbers spell. -/
def ofCodes : List Nat → List Char
  | [] => []
  | [n] => [codeChar n]
  | n :: m :: rest =>
    if isHighSurrogate n && isLowSurrogate m then pairChar n m :: ofCodes rest
    else codeChar n :: ofCodes (m :: rest)

end SdkModel.Text
