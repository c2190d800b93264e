import SdkModel.Text.Blank
import SdkModel.Text.Digit

/-!
# Integers in a base

The integer that a text spells, by one rule for all bases: blanks around it, a sign, the mark of
the base and single underscores between digits are allowed, and the digits of every script count.
A decimal integer has a bounded count of digits, so that reading one takes bounded time; the bases
that are powers of two need no such bound.
-/

namespace SdkModel.Integer

/-- The most digits that a decimal integer may have. -/
def mostDigits : Nat := 4300

/-- The value of a digit: a decimal one of any script, or a letter from ten on. -/
def digit? (c : Char) : Option Nat :=
  match Text.decimalDigit? c with
  | some d => some d
  | none =>
    if 'a' ≤ c ∧ c ≤ 'z' then some (c.toNat - 'a'.toNat + 10)
    else if 'A' ≤ c ∧ c ≤ 'Z' then some (c.toNat - 'A'.toNat + 10)
    else none

def isDigit (base : Nat) (c : Char) : Bool := (digit? c).any (· < base)

/-- The letter that marks a base behind a zero. -/
def mark? : Nat → Option Char
  | 2 => some 'b'
  | 8 => some 'o'
  | 16 => some 'x'
  | _ => none

/-- The digits behind the mark of the base, if there is one. An underscore may follow the mark. -/
def unmarked (base : Nat) (cs : List Char) : List Char :=
  match cs with
  | '0' :: c :: rest =>
    if mark? base = some c.toLower then
      match rest with
      | '_' :: digits => digits
      | digits => digits
    else cs
  | _ => cs

/-- The number that digits without a sign spell. -/
def magnitude? (base : Nat) (cs : List Char) : Option Nat :=
  match Text.ungroup? (isDigit base) (unmarked base cs) with
  | none => none
  | some ds =>
    if base = 10 ∧ mostDigits < ds.length then none
    else some (Text.ofDigits base (ds.filterMap digit?))

/-- The integer that a text spells. -/
def parse? (base : Nat) (cs : List Char) : Option Int :=
  match Text.trimBy Text.isSpace cs with
  | '-' :: r => (magnitude? base r).map fun n => -(n : Int)
  | '+' :: r => (magnitude? base r).map fun n => (n : Int)
  | r => (magnitude? base r).map fun n => (n : Int)

end SdkModel.Integer
