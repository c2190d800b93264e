import SdkModel.Number.Integer
import SdkModel.Text.Case
import SdkModel.Value.Display
import SdkModel.Yaml.Fault
import SdkModel.Yaml.Plain

/-!
# The content of scalars

The value that a text has under a tag. A plain scalar got its tag from its form, so its text fits
with few exceptions (an integer of underscores alone has no digits, a day may not exist); a tag that
is written may stand in front of any text.
-/

namespace SdkModel.Yaml

def withoutUnderscores (s : String) : List Char := s.toList.filter (· ≠ '_')

/-- The text without its sign, and whether the sign is a minus. -/
def signed : List Char → Bool × List Char
  | '-' :: cs => (true, cs)
  | '+' :: cs => (false, cs)
  | cs => (false, cs)

def integer (base : Nat) (cs : List Char) : Except Fault Int :=
  match Integer.parse? base cs with
  | some i => .ok i
  | none => .error .badNumber

/-- The value of an integer without its sign: in base 2 or 16 behind their marks, in base 8 behind
a zero, in groups of base 60 between colons, and decimal otherwise. -/
def magnitude (cs : List Char) : Except Fault Int :=
  match cs with
  | [] => .error .emptyNumber
  | ['0'] => .ok 0
  | '0' :: 'b' :: ds => integer 2 ds
  | '0' :: 'x' :: ds => integer 16 ds
  | '0' :: _ => integer 8 cs
  | _ => do
    let groups ← (Text.split ':' cs).mapM (integer 10)
    return groups.foldl (fun n g => n * 60 + g) 0

def intContent (s : String) : Except Fault Int :=
  match withoutUnderscores s with
  | [] => .error .emptyNumber
  | cs => do
    let (negative, body) := signed cs
    let n ← magnitude body
    return if negative then -n else n

/-- The digits of a decimal number: those before and behind the point, at least one in all. -/
def mantissa? (cs : List Char) : Option (List Nat × List Nat) :=
  let whole := cs.takeWhile (· ≠ '.')
  let places := (cs.dropWhile (· ≠ '.')).drop 1
  if (whole ++ places).isEmpty then none
  else do
    return (← whole.mapM Text.decimalDigit?, ← places.mapM Text.decimalDigit?)

/-- The exponent behind its mark. -/
def exponent? (cs : List Char) : Option Int :=
  let (negative, ds) := signed cs
  if ds.isEmpty then none
  else do
    let n : Int := Text.ofDigits 10 (← ds.mapM Text.decimalDigit?)
    return if negative then -n else n

/-- The number that a text in small letters spells: blanks around it, a sign, a point and an
exponent are allowed. -/
def number? (cs : List Char) : Option Binary64 :=
  let (negative, body) := signed (Text.trimBy Text.isSpace cs)
  let word := String.ofList body
  if word = "inf" ∨ word = "infinity" then some (.infinite negative)
  else if word = "nan" then some .undefined
  else do
    let (whole, places) ← mantissa? (body.takeWhile (· ≠ 'e'))
    let power ← match body.dropWhile (· ≠ 'e') with
      | [] => some 0
      | _ :: ds => exponent? ds
    return .ofDecimal negative (Text.ofDigits 10 (whole ++ places)) (power - places.length)

def number (cs : List Char) : Except Fault Binary64 :=
  match number? cs with
  | some x => .ok x
  | none => .error .badNumber

/-- The number with the sign turned. -/
def opposite : Binary64 → Binary64
  | .finite negative c e => .finite (!negative) c e
  | .infinite negative => .infinite (!negative)
  | .undefined => .undefined

/-- The sum of groups of base 60, the last one first, rounded at every step. -/
def sixtiesSum (groups : List Binary64) : Binary64 :=
  (groups.foldl (fun (sum : Binary64 × Nat) g => (sum.1.plus (g.times sum.2), sum.2 * 60))
    (.finite false 0 0, 1)).1

def floatContent (s : String) : Except Fault Binary64 :=
  match Text.lowerAll (withoutUnderscores s) with
  | [] => .error .emptyNumber
  | cs => do
    let (negative, body) := signed cs
    let x ←
      if body = ".inf".toList then pure (.infinite false)
      else if body = ".nan".toList then pure .undefined
      else if ':' ∈ body then do
        let groups ← (Text.split ':' body).mapM number
        pure (sixtiesSum groups.reverse)
      else number body
    return if negative then opposite x else x

def boolContent (s : String) : Except Fault Bool :=
  let word := String.ofList (Text.lowerAll s.toList)
  if word ∈ ["yes", "true", "on"] then .ok true
  else if word ∈ ["no", "false", "off"] then .ok false
  else .error .badTruth

/-- The microseconds that decimals of a second spell; further ones are cut off. -/
def microseconds (decimals : List Char) : Nat :=
  Text.ofDigits 10 (((decimals ++ List.replicate 6 '0').take 6).filterMap Text.hexDigit?)

def timeContent (s : String) : Except Fault Special :=
  match time? (cutLineFeed s.toList) with
  | none => .error .badTime
  | some t =>
    let day : Day := ⟨t.year, t.month, t.day⟩
    match t.clock with
    | none => if day.isValid then .ok (.day day) else .error .noSuchTime
    | some c =>
      let clock : Clock := ⟨c.hour, c.minute, c.second, microseconds c.decimals, c.zone⟩
      if day.isValid && clock.isValid then .ok (.time day clock) else .error .noSuchTime

/-! ## Binary data -/

/-- The value of a character of base 64. -/
def sextet? (c : Char) : Option Nat :=
  if 'A' ≤ c ∧ c ≤ 'Z' then some (c.toNat - 'A'.toNat)
  else if 'a' ≤ c ∧ c ≤ 'z' then some (c.toNat - 'a'.toNat + 26)
  else if '0' ≤ c ∧ c ≤ '9' then some (c.toNat - '0'.toNat + 52)
  else if c = '+' then some 62
  else if c = '/' then some 63
  else none

/-- The bytes that characters of base 64 spell. `held` are the characters of an unfinished group
of four and `pads` the pads behind them; other characters are passed over, and nothing is read
behind a full pad. -/
def bytes? (held : List Nat) (pads : Nat) : List Char → Option (List Nat)
  | [] => if held.isEmpty then some [] else none
  | c :: cs =>
    if c = '=' then
      if 2 ≤ held.length && 4 ≤ held.length + pads + 1 then
        match held with
        | [a, b] => some [(a * 4 + b / 16)]
        | [a, b, d] => some [(a * 4 + b / 16), (b % 16 * 16 + d / 4)]
        | _ => none
      else bytes? held (if 2 ≤ held.length then pads + 1 else pads) cs
    else match sextet? c with
      | none => bytes? held pads cs
      | some n =>
        match held with
        | [a, b, d] =>
          (bytes? [] 0 cs).map
            ([a * 4 + b / 16, b % 16 * 16 + d / 4, d % 4 * 64 + n] ++ ·)
        | _ => bytes? (held ++ [n]) 0 cs

def bytesContent (s : String) : Except Fault Special :=
  if !s.toList.all (·.toNat < 128) then .error .malformed
  else match bytes? [] 0 s.toList with
    | some content => .ok (.bytes content)
    | none => .error .malformed

/-! ## Scalars -/

/-- The value of a text under a tag; tags of collections and unknown ones have none. -/
def content (tag : Tag) (s : String) : Except Fault Value :=
  match tag with
  | .null => .ok .null
  | .bool => Value.bool <$> boolContent s
  | .int => Value.int <$> intContent s
  | .float => Value.float <$> floatContent s
  | .time => Value.special <$> timeContent s
  | .binary => Value.special <$> bytesContent s
  | .text => .ok (.text s)
  | _ => .error .malformed

end SdkModel.Yaml
