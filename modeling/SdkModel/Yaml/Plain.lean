import SdkModel.Text.Digit
import SdkModel.Text.Split
import SdkModel.Yaml.Node

/-!
# Forms of plain scalars

A scalar without quotes is a null, a truth value, a number or a time when it has the form of one,
and text otherwise. Truth values have three spellings each; integers may be written in base 2, 8,
10, 16 or as groups of base 60; underscores may stand anywhere behind the first digit.

A line feed at the end is not part of the form.
-/

namespace SdkModel.Yaml

def nullWords : List String := ["~", "null", "Null", "NULL"]

def truthWords : List String := ["yes", "Yes", "YES", "no", "No", "NO", "true", "True", "TRUE",
  "false", "False", "FALSE", "on", "On", "ON", "off", "Off", "OFF"]

def infinityWords : List String := [".inf", ".Inf", ".INF"]

def undefinedWords : List String := [".nan", ".NaN", ".NAN"]

/-- A digit below `base`. -/
def isDigitOf (base : Nat) (c : Char) : Bool := (Text.hexDigit? c).any (· < base)

/-- Digits of a base and underscores. -/
def isGrouped (base : Nat) (cs : List Char) : Bool := cs.all fun c => c = '_' || isDigitOf base c

/-- A digit other than `excluded` followed by digits and underscores. -/
def isRun (excluded : List Char) : List Char → Bool
  | [] => false
  | c :: cs => isDigitOf 10 c && c ∉ excluded && isGrouped 10 cs

/-- One or two digits below sixty. -/
def isSixtieth : List Char → Bool
  | [c] => isDigitOf 10 c
  | [c, d] => isDigitOf 6 c && isDigitOf 10 d
  | _ => false

/-- What follows the sign of a number, if it has one. -/
def unsigned : List Char → List Char
  | '-' :: cs => cs
  | '+' :: cs => cs
  | cs => cs

/-- The form of an integer without its sign. -/
def isMagnitude : List Char → Bool
  | '0' :: 'b' :: ds => !ds.isEmpty && isGrouped 2 ds
  | '0' :: 'x' :: ds => !ds.isEmpty && isGrouped 16 ds
  | '0' :: ds => isGrouped 8 ds
  | cs =>
    match Text.split ':' cs with
    | whole :: groups => isRun ['0'] whole && groups.all isSixtieth
    | [] => false

/-- The form of an exponent: a mark, a sign and digits. Nothing is one as well. -/
def isExponent : List Char → Bool
  | [] => true
  | e :: s :: ds => (e = 'e' || e = 'E') && (s = '-' || s = '+') && !ds.isEmpty &&
      ds.all (isDigitOf 10)
  | _ => false

/-- The form of a number with a point. -/
def isDecimal (cs : List Char) : Bool :=
  let body := unsigned cs
  let whole := body.takeWhile (· ≠ '.')
  match body.dropWhile (· ≠ '.') with
  | [] => false
  | _ :: behind =>
    let places := behind.takeWhile fun c => c = '_' || isDigitOf 10 c
    let rest := behind.dropWhile fun c => c = '_' || isDigitOf 10 c
    match Text.split ':' whole with
    | [[]] => body.length = cs.length && isRun [] places && isExponent rest
    | [w] => isRun [] w && isExponent rest
    | w :: groups => isRun [] w && groups.all isSixtieth && rest.isEmpty
    | [] => false

/-! ## Times -/

/-- One to `most` digits at the start of a text, as many as there are, and what follows. -/
def digitsUpTo (most : Nat) (cs : List Char) : Option (Nat × List Char) :=
  let ds := (cs.take most).takeWhile (isDigitOf 10)
  if ds.isEmpty then none
  else some (Text.ofDigits 10 (ds.filterMap Text.hexDigit?), cs.drop ds.length)

/-- Exactly `count` digits at the start of a text, and what follows. -/
def digitsOf (count : Nat) (cs : List Char) : Option (Nat × List Char) :=
  let ds := (cs.take count).takeWhile (isDigitOf 10)
  if ds.length ≠ count then none
  else some (Text.ofDigits 10 (ds.filterMap Text.hexDigit?), cs.drop count)

/-- What follows a given character. -/
def behind (c : Char) : List Char → Option (List Char)
  | d :: cs => if c = d then some cs else none
  | [] => none

def pastBlanks (cs : List Char) : List Char := cs.dropWhile fun c => c = ' ' || c = '\t'

/-- The hour, minute, second, decimals and zone of a time as they are written. The zone is the
seconds by which it is ahead. -/
structure ClockText where
  hour : Nat
  minute : Nat
  second : Nat
  decimals : List Char
  zone : Option Int

/-- The zone at the end of a time; `none` when there is none, and no answer for other text. -/
def zone? (cs : List Char) : Option (Option Int) :=
  match pastBlanks cs with
  | [] => if cs.isEmpty then some none else none
  | ['Z'] => some (some 0)
  | s :: rest =>
    if s ≠ '-' ∧ s ≠ '+' then none
    else do
      let (hours, rest) ← digitsUpTo 2 rest
      let minutes ← match rest with
        | [] => some 0
        | _ => do
          let (m, rest) ← digitsOf 2 (← behind ':' rest)
          if rest.isEmpty then some m else none
      let seconds : Int := (hours * 3600 + minutes * 60 : Nat)
      some (some (if s = '-' then -seconds else seconds))

/-- The time of day behind the day. -/
def clock? (cs : List Char) : Option ClockText := do
  let start ← match cs with
    | 'T' :: rest => some rest
    | 't' :: rest => some rest
    | c :: _ => if c = ' ' ∨ c = '\t' then some (pastBlanks cs) else none
    | [] => none
  let (hour, rest) ← digitsUpTo 2 start
  let (minute, rest) ← digitsOf 2 (← behind ':' rest)
  let (second, rest) ← digitsOf 2 (← behind ':' rest)
  let (decimals, rest) := match rest with
    | '.' :: rest => (rest.takeWhile (isDigitOf 10), rest.dropWhile (isDigitOf 10))
    | rest => ([], rest)
  let zone ← zone? rest
  return ⟨hour, minute, second, decimals, zone⟩

/-- A day as it is written, and the time behind it. -/
structure TimeText where
  year : Nat
  month : Nat
  day : Nat
  clock : Option ClockText
  /-- Month and day have two digits each. -/
  padded : Bool

/-- The parts of a text with the form of a time. -/
def time? (cs : List Char) : Option TimeText := do
  let (year, rest) ← digitsOf 4 cs
  let start ← behind '-' rest
  let (month, rest) ← digitsUpTo 2 start
  let next ← behind '-' rest
  let (day, rest) ← digitsUpTo 2 next
  let padded := start.length - next.length = 3 && next.length - rest.length = 2
  if rest.isEmpty then return ⟨year, month, day, none, padded⟩
  return ⟨year, month, day, some (← clock? rest), padded⟩

/-- The form of a time: a day alone has two digits for month and day. -/
def isTime (cs : List Char) : Bool := (time? cs).any fun t => t.padded || t.clock.isSome

/-! ## The tag of a form -/

/-- The text without a line feed at its end. -/
def cutLineFeed (cs : List Char) : List Char :=
  if cs.getLast? = some '\n' then cs.dropLast else cs

/-- The tag that the form of a scalar gives it. -/
def Tag.ofForm (s : String) : Tag :=
  let cs := cutLineFeed s.toList
  let word := String.ofList cs
  if s = "" then .null
  else if word ∈ nullWords then .null
  else if word ∈ truthWords then .bool
  else if isDecimal cs then .float
  else if String.ofList (unsigned cs) ∈ infinityWords then .float
  else if word ∈ undefinedWords then .float
  else if isMagnitude (unsigned cs) then .int
  else if isTime cs then .time
  else if word = "<<" then .merge
  else if word = "=" then .default
  else if word ∈ ["!", "&", "*"] then .other
  else .text

end SdkModel.Yaml
