import SdkModel.Text.Digit

/-!
# Special values

The values that only YAML writes: days of the calendar, times, binary data and sets. The model has
no use for them beyond their kind and their text, which is `2001-12-14` for a day and
`2001-12-14 21:59:43` for a time.
-/

namespace SdkModel

/-- A day of the calendar. -/
structure Day where
  year : Nat
  month : Nat
  day : Nat
deriving DecidableEq, Repr, Inhabited

/-- A time of day, with the seconds by which it is ahead of universal time when it says so. -/
structure Clock where
  hour : Nat
  minute : Nat
  second : Nat
  microsecond : Nat
  offset : Option Int
deriving DecidableEq, Repr, Inhabited

/-- A value that only YAML writes. -/
inductive Special where
  | day (d : Day)
  | time (d : Day) (c : Clock)
  | bytes (content : List Nat)
  | set (members : List String)
deriving DecidableEq, Repr, Inhabited

namespace Day

def isLeap (year : Nat) : Bool := year % 4 = 0 && (year % 100 ≠ 0 || year % 400 = 0)

def monthLength (year month : Nat) : Nat :=
  if month = 2 then (if isLeap year then 29 else 28)
  else if month ∈ [4, 6, 9, 11] then 30
  else 31

/-- The day exists; years are counted from 1. -/
def isValid (d : Day) : Bool :=
  1 ≤ d.year && 1 ≤ d.month && d.month ≤ 12 && 1 ≤ d.day && d.day ≤ monthLength d.year d.month

end Day

/-- The time exists, and it is less than a day ahead of or behind universal time. -/
def Clock.isValid (c : Clock) : Bool :=
  c.hour < 24 && c.minute < 60 && c.second < 60 && c.offset.all fun o => o.natAbs < 86400

namespace Special

/-- A number in decimal digits, zeros in front up to a width. -/
def padded (width n : Nat) : String :=
  let digits := toString n
  String.ofList (List.replicate (width - digits.length) '0') ++ digits

def dayText (d : Day) : String :=
  padded 4 d.year ++ "-" ++ padded 2 d.month ++ "-" ++ padded 2 d.day

def offsetText (seconds : Int) : String :=
  let minutes := seconds.natAbs / 60
  (if seconds < 0 then "-" else "+") ++ padded 2 (minutes / 60) ++ ":" ++ padded 2 (minutes % 60)

def clockText (c : Clock) : String :=
  padded 2 c.hour ++ ":" ++ padded 2 c.minute ++ ":" ++ padded 2 c.second ++
    (if c.microsecond = 0 then "" else "." ++ padded 6 c.microsecond) ++
    (match c.offset with
      | none => ""
      | some o => offsetText o)

/-- One byte of binary data between quotes. -/
def byteText (quote : Char) (n : Nat) : List Char :=
  let c := Char.ofNat n
  if c = quote ∨ c = '\\' then ['\\', c]
  else if c = '\n' then ['\\', 'n']
  else if c = '\r' then ['\\', 'r']
  else if c = '\t' then ['\\', 't']
  else if n < 0x20 ∨ 0x7f ≤ n then '\\' :: 'x' :: Text.hexDigits 2 n
  else [c]

def bytesText (content : List Nat) : String :=
  let quote := if 39 ∈ content ∧ 34 ∉ content then '"' else '\''
  String.ofList ('b' :: quote :: content.flatMap (byteText quote) ++ [quote])

def setText (members : List String) : String :=
  if members.isEmpty then "set()" else "\x7b" ++ ", ".intercalate members ++ "\x7d"

/-- The text of a special value. -/
def display : Special → String
  | .day d => dayText d
  | .time d c => dayText d ++ " " ++ clockText c
  | .bytes content => bytesText content
  | .set members => setText members

def commas (parts : List String) : String := ", ".intercalate parts

/-- The text of the seconds by which a time is ahead. -/
def offsetQuoted (seconds : Int) : String :=
  if seconds = 0 then "datetime.timezone.utc"
  else
    let delta := if 0 ≤ seconds then "seconds=" ++ toString seconds
      else "days=-1, seconds=" ++ toString (seconds + 86400)
    "datetime.timezone(datetime.timedelta(" ++ delta ++ "))"

/-- The seconds and microseconds of a time, as far as they are written. -/
def secondsQuoted (c : Clock) : List String :=
  if c.microsecond ≠ 0 then [toString c.second, toString c.microsecond]
  else if c.second ≠ 0 then [toString c.second]
  else []

/-- The text of a special value inside brackets. -/
def displayQuoted : Special → String
  | .day d => "datetime.date(" ++ commas [toString d.year, toString d.month, toString d.day] ++ ")"
  | .time d c =>
    "datetime.datetime(" ++ commas ([toString d.year, toString d.month, toString d.day,
      toString c.hour, toString c.minute] ++ secondsQuoted c ++
      (match c.offset with
        | none => []
        | some o => ["tzinfo=" ++ offsetQuoted o])) ++ ")"
  | s => s.display

/-- The value states something: what is empty does not. -/
def isTelling : Special → Bool
  | .day _ | .time .. => true
  | .bytes content => !content.isEmpty
  | .set members => !members.isEmpty

/-- The value can stand as a key. -/
def isKey : Special → Bool
  | .set _ => false
  | _ => true

def kindName : Special → String
  | .day _ => "date"
  | .time .. => "datetime"
  | .bytes _ => "bytes"
  | .set _ => "set"

end Special

end SdkModel
