import SdkModel.Number.Integer
import SdkModel.Text.CodePoint
import SdkModel.Value.Basic
import SdkModel.Value.Limit

/-!
# Reading JSON

The reader works on the characters that are left; every step answers what is left after it
together with the proof that this is less than before, which is what makes the reader total. A
text that is not JSON is refused with the reason and the place, counted in characters from the
start and as line and column.

Beyond the standard, `NaN`, `Infinity` and `-Infinity` are numbers. Of two entries with one key
the later gives the value and the earlier the place. A text that exceeds a limit on nesting or on
the digits of an integer is refused as well, though it may be JSON.
-/

namespace SdkModel.Json

/-- Why a text is not JSON. -/
inductive Fault where
  | value
  | propertyName
  | colon
  | comma
  | extraData
  | unterminatedString
  | escape
  | unicodeEscape
  | controlCharacter
  | byteOrderMark
  | limit (l : Limit) (count : Nat)
  | undecodable (reason : String)
deriving DecidableEq, Repr

def Fault.message : Fault → String
  | .value => "Expecting value"
  | .propertyName => "Expecting property name enclosed in double quotes"
  | .colon => "Expecting ':' delimiter"
  | .comma => "Expecting ',' delimiter"
  | .extraData => "Extra data"
  | .unterminatedString => "Unterminated string starting at"
  | .escape => "Invalid \\escape"
  | .unicodeEscape => "Invalid \\uXXXX escape"
  | .controlCharacter => "Invalid control character at"
  | .byteOrderMark => "Unexpected UTF-8 BOM (decode using utf-8-sig)"
  | .limit .integerDigits count => "Exceeds the limit (" ++ toString Integer.mostDigits ++
      " digits) for integer string conversion: value has " ++ toString count ++
      " digits; use sys.set_int_max_str_digits() to increase the limit"
  | .limit .nesting _ => "maximum recursion depth exceeded"
  | .undecodable reason => reason

/-- A fault with the number of characters that are left at its place. -/
structure Stop where
  fault : Fault
  left : Nat
deriving DecidableEq, Repr

/-- What is left of a text after a step that read at least one character. -/
abbrev Rest (cs : List Char) := { rest : List Char // rest.length < cs.length }

def isBlank (c : Char) : Bool := c = ' ' || c = '\t' || c = '\n' || c = '\r'

def skipBlanks (cs : List Char) : List Char := cs.dropWhile isBlank

theorem length_skipBlanks_le (cs : List Char) : (skipBlanks cs).length ≤ cs.length :=
  (List.dropWhile_suffix isBlank).length_le

def isDigit (c : Char) : Bool := '0' ≤ c && c ≤ '9'

/-- A run of digits and what follows it. -/
def digits (cs : List Char) : List Char × List Char := (cs.takeWhile isDigit, cs.dropWhile isDigit)

theorem length_digits_le (cs : List Char) : (digits cs).2.length ≤ cs.length :=
  (List.dropWhile_suffix isDigit).length_le

def decimalValue (ds : List Char) : Nat := Text.ofDigits 10 (ds.filterMap Text.decimalDigit?)

/-- The decimals after a point, when the point is followed by a digit. -/
def decimals (cs : List Char) : List Char × List Char :=
  match cs with
  | '.' :: r => if (digits r).1.isEmpty then ([], cs) else digits r
  | _ => ([], cs)

theorem length_decimals_le (cs : List Char) : (decimals cs).2.length ≤ cs.length := by
  unfold decimals
  split
  · split
    · simp
    · have := length_digits_le ‹_›
      simp only [List.length_cons]
      omega
  · simp

/-- The exponent of a number, when the mark is followed by a digit. -/
def exponent (cs : List Char) : Option Int × List Char :=
  let read (negative : Bool) (r : List Char) : Option Int × List Char :=
    if (digits r).1.isEmpty then (none, cs)
    else
      let n : Int := decimalValue (digits r).1
      (some (if negative then -n else n), (digits r).2)
  match cs with
  | e :: '-' :: r => if e = 'e' ∨ e = 'E' then read true r else (none, cs)
  | e :: '+' :: r => if e = 'e' ∨ e = 'E' then read false r else (none, cs)
  | e :: r => if e = 'e' ∨ e = 'E' then read false r else (none, cs)
  | [] => (none, cs)

theorem length_exponent_le (cs : List Char) : (exponent cs).2.length ≤ cs.length := by
  unfold exponent
  split
  all_goals first
    | (split
       · dsimp only
         split
         · simp
         · have := length_digits_le ‹_›
           simp only [List.length_cons]
           omega
       · simp)
    | simp

/-- The digits before the point: a zero alone, or a run that does not start with one. -/
def wholePart : List Char → Option (List Char × List Char)
  | '0' :: r => some (['0'], r)
  | c :: r => if isDigit c then some (c :: (digits r).1, (digits r).2) else none
  | [] => none

theorem length_wholePart_lt {cs ds r : List Char} (h : wholePart cs = some (ds, r)) :
    r.length < cs.length := by
  unfold wholePart at h
  split at h
  · simp only [Option.some.injEq, Prod.mk.injEq] at h
    simp [← h.2]
  · split at h
    · simp only [Option.some.injEq, Prod.mk.injEq] at h
      have := length_digits_le ‹_›
      simp only [List.length_cons, ← h.2]
      omega
    · cases h
  · cases h

/-- A number without its sign. -/
def magnitude (negative : Bool) (cs : List Char) : Option (Except Stop (Value × Rest cs)) :=
  match h : wholePart cs with
  | none => none
  | some (whole, r) =>
    let (places, r') := decimals r
    let (power, r'') := exponent r'
    let coefficient := decimalValue (whole ++ places)
    let isInteger := places.isEmpty && power.isNone
    let v : Value :=
      if isInteger then .int (if negative then -(coefficient : Int) else coefficient)
      else .float (.ofDecimal negative coefficient (power.getD 0 - places.length))
    if isInteger && Integer.mostDigits < whole.length then
      some (.error ⟨.limit .integerDigits whole.length, cs.length⟩)
    else some (.ok (v, ⟨(exponent (decimals r).2).2, by
      have := length_wholePart_lt h
      have := length_decimals_le r
      have := length_exponent_le (decimals r).2
      omega⟩))

/-- Four hexadecimal digits. -/
def hexUnit : List Char → Option (Nat × List Char)
  | a :: b :: c :: d :: r => do
    let ds ← [a, b, c, d].mapM Text.hexDigit?
    some (Text.ofDigits 16 ds, r)
  | _ => none

theorem length_hexUnit_lt {cs r : List Char} {n : Nat} (h : hexUnit cs = some (n, r)) :
    r.length < cs.length := by
  unfold hexUnit at h
  split at h
  · simp only [Option.bind_eq_bind, Option.bind_eq_some_iff, Option.some.injEq,
      Prod.mk.injEq] at h
    obtain ⟨_, _, _, rfl⟩ := h
    simp only [List.length_cons]
    omega
  · cases h

/-- The character after the mark of a Unicode escape. Two escapes may spell one character. The
text goes on behind an escape in any case, if only with the closing quote. -/
def unicodeEscape (cs : List Char) : Except Stop (Char × Rest cs) :=
  match h : hexUnit cs with
  | none => .error ⟨.unicodeEscape, cs.length + 1⟩
  | some (n, r) =>
    have hr := length_hexUnit_lt h
    if r.isEmpty then .error ⟨.unicodeEscape, cs.length + 1⟩
    else if Text.isHighSurrogate n && 6 < r.length then
      match r, hr with
      | '\\' :: 'u' :: r', hr =>
        match h' : hexUnit r' with
        | none => .error ⟨.unicodeEscape, r'.length + 1⟩
        | some (m, r'') =>
          if Text.isLowSurrogate m then
            .ok (Text.pairChar n m, ⟨r'', by
              have := length_hexUnit_lt h'
              simp only [List.length_cons] at hr
              omega⟩)
          else .ok (Text.codeChar n, ⟨'\\' :: 'u' :: r', hr⟩)
      | r, hr => .ok (Text.codeChar n, ⟨r, hr⟩)
    else .ok (Text.codeChar n, ⟨r, hr⟩)

/-- The character that a short escape stands for. -/
def shortEscape? : Char → Option Char
  | '"' => some '"'
  | '\\' => some '\\'
  | '/' => some '/'
  | 'b' => some '\x08'
  | 'f' => some '\x0c'
  | 'n' => some '\n'
  | 'r' => some '\r'
  | 't' => some '\t'
  | _ => none

/-- The text up to the closing quote; `opening` characters are left at the opening one. -/
def stringTail (opening : Nat) (cs : List Char) : Except Stop (List Char × Rest cs) :=
  match cs with
  | [] => .error ⟨.unterminatedString, opening⟩
  | '"' :: r => .ok ([], ⟨r, by simp⟩)
  | '\\' :: [] => .error ⟨.unterminatedString, opening⟩
  | '\\' :: 'u' :: r => do
    let (c, ⟨r', h⟩) ← unicodeEscape r
    let (s, ⟨r'', h'⟩) ← stringTail opening r'
    .ok (c :: s, ⟨r'', by simp only [List.length_cons]; omega⟩)
  | '\\' :: e :: r =>
    match shortEscape? e with
    | none => .error ⟨.escape, r.length + 2⟩
    | some c => do
      let (s, ⟨r', h⟩) ← stringTail opening r
      .ok (c :: s, ⟨r', by simp only [List.length_cons]; omega⟩)
  | c :: r =>
    if c.toNat < 0x20 then .error ⟨.controlCharacter, r.length + 1⟩
    else do
      let (s, ⟨r', h⟩) ← stringTail opening r
      .ok (c :: s, ⟨r', by simp only [List.length_cons]; omega⟩)
termination_by cs.length
decreasing_by all_goals simp_all only [List.length_cons]; omega

/-- The rest after a word that the text starts with. -/
def afterWord (word : List Char) (cs : List Char) (v : Value) : Except Stop (Value × Rest cs) :=
  if h : word.isPrefixOf cs = true ∧ word ≠ [] then
    .ok (v, ⟨cs.drop word.length, by
      have := (List.isPrefixOf_iff_prefix.1 h.1).length_le
      have := List.length_pos_iff.2 h.2
      rw [List.length_drop]
      omega⟩)
  else .error ⟨.value, cs.length⟩

/-- How deep a text may nest. -/
def deepest : Nat := 970

mutual

/-- The value at the start of a text, which may nest `room` levels deep. -/
def value (room : Nat) (cs : List Char) : Except Stop (Value × Rest cs) :=
  match cs with
  | [] => .error ⟨.value, 0⟩
  | '"' :: r => do
    let (s, ⟨r', h⟩) ← stringTail (r.length + 1) r
    .ok (.text (String.ofList s), ⟨r', by simp only [List.length_cons]; omega⟩)
  | '\x7b' :: r =>
    have hr := length_skipBlanks_le r
    match hs : skipBlanks r with
    | '\x7d' :: r' => .ok (.object [], ⟨r', by
        rw [hs] at hr; simp only [List.length_cons] at *; omega⟩)
    | s => do
      if room = 0 then throw ⟨.limit .nesting 0, r.length + 1⟩
      let (es, ⟨r', h⟩) ← members (room - 1) s
      .ok (.object (Entries.ofList es), ⟨r', by rw [hs] at hr; simp only [List.length_cons]; omega⟩)
  | '[' :: r =>
    have hr := length_skipBlanks_le r
    match hs : skipBlanks r with
    | ']' :: r' => .ok (.list [], ⟨r', by
        rw [hs] at hr; simp only [List.length_cons] at *; omega⟩)
    | s => do
      if room = 0 then throw ⟨.limit .nesting 0, r.length + 1⟩
      let (xs, ⟨r', h⟩) ← items (room - 1) s
      .ok (.list xs, ⟨r', by rw [hs] at hr; simp only [List.length_cons]; omega⟩)
  | 'n' :: r => afterWord ['n', 'u', 'l', 'l'] ('n' :: r) .null
  | 't' :: r => afterWord ['t', 'r', 'u', 'e'] ('t' :: r) (.bool true)
  | 'f' :: r => afterWord ['f', 'a', 'l', 's', 'e'] ('f' :: r) (.bool false)
  | 'N' :: r => afterWord ['N', 'a', 'N'] ('N' :: r) (.float .undefined)
  | 'I' :: r => afterWord "Infinity".toList ('I' :: r) (.float (.infinite false))
  | '-' :: r =>
    match magnitude true r with
    | some (.ok (v, ⟨r', h⟩)) => .ok (v, ⟨r', by simp only [List.length_cons]; omega⟩)
    | some (.error stop) => .error stop
    | none => afterWord "-Infinity".toList ('-' :: r) (.float (.infinite true))
  | c :: r =>
    match magnitude false (c :: r) with
    | some x => x
    | none => .error ⟨.value, r.length + 1⟩
termination_by (cs.length, 0)
decreasing_by
  all_goals
    rw [hs] at hr
    simp_all only [List.length_cons, Prod.lex_def]
    omega

/-- The items of a list up to its closing bracket; the text starts with an item. -/
def items (room : Nat) (cs : List Char) : Except Stop (List Value × Rest cs) := do
  let (v, ⟨r, h⟩) ← value room cs
  have hr := length_skipBlanks_le r
  match hs : skipBlanks r with
  | ']' :: r' => .ok ([v], ⟨r', by rw [hs] at hr; simp only [List.length_cons] at hr; omega⟩)
  | ',' :: r' =>
    have hr' := length_skipBlanks_le r'
    let (vs, ⟨r'', h'⟩) ← items room (skipBlanks r')
    .ok (v :: vs, ⟨r'', by rw [hs] at hr; simp only [List.length_cons] at hr; omega⟩)
  | s => .error ⟨.comma, s.length⟩
termination_by (cs.length, 1)
decreasing_by
  · simp [Prod.lex_def]
  · rw [hs] at hr
    simp_all only [List.length_cons, Prod.lex_def]
    omega

/-- The entries of an object up to its closing brace; the text starts with a key. -/
def members (room : Nat) (cs : List Char) : Except Stop (List (Key × Value) × Rest cs) :=
  match cs with
  | '"' :: r => do
    let (k, ⟨r', h⟩) ← stringTail (r.length + 1) r
    have hr := length_skipBlanks_le r'
    match hs : skipBlanks r' with
    | ':' :: t =>
      have ht := length_skipBlanks_le t
      let (v, ⟨t', h'⟩) ← value room (skipBlanks t)
      have ht' := length_skipBlanks_le t'
      match hs' : skipBlanks t' with
      | '\x7d' :: u => .ok ([(.text (String.ofList k), v)], ⟨u, by
          rw [hs] at hr; rw [hs'] at ht'; simp only [List.length_cons] at *; omega⟩)
      | ',' :: u =>
        have hu := length_skipBlanks_le u
        let (es, ⟨u', h''⟩) ← members room (skipBlanks u)
        .ok ((.text (String.ofList k), v) :: es, ⟨u', by
          rw [hs] at hr; rw [hs'] at ht'; simp only [List.length_cons] at *; omega⟩)
      | s => .error ⟨.comma, s.length⟩
    | s => .error ⟨.colon, s.length⟩
  | _ => .error ⟨.propertyName, cs.length⟩
termination_by (cs.length, 0)
decreasing_by
  · rw [hs] at hr
    simp_all only [List.length_cons, Prod.lex_def]
    omega
  · rw [hs] at hr
    rw [hs'] at ht'
    simp_all only [List.length_cons, Prod.lex_def]
    omega

end

/-- A fault and its place: characters before it, and line and column counted from one. -/
structure SyntaxError where
  fault : Fault
  position : Nat
  line : Nat
  column : Nat
deriving DecidableEq, Repr

/-- The place of a stop in the text that was read. -/
def Stop.locate (text : List Char) (stop : Stop) : SyntaxError :=
  let position := text.length - stop.left
  let before := text.take position
  { fault := stop.fault
    position
    line := before.count '\n' + 1
    column := (before.reverse.takeWhile (· ≠ '\n')).length + 1 }

/-- The limit that the text exceeds, if that is the fault. -/
def SyntaxError.limit? (e : SyntaxError) : Option Limit :=
  match e.fault with
  | .limit l _ => some l
  | _ => none

/-- The fault has a place in the text. -/
def Fault.isPlaced : Fault → Bool
  | .limit .. | .undecodable _ => false
  | _ => true

def SyntaxError.message (e : SyntaxError) : String :=
  if e.fault.isPlaced then
    e.fault.message ++ ": line " ++ toString e.line ++ " column " ++ toString e.column ++
      " (char " ++ toString e.position ++ ")"
  else e.fault.message

/-- The error of bytes that encode no text. -/
def SyntaxError.ofBytes (reason : String) : SyntaxError := ⟨.undecodable reason, 0, 1, 1⟩

/-- The value that a whole text spells. -/
def readChars (text : List Char) : Except Stop Value :=
  match text with
  | '\ufeff' :: _ => .error ⟨.byteOrderMark, text.length⟩
  | _ => do
    let (v, ⟨r, _⟩) ← value deepest (skipBlanks text)
    match skipBlanks r with
    | [] => .ok v
    | s => .error ⟨.extraData, s.length⟩

/-- Reads a JSON text. -/
def read (text : String) : Except SyntaxError Value :=
  (readChars text.toList).mapError (·.locate text.toList)

end SdkModel.Json
