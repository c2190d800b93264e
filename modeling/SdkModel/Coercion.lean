import SdkModel.Text.Blank
import SdkModel.Text.Digit
import SdkModel.Value.Basic

/-!
# Lax reading of typed fields

Extension records, schema nodes and configuration sections have typed fields, and a document may
spell a value in several ways: a flag as `true`, `1` or `"yes"`, a number as `5`, `5.0` or
`"1_000"`. A value that no spelling covers is a fault, and a record reports all its faults in the
order of its fields.

`Reading` collects the faults of a record: a faulty field yields its default there, so that reading
goes on, and `Reading.result` keeps the record only when nothing was faulty.
-/

namespace SdkModel

/-- Why a value does not fit a field. -/
inductive FaultKind where
  | boolParsing
  | boolType
  | intParsing
  | intParsingSize
  | intType
  | intFromFloat
  | finiteNumber
  | stringType
  | listType
  | modelType
  | literal
  | greaterThanEqual
deriving DecidableEq, Repr

def FaultKind.word : FaultKind → String
  | .boolParsing => "bool_parsing"
  | .boolType => "bool_type"
  | .intParsing => "int_parsing"
  | .intParsingSize => "int_parsing_size"
  | .intType => "int_type"
  | .intFromFloat => "int_from_float"
  | .finiteNumber => "finite_number"
  | .stringType => "string_type"
  | .listType => "list_type"
  | .modelType => "model_type"
  | .literal => "literal_error"
  | .greaterThanEqual => "greater_than_equal"

/-- A step into a record: a field by name or an item by index. -/
inductive Step where
  | field (name : String)
  | item (index : Nat)
deriving DecidableEq, Repr

/-- A fault and where in the record it lies. -/
structure FieldFault where
  path : List Step
  kind : FaultKind
deriving DecidableEq, Repr

/-- Reading one value as an `α`. -/
abbrev Coercion (α : Type) := Value → Except (List FieldFault) α

namespace Coercion

def fault {α : Type} (kind : FaultKind) : Except (List FieldFault) α := .error [⟨[], kind⟩]

def trueWords : List String := ["1", "true", "t", "yes", "y", "on"]

def falseWords : List String := ["0", "false", "f", "no", "n", "off"]

/-- ASCII capitals made small. -/
def asciiLower (s : String) : String :=
  String.ofList (s.toList.map fun c => if 'A' ≤ c ∧ c ≤ 'Z' then Char.ofNat (c.toNat + 32) else c)

/-- An integer that fits a signed word of 64 bits. -/
def fitsWord (i : Int) : Bool := -Int.pow 2 63 ≤ i && i < Int.pow 2 63

/-- An integer between the bounds of such a word, neither bound included: what a number without
fraction may spell. -/
def fitsWordAsFloat (i : Int) : Bool := -Int.pow 2 63 < i && i < Int.pow 2 63

/-- A truth value: itself, 0 or 1 as a number, or one of twelve words in any case. -/
def flag : Coercion Bool
  | .bool b => .ok b
  | .int i =>
    if i = 0 then .ok false
    else if i = 1 then .ok true
    else fault (if fitsWord i then .boolParsing else .boolType)
  | .float x => match x.toInt? with
    | some 0 => .ok false
    | some 1 => .ok true
    | _ => fault .boolType
  | .text s =>
    let word := asciiLower s
    if word ∈ trueWords then .ok true
    else if word ∈ falseWords then .ok false
    else fault .boolParsing
  | _ => fault .boolType

/-- The digits of a whole number, with the decimals that a number may have when all are zero. -/
def wholeDigits? (cs : List Char) : Option (List Char) :=
  let whole := cs.takeWhile (· ≠ '.')
  match cs.dropWhile (· ≠ '.') with
  | [] => some whole
  | [_] => none
  | _ :: zeros => if zeros.all (· = '0') then some whole else none

/-- The number that a text spells: blanks around it, one sign, single underscores between its
digits and a point followed by zeros are allowed. -/
def parseInt? (s : String) : Option Int :=
  let cs := Text.trimBy Text.isSpace s.toList
  let unsigned? (ds : List Char) : Option Nat := do
    let whole ← wholeDigits? ds
    let digits ← Text.ungroup? (fun c => '0' ≤ c ∧ c ≤ '9') whole
    some (Text.ofDigits 10 (digits.filterMap Text.decimalDigit?))
  match cs with
  | '-' :: r => (unsigned? r).map fun n => -(n : Int)
  | '+' :: r => (unsigned? r).map fun n => (n : Int)
  | r => (unsigned? r).map fun n => (n : Int)

/-- An integer: itself, a truth value as 0 or 1, a number without fraction, or a text that spells
one. -/
def int : Coercion Int
  | .int i => .ok i
  | .bool b => .ok (if b then 1 else 0)
  | .float x => match x, x.toInt? with
    | .finite .., some i => if fitsWordAsFloat i then .ok i else fault .intParsingSize
    | .finite .., none => fault .intFromFloat
    | _, _ => fault .finiteNumber
  | .text s => match parseInt? s with
    | some i => .ok i
    | none => fault .intParsing
  | _ => fault .intType

def text : Coercion String
  | .text s => .ok s
  | _ => fault .stringType

/-- Nothing for null, otherwise what `read` answers. -/
def opt {α : Type} (read : Coercion α) : Coercion (Option α)
  | .null => .ok none
  | v => (read v).map some

/-- The faults of the items of a list, each under its index from `start` on. -/
def itemFaults {α : Type} (read : Coercion α) (start : Nat) : List Value → List FieldFault
  | [] => []
  | v :: vs =>
    (match read v with
      | .ok _ => []
      | .error fs => fs.map fun f => { f with path := .item start :: f.path }) ++
    itemFaults read (start + 1) vs

/-- A list, each item read by `read`. -/
def list {α : Type} (read : Coercion α) : Coercion (List α)
  | .list vs => match itemFaults read 0 vs with
    | [] => .ok (vs.filterMap fun v => (read v).toOption)
    | fs => .error fs
  | _ => fault .listType

end Coercion

/-- A record read so far, with the faults found on the way. -/
structure Reading (α : Type) where
  value : α
  faults : List FieldFault

namespace Reading

instance : Monad Reading where
  pure a := ⟨a, []⟩
  bind x f :=
    let y := f x.value
    ⟨y.value, x.faults ++ y.faults⟩

/-- The field `label` that is written under `key`: what `read` answers for its value, and the
default for an absent or faulty one. -/
def fieldUnder {α : Type} (es : Entries) (key label : String) (default : α) (read : Coercion α) :
    Reading α :=
  match es.get? (.text key) with
  | none => ⟨default, []⟩
  | some v => match read v with
    | .ok a => ⟨a, []⟩
    | .error fs => ⟨default, fs.map fun f => { f with path := .field label :: f.path }⟩

/-- A field that is written under its name. -/
def field {α : Type} (es : Entries) (name : String) (default : α) (read : Coercion α) :
    Reading α :=
  fieldUnder es name name default read

/-- The record, when nothing in it was faulty. -/
def result {α : Type} (r : Reading α) : Except (List FieldFault) α :=
  match r.faults with
  | [] => .ok r.value
  | fs => .error fs

end Reading

end SdkModel
