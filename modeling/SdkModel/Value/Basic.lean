import SdkModel.Number.Binary64
import SdkModel.Value.Special

/-!
# Document values

A document is a tree of values. Objects keep their entries in the order in which they were
written, since properties, schemas and paths are walked in that order. The keys of an object are
nearly always text; a document may also write a number or a truth value where a key stands
(`200:` below `responses`), and such a key is told apart from its text.
-/

namespace SdkModel

/-- A key of an object. -/
inductive Key where
  | null
  | bool (b : Bool)
  | int (i : Int)
  | float (x : Binary64)
  | text (s : String)
  | special (x : Special)
deriving DecidableEq, Repr, Inhabited

namespace Key

/-- Truth values and integral numbers as the integers that they are equal to as keys. -/
def normal : Key → Key
  | .bool b => .int (if b then 1 else 0)
  | .float x => match x.toInt? with
    | some i => .int i
    | none => .float x
  | k => k

/-- Two keys name the same entry: `200` and `200.0` do, `200` and `'200'` do not. -/
def same (j k : Key) : Bool := j.normal = k.normal

@[simp] theorem same_text (s t : String) : same (.text s) (.text t) = decide (s = t) := by
  simp [same, normal]

end Key

/-- A value of a document. -/
inductive Value where
  | null
  | bool (b : Bool)
  | int (i : Int)
  | float (x : Binary64)
  | text (s : String)
  | list (items : List Value)
  | object (entries : List (Key × Value))
  | special (x : Special)
deriving BEq, Repr, Inhabited

/-- The entries of an object, in order. No two keys are the same. -/
abbrev Entries := List (Key × Value)

namespace Entries

/-- The value of the first entry under a key. -/
def get? (es : Entries) (k : Key) : Option Value :=
  (es.find? fun e => e.1.same k).map (·.2)

/-- The value under a text key; null where there is none. -/
def get (es : Entries) (name : String) : Value := (es.get? (.text name)).getD .null

def has (es : Entries) (name : String) : Bool := es.any fun e => e.1.same (.text name)

/-- The entries with a value put under a key: in place of the value that the key has, or at the
end. -/
def put (es : Entries) (k : Key) (v : Value) : Entries :=
  match es with
  | [] => [(k, v)]
  | e :: rest => if e.1.same k then (e.1, v) :: rest else e :: put rest k v

/-- The entries of a list of pairs in which a later pair replaces the value of an earlier one. -/
def ofList (pairs : List (Key × Value)) : Entries := pairs.foldl (fun es e => es.put e.1 e.2) []

/-- The entries of `base`, overlaid by those of `top`. -/
def overlay (base top : Entries) : Entries := top.foldl (fun es e => es.put e.1 e.2) base

end Entries

namespace Value

/-- An object whose keys are text. -/
def record (fields : List (String × Value)) : Value :=
  .object (fields.map fun f => (.text f.1, f.2))

def texts (ss : List String) : Value := .list (ss.map .text)

def optText : Option String → Value
  | some s => .text s
  | none => .null

def ofNat (n : Nat) : Value := .int n

/-- A value that states something: null, false, zero and what is empty do not. -/
def isTelling : Value → Bool
  | .null => false
  | .bool b => b
  | .int i => i ≠ 0
  | .float x => !x.isZero
  | .text s => s ≠ ""
  | .list xs => !xs.isEmpty
  | .object es => !es.isEmpty
  | .special x => x.isTelling

def isObject : Value → Bool
  | .object _ => true
  | _ => false

/-- The entries of an object. -/
def entries? : Value → Option Entries
  | .object es => some es
  | _ => none

def text? : Value → Option String
  | .text s => some s
  | _ => none

/-- The word for the kind of a value that stands where another kind was expected. -/
def kindName : Value → String
  | .null => "NoneType"
  | .bool _ => "bool"
  | .int _ => "int"
  | .float _ => "float"
  | .text _ => "str"
  | .list _ => "list"
  | .object _ => "dict"
  | .special x => x.kindName

theorem sizeOf_lt_of_mem_list {v : Value} {xs : List Value} (h : v ∈ xs) :
    sizeOf v < sizeOf (Value.list xs) := by
  have := List.sizeOf_lt_of_mem h
  simp only [Value.list.sizeOf_spec]
  omega

theorem sizeOf_lt_of_mem_object {k : Key} {v : Value} {es : Entries} (h : (k, v) ∈ es) :
    sizeOf v < sizeOf (Value.object es) := by
  have := List.sizeOf_lt_of_mem h
  simp only [Value.object.sizeOf_spec, Prod.mk.sizeOf_spec] at *
  omega

end Value

end SdkModel
