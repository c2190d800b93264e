import SdkModel.Failure
import SdkModel.Number.Integer
import SdkModel.Text.Split

/-!
# Pointers into a document

A reference `#/a/b` names a place of its own document by the keys and indexes on the way to it.
A slash inside a key is written `~1` and a tilde `~0`. Indexes may be written as any whole number,
in the digits of any script; negative ones count from the end of the list.
-/

namespace SdkModel

/-- The key that the reference of a node stands under. -/
def referenceKey : String := "$ref"

/-- The reference of an object, when it has a textual one. -/
def Entries.reference? (es : Entries) : Option String := (es.get referenceKey).text?

namespace Pointer

/-- The steps of an internal reference. -/
def segments? (reference : String) : Option (List String) :=
  match reference.toList with
  | '#' :: '/' :: rest => some ((Text.split '/' rest).map fun cs =>
      String.ofList (Text.swapPair '~' '0' '~' (Text.swapPair '~' '1' '/' cs)))
  | _ => none

/-- The whole number that a segment spells. -/
def wholeNumber? (segment : String) : Option Int := Integer.parse? 10 segment.toList

/-- The item at an index; negative ones count from the end. -/
def itemAt? (xs : List Value) (i : Int) : Option Value :=
  if 0 ≤ i then xs[i.toNat]?
  else if (-i).toNat ≤ xs.length then xs[xs.length - (-i).toNat]? else none

/-- Goes one segment down. -/
def step (reference segment : String) : Value → Except DocumentError Value
  | .object es => match Entries.get? es (.text segment) with
    | some v => .ok v
    | none => .error (.missingKey reference segment)
  | .list xs => match (wholeNumber? segment).bind (itemAt? xs) with
    | some v => .ok v
    | none => .error (.badIndex reference segment)
  | v => .error (.notContainer reference v.kindName)

/-- The place that a reference names below `root`. -/
def follow (root : Value) (reference : String) : Except DocumentError Value :=
  match segments? reference with
  | none => .error (.externalReference reference)
  | some segments => segments.foldlM (fun v segment => step reference segment v) root

end Pointer

end SdkModel
