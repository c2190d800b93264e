import SdkModel.Extension.Registry
import SdkModel.Text.Split

/-!
# Decoding extensions

The vendor keys of a node are decoded once, into the record of the node's scope. Keys of another
scope are passed over with a debug record; keys that no scope declares are refused by strict
decoding and reported by a warning otherwise. Only then are the values read.
-/

namespace SdkModel

/-- The entries of a node whose key is text that begins with `x-`, in order. -/
def vendorEntries (es : Entries) : List (String × Value) :=
  es.filterMap fun e => match e.1 with
    | .text s => if Text.hasStart "x-" s then some (s, e.2) else none
    | _ => none

/-- What becomes of a vendor key that a record of the given keys does not hold. -/
inductive KeyVerdict where
  | read
  | foreign
  | misplaced
  | unknown
deriving DecidableEq, Repr

/-- The verdict on a vendor key at a node whose record declares `known`. -/
def keyVerdict (known : List String) (key : String) : KeyVerdict :=
  if key ∈ known then .read
  else if !Text.hasStart vendorStart key then .foreign
  else if isRegistered key then .misplaced
  else .unknown

/-- Checks one vendor key. -/
def checkKey (known : List String) (place : String) (strict : Bool) (key : String) : Build Unit :=
  match keyVerdict known key with
  | .read | .foreign => pure ()
  | .misplaced => .write .debug ("Extension " ++ key ++ " is not read at " ++ place)
  | .unknown =>
    if strict then .fail (.unknownExtension key place)
    else .write .warning ("Unknown extension key '" ++ key ++ "' at " ++ place ++ " (ignored)")

/-- Checks the vendor keys of a node one after the other. -/
def checkKeys (known : List String) (place : String) (strict : Bool) : List String → Build Unit
  | [] => pure ()
  | key :: keys => do
    checkKey known place strict key
    checkKeys known place strict keys

/-- Decodes the vendor keys of a node into the record `ρ`. -/
def decode (ρ : Type) [ExtensionRecord ρ] (es : Entries) (place : String) (strict : Bool) :
    Build ρ := do
  checkKeys (recordKeys ρ) place strict ((vendorEntries es).map (·.1))
  match (ExtensionRecord.read es).result with
  | .ok record => pure record
  | .error faults => .fail (.invalidExtension (ExtensionRecord.kind ρ) place faults)

end SdkModel
