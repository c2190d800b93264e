/-!
# Strides of code points

Character data comes in strides: every first or every second code point of a range. A run is a
stride whose characters all map to another character by one shift.
-/

namespace SdkModel.Text

/-- Every `step`-th code point from `first` to `last`. -/
structure Stride where
  first : Nat
  last : Nat
  step : Nat
deriving DecidableEq, Repr

def Stride.has (s : Stride) (n : Nat) : Bool :=
  s.first ≤ n && n ≤ s.last && (n - s.first) % s.step == 0

/-- A stride of characters with the distance to the character each one maps to. -/
structure Run where
  first : Nat
  last : Nat
  step : Nat
  shift : Int
deriving DecidableEq, Repr

def Run.stride (r : Run) : Stride := ⟨r.first, r.last, r.step⟩

/-- Membership of a code point in a list of strides. -/
def inStrides (strides : List Stride) (n : Nat) : Bool :=
  strides.any (·.has n)

/-- The image of a code point under the first run that holds it. -/
def shifted? (runs : List Run) (n : Nat) : Option Nat :=
  (runs.find? (·.stride.has n)).map fun r => ((n : Int) + r.shift).toNat

end SdkModel.Text
