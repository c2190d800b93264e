import SdkModel.Extension.Operation

/-!
# Action traits

The classification of one operation. Outside QA mode an operation is left out of generated code
when it is hidden, bulk or internal.
-/

namespace SdkModel

/-- The classification of one operation. -/
structure ActionTraits where
  isList : Bool
  isBulk : Bool
  isBatch : Bool
  isIdempotent : Bool
  isInternal : Bool
  isEap : Bool
  hiddenFromSdk : Bool
  needsJsonInput : Bool
  needsInputObject : Bool
  isDeprecated : Bool
  sortOrder : Int
  isHidden : Bool
  isExcludedFromSdk : Bool
deriving DecidableEq, Repr

/-- The record as a value. -/
def ActionTraits.toValue (t : ActionTraits) : Value := .record [
  ("is_list", .bool t.isList), ("is_bulk", .bool t.isBulk), ("is_batch", .bool t.isBatch),
  ("is_idempotent", .bool t.isIdempotent), ("is_internal", .bool t.isInternal),
  ("is_eap", .bool t.isEap), ("hidden_from_sdk", .bool t.hiddenFromSdk),
  ("needs_json_input", .bool t.needsJsonInput), ("needs_input_object", .bool t.needsInputObject),
  ("is_deprecated", .bool t.isDeprecated), ("sort_order", .int t.sortOrder),
  ("is_hidden", .bool t.isHidden), ("is_excluded_from_sdk", .bool t.isExcludedFromSdk)]

namespace OperationExtensions

def isHidden (x : OperationExtensions) (qa : Bool) : Bool := x.hiddenFromSdk && !qa

def isExcluded (x : OperationExtensions) (qa : Bool) : Bool :=
  !qa && (x.hiddenFromSdk || x.isBulk || x.isInternal)

def classify (x : OperationExtensions) (deprecated qa : Bool) : ActionTraits :=
  { isList := x.isList
    isBulk := x.isBulk
    isBatch := x.isBatch
    isIdempotent := x.isIdempotent
    isInternal := x.isInternal
    isEap := x.isEap
    hiddenFromSdk := x.hiddenFromSdk
    needsJsonInput := x.needsJsonInput
    needsInputObject := x.needsInputObject
    isDeprecated := deprecated
    sortOrder := x.sortOrder
    isHidden := x.isHidden qa
    isExcludedFromSdk := x.isExcluded qa }

end OperationExtensions

end SdkModel
