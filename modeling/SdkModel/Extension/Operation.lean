import SdkModel.Extension.Field

/-!
# Operation extensions

The generation directives that an operation carries.
-/

namespace SdkModel

open Coercion

/-- The directives attached to an operation. -/
structure OperationExtensions where
  methodName : Option String := none
  resourceId : Option String := none
  isList : Bool := false
  isBulk : Bool := false
  isBatch : Bool := false
  isIdempotent : Bool := false
  subDomain : Option String := none
  batchPathId : Option String := none
  needsJsonInput : Bool := false
  needsInputObject : Bool := false
  isCustomFieldsSupported : Bool := false
  sortOrder : Int := -1
  hiddenFromSdk : Bool := false
  isInternal : Bool := false
  isEap : Bool := false
  module : Option String := none
  modelName : Option String := none
  /-- The names of the fields whose key the node carries. -/
  declared : List String := []
deriving DecidableEq, Repr, Inhabited

namespace OperationExtensions

/-- Every field with the value it has in a record, in declaration order. -/
def listing (r : OperationExtensions) : List (ExtensionField × Value) := [
  (⟨"x-cb-operation-method-name", "method_name",
      "SDK method name for the operation (required)"⟩, .optText r.methodName),
  (⟨"x-cb-resource-id", "resource_id",
      "Id of the resource the operation belongs to"⟩, .optText r.resourceId),
  (⟨"x-cb-operation-is-list", "is_list", "Operation returns a paginated list"⟩, .bool r.isList),
  (⟨"x-cb-operation-is-bulk", "is_bulk",
      "Bulk operation, hidden from SDKs outside QA mode"⟩, .bool r.isBulk),
  (⟨"x-cb-operation-is-batch", "is_batch", "Batch-capable operation"⟩, .bool r.isBatch),
  (⟨"x-cb-operation-is-idempotent", "is_idempotent",
      "Operation accepts an idempotency key"⟩, .bool r.isIdempotent),
  (⟨"x-cb-operation-sub-domain-name", "sub_domain",
      "Sub-domain the request is routed to"⟩, .optText r.subDomain),
  (⟨"x-cb-batch-operation-path-id", "batch_path_id",
      "Path id used when the operation runs inside a batch"⟩, .optText r.batchPathId),
  (⟨"x-cb-is-operation-needs-json-input", "needs_json_input",
      "Request body is sent as JSON instead of form-encoded"⟩, .bool r.needsJsonInput),
  (⟨"x-cb-is-operation-needs-input-object", "needs_input_object",
      "SDK method takes a single input object"⟩, .bool r.needsInputObject),
  (⟨"x-cb-is-custom-fields-supported", "is_custom_fields_supported",
      "Operation accepts cf_* custom fields"⟩, .bool r.isCustomFieldsSupported),
  (⟨"x-cb-sort-order", "sort_order", "Position among sibling operations"⟩, .int r.sortOrder),
  (⟨"x-cb-hidden-from-client-sdk", "hidden_from_sdk",
      "Omit from generated SDKs outside QA mode"⟩, .bool r.hiddenFromSdk),
  (⟨"x-cb-internal", "is_internal", "Internal-only operation"⟩, .bool r.isInternal),
  (⟨"x-cb-is-eap", "is_eap", "Early-access operation"⟩, .bool r.isEap),
  (⟨"x-cb-module", "module", "Product module the operation belongs to"⟩, .optText r.module),
  (⟨"x-cb-meta-model-name", "model_name",
      "Model the operation's input maps to"⟩, .optText r.modelName)]

/-- Reads the record off a node; the faults come in declaration order. -/
def read (es : Entries) : Reading OperationExtensions := do
  let methodName ← Reading.field es "x-cb-operation-method-name" none (opt text)
  let resourceId ← Reading.field es "x-cb-resource-id" none (opt text)
  let isList ← Reading.field es "x-cb-operation-is-list" false flag
  let isBulk ← Reading.field es "x-cb-operation-is-bulk" false flag
  let isBatch ← Reading.field es "x-cb-operation-is-batch" false flag
  let isIdempotent ← Reading.field es "x-cb-operation-is-idempotent" false flag
  let subDomain ← Reading.field es "x-cb-operation-sub-domain-name" none (opt text)
  let batchPathId ← Reading.field es "x-cb-batch-operation-path-id" none (opt text)
  let needsJsonInput ← Reading.field es "x-cb-is-operation-needs-json-input" false flag
  let needsInputObject ← Reading.field es "x-cb-is-operation-needs-input-object" false flag
  let isCustomFieldsSupported ← Reading.field es "x-cb-is-custom-fields-supported" false flag
  let sortOrder ← Reading.field es "x-cb-sort-order" (-1) int
  let hiddenFromSdk ← Reading.field es "x-cb-hidden-from-client-sdk" false flag
  let isInternal ← Reading.field es "x-cb-internal" false flag
  let isEap ← Reading.field es "x-cb-is-eap" false flag
  let module ← Reading.field es "x-cb-module" none (opt text)
  let modelName ← Reading.field es "x-cb-meta-model-name" none (opt text)
  return {
    methodName, resourceId, isList, isBulk, isBatch, isIdempotent, subDomain, batchPathId,
    needsJsonInput, needsInputObject, isCustomFieldsSupported, sortOrder, hiddenFromSdk,
    isInternal, isEap, module, modelName,
    declared := declaredFields (listing {}) es }

end OperationExtensions

end SdkModel
