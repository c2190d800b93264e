import SdkModel.Extension.Field
import SdkModel.Text.Split

/-!
# Schema extensions

The directives that a schema, a parameter or a component schema carries, those of resources
included.
-/

namespace SdkModel

open Coercion

/-- The enum values marked deprecated: a list of texts, or one text with the values between commas.
Blank parts are left out and null marks nothing. -/
def Coercion.markedValues : Coercion (List String)
  | .null => .ok []
  | .text s => .ok (((Text.pieces ',' s).map Text.trim).filter (· ≠ ""))
  | v => Coercion.list Coercion.text v

/-- The directives attached to a schema, a parameter or a component schema. -/
structure SchemaExtensions where
  isSubResource : Bool := false
  isGlobalResourceReference : Bool := false
  isDependentAttribute : Bool := false
  isFilterParameter : Bool := false
  isPaginationParameter : Bool := false
  isMultiValueAttribute : Bool := false
  isCompositeArrayRequestBody : Bool := false
  isPresenceOperatorSupported : Bool := false
  sdkFilterName : Option String := none
  parameterBlankOption : Option String := none
  isMoneyColumn : Bool := false
  isLongMoneyColumn : Bool := false
  isApiColumn : Bool := false
  isForeignColumn : Bool := false
  isGlobalEnum : Bool := false
  globalEnumReference : Option String := none
  isExternalEnum : Bool := false
  sdkEnumApiName : Option String := none
  deprecatedEnumValues : List String := []
  isGenSeparate : Bool := false
  metaModelName : Option String := none
  attributeMetaComment : Option String := none
  attributePcv : Option Int := none
  deprecationMessage : Option String := none
  sortOrder : Int := -1
  hiddenFromSdk : Bool := false
  isInternal : Bool := false
  isEap : Bool := false
  resourceId : Option String := none
  resourcePathName : Option String := none
  isThirdPartyResource : Bool := false
  isDependentResource : Bool := false
  subResourceName : Option String := none
  subResourceParentName : Option String := none
  productCatalogVersion : Option Int := none
  isCustomFieldsSupported : Bool := false
  module : Option String := none
  /-- The names of the fields whose key the node carries. -/
  declared : List String := []
deriving DecidableEq, Repr, Inhabited

namespace SchemaExtensions

/-- Every field with the value it has in a record, in declaration order. -/
def listing (r : SchemaExtensions) : List (ExtensionField × Value) := [
  (⟨"x-cb-is-sub-resource", "is_sub_resource", ""⟩, .bool r.isSubResource),
  (⟨"x-cb-is-global-resource-reference", "is_global_resource_reference",
      ""⟩, .bool r.isGlobalResourceReference),
  (⟨"x-cb-is-dependent-attribute", "is_dependent_attribute", ""⟩, .bool r.isDependentAttribute),
  (⟨"x-cb-is-filter-parameter", "is_filter_parameter", ""⟩, .bool r.isFilterParameter),
  (⟨"x-cb-is-pagination-parameter", "is_pagination_parameter", ""⟩, .bool r.isPaginationParameter),
  (⟨"x-cb-is-multi-value-attribute", "is_multi_value_attribute", ""⟩,
    .bool r.isMultiValueAttribute),
  (⟨"x-cb-is-composite-array-request-body", "is_composite_array_request_body",
      ""⟩, .bool r.isCompositeArrayRequestBody),
  (⟨"x-cb-is-presence-operator-supported", "is_presence_operator_supported",
      ""⟩, .bool r.isPresenceOperatorSupported),
  (⟨"x-cb-sdk-filter-name", "sdk_filter_name",
      "Filter kind, e.g. StringFilter or EnumFilter"⟩, .optText r.sdkFilterName),
  (⟨"x-cb-parameter-blank-option", "parameter_blank_option", ""⟩, .optText r.parameterBlankOption),
  (⟨"x-cb-is-money-column", "is_money_column", ""⟩, .bool r.isMoneyColumn),
  (⟨"x-cb-is-long-money-column", "is_long_money_column", ""⟩, .bool r.isLongMoneyColumn),
  (⟨"x-cb-is-api-column", "is_api_column", ""⟩, .bool r.isApiColumn),
  (⟨"x-cb-is-foreign-column", "is_foreign_column", ""⟩, .bool r.isForeignColumn),
  (⟨"x-cb-is-global-enum", "is_global_enum", ""⟩, .bool r.isGlobalEnum),
  (⟨"x-cb-global-enum-reference", "global_enum_reference",
      "Document path of the global enum this schema points at"⟩, .optText r.globalEnumReference),
  (⟨"x-cb-is-external-enum", "is_external_enum", ""⟩, .bool r.isExternalEnum),
  (⟨"x-cb-sdk-enum-api-name", "sdk_enum_api_name", ""⟩, .optText r.sdkEnumApiName),
  (⟨"x-cb-deprecated-enum-values", "deprecated_enum_values",
      "Comma-separated enum values kept only for compatibility"⟩, .texts r.deprecatedEnumValues),
  (⟨"x-cb-is-gen-separate", "is_gen_separate",
      "Enum is generated once in the shared enums module"⟩, .bool r.isGenSeparate),
  (⟨"x-cb-meta-model-name", "meta_model_name", ""⟩, .optText r.metaModelName),
  (⟨"x-cb-attribute-meta-comment", "attribute_meta_comment", ""⟩, .optText r.attributeMetaComment),
  (⟨"x-cb-attribute-pcv", "attribute_pcv", ""⟩, .optInt r.attributePcv),
  (⟨"x-cb-deprecation-message", "deprecation_message", ""⟩, .optText r.deprecationMessage),
  (⟨"x-cb-sort-order", "sort_order", ""⟩, .int r.sortOrder),
  (⟨"x-cb-hidden-from-client-sdk", "hidden_from_sdk", ""⟩, .bool r.hiddenFromSdk),
  (⟨"x-cb-internal", "is_internal", ""⟩, .bool r.isInternal),
  (⟨"x-cb-is-eap", "is_eap", ""⟩, .bool r.isEap),
  (⟨"x-cb-resource-id", "resource_id",
      "Marks a component schema as a top-level resource"⟩, .optText r.resourceId),
  (⟨"x-cb-resource-path-name", "resource_path_name", ""⟩, .optText r.resourcePathName),
  (⟨"x-cb-is-third-party-resource", "is_third_party_resource", ""⟩, .bool r.isThirdPartyResource),
  (⟨"x-cb-is-dependent-resource", "is_dependent_resource", ""⟩, .bool r.isDependentResource),
  (⟨"x-cb-sub-resource-name", "sub_resource_name", ""⟩, .optText r.subResourceName),
  (⟨"x-cb-sub-resource-parent-name", "sub_resource_parent_name",
      ""⟩, .optText r.subResourceParentName),
  (⟨"x-cb-product-catalog-version", "product_catalog_version", ""⟩,
    .optInt r.productCatalogVersion),
  (⟨"x-cb-is-custom-fields-supported", "is_custom_fields_supported",
      ""⟩, .bool r.isCustomFieldsSupported),
  (⟨"x-cb-module", "module", ""⟩, .optText r.module)]

/-- Reads the record off a node; the faults come in declaration order. -/
def read (es : Entries) : Reading SchemaExtensions := do
  let isSubResource ← Reading.field es "x-cb-is-sub-resource" false flag
  let isGlobalResourceReference ← Reading.field es "x-cb-is-global-resource-reference" false flag
  let isDependentAttribute ← Reading.field es "x-cb-is-dependent-attribute" false flag
  let isFilterParameter ← Reading.field es "x-cb-is-filter-parameter" false flag
  let isPaginationParameter ← Reading.field es "x-cb-is-pagination-parameter" false flag
  let isMultiValueAttribute ← Reading.field es "x-cb-is-multi-value-attribute" false flag
  let isCompositeArrayRequestBody ←
    Reading.field es "x-cb-is-composite-array-request-body" false flag
  let isPresenceOperatorSupported ←
    Reading.field es "x-cb-is-presence-operator-supported" false flag
  let sdkFilterName ← Reading.field es "x-cb-sdk-filter-name" none (opt text)
  let parameterBlankOption ← Reading.field es "x-cb-parameter-blank-option" none (opt text)
  let isMoneyColumn ← Reading.field es "x-cb-is-money-column" false flag
  let isLongMoneyColumn ← Reading.field es "x-cb-is-long-money-column" false flag
  let isApiColumn ← Reading.field es "x-cb-is-api-column" false flag
  let isForeignColumn ← Reading.field es "x-cb-is-foreign-column" false flag
  let isGlobalEnum ← Reading.field es "x-cb-is-global-enum" false flag
  let globalEnumReference ← Reading.field es "x-cb-global-enum-reference" none (opt text)
  let isExternalEnum ← Reading.field es "x-cb-is-external-enum" false flag
  let sdkEnumApiName ← Reading.field es "x-cb-sdk-enum-api-name" none (opt text)
  let deprecatedEnumValues ← Reading.field es "x-cb-deprecated-enum-values" [] markedValues
  let isGenSeparate ← Reading.field es "x-cb-is-gen-separate" false flag
  let metaModelName ← Reading.field es "x-cb-meta-model-name" none (opt text)
  let attributeMetaComment ← Reading.field es "x-cb-attribute-meta-comment" none (opt text)
  let attributePcv ← Reading.field es "x-cb-attribute-pcv" none (opt int)
  let deprecationMessage ← Reading.field es "x-cb-deprecation-message" none (opt text)
  let sortOrder ← Reading.field es "x-cb-sort-order" (-1) int
  let hiddenFromSdk ← Reading.field es "x-cb-hidden-from-client-sdk" false flag
  let isInternal ← Reading.field es "x-cb-internal" false flag
  let isEap ← Reading.field es "x-cb-is-eap" false flag
  let resourceId ← Reading.field es "x-cb-resource-id" none (opt text)
  let resourcePathName ← Reading.field es "x-cb-resource-path-name" none (opt text)
  let isThirdPartyResource ← Reading.field es "x-cb-is-third-party-resource" false flag
  let isDependentResource ← Reading.field es "x-cb-is-dependent-resource" false flag
  let subResourceName ← Reading.field es "x-cb-sub-resource-name" none (opt text)
  let subResourceParentName ← Reading.field es "x-cb-sub-resource-parent-name" none (opt text)
  let productCatalogVersion ← Reading.field es "x-cb-product-catalog-version" none (opt int)
  let isCustomFieldsSupported ← Reading.field es "x-cb-is-custom-fields-supported" false flag
  let module ← Reading.field es "x-cb-module" none (opt text)
  return {
    isSubResource, isGlobalResourceReference, isDependentAttribute, isFilterParameter,
    isPaginationParameter, isMultiValueAttribute, isCompositeArrayRequestBody,
    isPresenceOperatorSupported, sdkFilterName, parameterBlankOption, isMoneyColumn,
    isLongMoneyColumn, isApiColumn, isForeignColumn, isGlobalEnum, globalEnumReference,
    isExternalEnum, sdkEnumApiName, deprecatedEnumValues, isGenSeparate, metaModelName,
    attributeMetaComment, attributePcv, deprecationMessage, sortOrder, hiddenFromSdk, isInternal,
    isEap, resourceId, resourcePathName, isThirdPartyResource, isDependentResource,
    subResourceName, subResourceParentName, productCatalogVersion, isCustomFieldsSupported,
    module,
    declared := declaredFields (listing {}) es }

end SchemaExtensions

end SdkModel
