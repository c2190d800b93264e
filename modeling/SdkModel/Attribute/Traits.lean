import SdkModel.Enum
import SdkModel.Schema.Nesting

/-!
# Attribute traits

Everything that is asked of an attribute is answered here once, from its schema. An array schema
takes over from its items what it does not say itself; a schema of another kind never looks at
items. `AttributeTraits.kindOf` sums the traits up as one kind: of several that hold the first in
the order of its definition counts.
-/

namespace SdkModel

/-- The shape that an attribute takes in generated code. -/
inductive AttributeKind where
  | sort
  | filter
  | dependentResource
  | listOfSubResource
  | subResource
  | globalEnum
  | listOfEnum
  | enum
  | openMap
  | listOfSimpleType
  | object
  | scalar
deriving DecidableEq, Repr

def AttributeKind.word : AttributeKind → String
  | .sort => "sort"
  | .filter => "filter"
  | .dependentResource => "dependent_resource"
  | .listOfSubResource => "list_of_sub_resource"
  | .subResource => "sub_resource"
  | .globalEnum => "global_enum"
  | .listOfEnum => "list_of_enum"
  | .enum => "enum"
  | .openMap => "open_map"
  | .listOfSimpleType => "list_of_simple_type"
  | .object => "object"
  | .scalar => "scalar"

/-- The attribute that always is a sort parameter. -/
def sortAttribute : String := "sort_by"

def defaultDeprecationMessage : String := "Please refer API docs to use other attributes"

/-- The classification of one attribute. -/
structure AttributeTraits where
  kind : AttributeKind
  isEnum : Bool
  isGlobalEnum : Bool
  isExternalEnum : Bool
  isGenSeparate : Bool
  hasGlobalEnumReference : Bool
  enumApiName : Option String
  isSubResource : Bool
  isSubResourceSchema : Bool
  isListSubResource : Bool
  isGlobalResourceReference : Bool
  isDependentAttribute : Bool
  subResourceName : Option String
  subResourceParentName : Option String
  metaModelName : Option String
  isList : Bool
  isListOfEnum : Bool
  isListOfSimpleType : Bool
  isOpenMap : Bool
  isContentObject : Bool
  hasSubAttributes : Bool
  isFilter : Bool
  filterType : Option String
  isSort : Bool
  isMultiValue : Bool
  isPresenceOperatorSupported : Bool
  isPagination : Bool
  isCompositeArrayBody : Bool
  paramBlankOption : Option String
  isMoneyColumn : Bool
  isLongMoneyColumn : Bool
  isApiColumn : Bool
  isForeignColumn : Bool
  isPcv1 : Bool
  isMetaCommentRequired : Bool
  isDeprecated : Bool
  deprecationMessage : String
  isHidden : Bool
  isHiddenParameter : Bool
  isInternal : Bool
  isEap : Bool
  sortOrder : Int
deriving DecidableEq, Repr

/-- The record as a value. -/
def AttributeTraits.toValue (t : AttributeTraits) : Value := .record [
  ("kind", .text t.kind.word), ("is_enum", .bool t.isEnum),
  ("is_global_enum", .bool t.isGlobalEnum), ("is_external_enum", .bool t.isExternalEnum),
  ("is_gen_separate", .bool t.isGenSeparate),
  ("has_global_enum_reference", .bool t.hasGlobalEnumReference),
  ("enum_api_name", .optText t.enumApiName), ("is_sub_resource", .bool t.isSubResource),
  ("is_sub_resource_schema", .bool t.isSubResourceSchema),
  ("is_list_sub_resource", .bool t.isListSubResource),
  ("is_global_resource_reference", .bool t.isGlobalResourceReference),
  ("is_dependent_attribute", .bool t.isDependentAttribute),
  ("sub_resource_name", .optText t.subResourceName),
  ("sub_resource_parent_name", .optText t.subResourceParentName),
  ("meta_model_name", .optText t.metaModelName), ("is_list", .bool t.isList),
  ("is_list_of_enum", .bool t.isListOfEnum),
  ("is_list_of_simple_type", .bool t.isListOfSimpleType), ("is_open_map", .bool t.isOpenMap),
  ("is_content_object", .bool t.isContentObject),
  ("has_sub_attributes", .bool t.hasSubAttributes), ("is_filter", .bool t.isFilter),
  ("filter_type", .optText t.filterType), ("is_sort", .bool t.isSort),
  ("is_multi_value", .bool t.isMultiValue),
  ("is_presence_operator_supported", .bool t.isPresenceOperatorSupported),
  ("is_pagination", .bool t.isPagination),
  ("is_composite_array_body", .bool t.isCompositeArrayBody),
  ("param_blank_option", .optText t.paramBlankOption), ("is_money_column", .bool t.isMoneyColumn),
  ("is_long_money_column", .bool t.isLongMoneyColumn), ("is_api_column", .bool t.isApiColumn),
  ("is_foreign_column", .bool t.isForeignColumn), ("is_pcv1", .bool t.isPcv1),
  ("is_meta_comment_required", .bool t.isMetaCommentRequired),
  ("is_deprecated", .bool t.isDeprecated), ("deprecation_message", .text t.deprecationMessage),
  ("is_hidden", .bool t.isHidden), ("is_hidden_parameter", .bool t.isHiddenParameter),
  ("is_internal", .bool t.isInternal), ("is_eap", .bool t.isEap),
  ("sort_order", .int t.sortOrder)]

namespace Schema

/-- The extensions of the items of an array. -/
def itemExtensions? (s : Schema) : Option SchemaExtensions := s.arrayItems?.map (·.extensions)

/-- A flag of the schema or of the items of an array. -/
def hasFlag (s : Schema) (flag : SchemaExtensions → Bool) : Bool :=
  flag s.extensions || s.itemExtensions?.any flag

/-- A name given by the schema, or else by the items of an array. -/
def ownOrItemName? (s : Schema) (name : SchemaExtensions → Option String) : Option String :=
  (name s.extensions).or (s.itemExtensions?.bind name)

/-- The sort order of the schema, or of the items of an array where it has none. -/
def sortOrder (s : Schema) : Int :=
  if s.extensions.sortOrder = -1 then
    (s.itemExtensions?.map (·.sortOrder)).getD s.extensions.sortOrder
  else s.extensions.sortOrder

def isDeprecatedHere (s : Schema) : Bool := s.deprecated.getD false

/-- An array of sub-resources with properties. -/
def isListOfSubResources (s : Schema) : Bool :=
  s.arrayItems?.any fun i => i.properties.isSome && i.extensions.isSubResource

/-- A sub-resource that is more than a plain value or a list of plain values. -/
def isStructuredSubResource (s : Schema) : Bool := s.hasFlag (·.isSubResource) && !s.isLeaf

/-- A declared array whose items have a type. -/
def isTypedList (s : Schema) : Bool :=
  s.type = some "array" && s.arrayItems?.any (·.type.isSome)

def isListOfEnum (s : Schema) : Bool :=
  s.isTypedList && !s.isStructuredSubResource && s.arrayItems?.any (·.enum.isSome)

def isListOfSimpleType (s : Schema) : Bool :=
  s.isTypedList && !s.isStructuredSubResource &&
    s.extensions.parameterBlankOption ≠ some blankNotAllowed && !s.isListOfEnum

/-- Values are declared by the schema, by the items for an array. -/
def isEnum (s : Schema) : Bool := s.itemsOrSelf.hasEnum

def isGlobalEnum (s : Schema) : Bool := s.itemsOrSelf.extensions.isGlobalEnum

/-- The kind of an attribute. -/
def kindOf (name : String) (s : Schema) (qa : Bool) : AttributeKind :=
  if name = sortAttribute then .sort
  else if s.isFilter qa then .filter
  else if s.isSubResource && s.isGlobalReference then .dependentResource
  else if s.isListOfSubResources then .listOfSubResource
  else if s.isStructuredSubResource then .subResource
  else if s.isEnum && s.isGlobalEnum then .globalEnum
  else if s.isListOfEnum then .listOfEnum
  else if s.isEnum then .enum
  else if s.isOpenMap then .openMap
  else if s.isListOfSimpleType then .listOfSimpleType
  else if s.isObject || s.properties.isSome then .object
  else .scalar

/-- The classification of the attribute `name` with schema `s`. -/
def classify (name : String) (s : Schema) (qa : Bool) : AttributeTraits :=
  let ext := s.extensions
  { kind := s.kindOf name qa
    isEnum := s.isEnum
    isGlobalEnum := s.isGlobalEnum
    isExternalEnum := s.hasFlag (·.isExternalEnum)
    isGenSeparate := s.itemsOrSelf.extensions.isGenSeparate
    hasGlobalEnumReference := ext.globalEnumReference.isSome
    enumApiName := ext.sdkEnumApiName
    isSubResource := s.hasFlag (·.isSubResource)
    isSubResourceSchema := s.isSubResource
    isListSubResource := s.isListOfSubResources
    isGlobalResourceReference := s.isGlobalReference
    isDependentAttribute := ext.isDependentAttribute
    subResourceName := s.ownOrItemName? (·.subResourceName)
    subResourceParentName := ext.subResourceParentName
    metaModelName := s.ownOrItemName? (·.metaModelName)
    isList := s.isTypedList
    isListOfEnum := s.isListOfEnum
    isListOfSimpleType := s.isListOfSimpleType
    isOpenMap := s.isOpenMap
    isContentObject := s.isObject && s.properties.isNone && name = "content"
    hasSubAttributes := s.properties.isSome
    isFilter := s.isFilter qa
    filterType := ext.sdkFilterName
    isSort := name = sortAttribute
    isMultiValue := ext.isMultiValueAttribute
    isPresenceOperatorSupported := ext.isPresenceOperatorSupported
    isPagination := ext.isPaginationParameter
    isCompositeArrayBody := ext.isCompositeArrayRequestBody
    paramBlankOption := ext.parameterBlankOption
    isMoneyColumn := ext.isMoneyColumn
    isLongMoneyColumn := ext.isLongMoneyColumn
    isApiColumn := ext.isApiColumn
    isForeignColumn := ext.isForeignColumn
    isPcv1 := ext.attributePcv = some 1
    isMetaCommentRequired := ext.attributeMetaComment = some "required"
    isDeprecated := s.isDeprecatedHere || s.arrayItems?.any (·.isDeprecatedHere)
    deprecationMessage :=
      (ext.deprecationMessage.filter (· ≠ "")).getD defaultDeprecationMessage
    isHidden := !s.isVisible qa
    isHiddenParameter := s.arrayItems?.any (·.isHidden qa)
    isInternal := ext.isInternal
    isEap := ext.isEap
    sortOrder := s.sortOrder }

end Schema

end SdkModel
