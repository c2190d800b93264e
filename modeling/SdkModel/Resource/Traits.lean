import SdkModel.Schema.Nesting

/-!
# Resource traits

The classification of a schema that backs a resource. Third-party resources count as such only
outside QA mode.
-/

namespace SdkModel

/-- The classification of a schema that backs a resource. -/
structure ResourceTraits where
  isHidden : Bool
  isThirdParty : Bool
  isDependentResource : Bool
  isCustomFieldsSupported : Bool
  isAdditionalPropertiesSupported : Bool
  productCatalogVersion : Option Int
  pathName : Option String
  sortOrder : Int
deriving DecidableEq, Repr

/-- The record as a value. -/
def ResourceTraits.toValue (t : ResourceTraits) : Value := .record [
  ("is_hidden", .bool t.isHidden), ("is_third_party", .bool t.isThirdParty),
  ("is_dependent_resource", .bool t.isDependentResource),
  ("is_custom_fields_supported", .bool t.isCustomFieldsSupported),
  ("is_additional_properties_supported", .bool t.isAdditionalPropertiesSupported),
  ("product_catalog_version", .optInt t.productCatalogVersion),
  ("path_name", .optText t.pathName), ("sort_order", .int t.sortOrder)]

namespace Schema

def isThirdParty (s : Schema) (qa : Bool) : Bool := s.extensions.isThirdPartyResource && !qa

def classifyResource (s : Schema) (qa : Bool) : ResourceTraits :=
  { isHidden := s.isHidden qa
    isThirdParty := s.isThirdParty qa
    isDependentResource := s.extensions.isDependentResource
    isCustomFieldsSupported := s.extensions.isCustomFieldsSupported
    isAdditionalPropertiesSupported := s.isOpenMap
    productCatalogVersion := s.extensions.productCatalogVersion
    pathName := s.extensions.resourcePathName
    sortOrder := s.extensions.sortOrder }

end Schema

end SdkModel
