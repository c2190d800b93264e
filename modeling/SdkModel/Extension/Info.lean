import SdkModel.Extension.Field

/-!
# Info extensions

The version tags that the info block of a document carries.
-/

namespace SdkModel

open Coercion

/-- The version tags of a document. -/
structure InfoExtensions where
  apiVersion : Option Int := none
  productCatalogVersion : Option Int := none
  /-- The names of the fields whose key the node carries. -/
  declared : List String := []
deriving DecidableEq, Repr, Inhabited

namespace InfoExtensions

/-- Every field with the value it has in a record, in declaration order. -/
def listing (r : InfoExtensions) : List (ExtensionField × Value) := [
  (⟨"x-cb-api-version", "api_version", ""⟩, .optInt r.apiVersion),
  (⟨"x-cb-product-catalog-version", "product_catalog_version", ""⟩,
    .optInt r.productCatalogVersion)]

/-- Reads the record off a node; the faults come in declaration order. -/
def read (es : Entries) : Reading InfoExtensions := do
  let apiVersion ← Reading.field es "x-cb-api-version" none (opt int)
  let productCatalogVersion ← Reading.field es "x-cb-product-catalog-version" none (opt int)
  return {
    apiVersion, productCatalogVersion,
    declared := declaredFields (listing {}) es }

end InfoExtensions

end SdkModel
