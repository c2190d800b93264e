import SdkModel.Extension.Decode

/-!
# Versions

A document is of one API version and of one generation of the product catalog, by the tags of its
info block. Tags that say nothing, or nothing that is recognised, stand for the second of both.
-/

namespace SdkModel

inductive ApiVersion where
  | v1
  | v2
deriving DecidableEq, Repr

def ApiVersion.number : ApiVersion → Int
  | .v1 => 1
  | .v2 => 2

/-- A generation of the product catalog. -/
inductive CatalogVersion where
  | pc1
  | pc2
deriving DecidableEq, Repr

namespace CatalogVersion

def number : CatalogVersion → Int
  | pc1 => 1
  | pc2 => 2

/-- The generation that a tag names: 1 is the first, any other number the current one. -/
def ofTag (tag : Option Int) : Option CatalogVersion :=
  tag.map fun n => if n = 1 then pc1 else pc2

end CatalogVersion

structure Version where
  api : ApiVersion := .v2
  catalog : CatalogVersion := .pc2
deriving DecidableEq, Repr

namespace Version

/-- The version that decoded tags name. The first API version has the first catalog only. -/
def ofTags (tags : InfoExtensions) : Version :=
  if tags.apiVersion = some 1 then ⟨.v1, .pc1⟩
  else if tags.apiVersion = some 2 ∧ tags.productCatalogVersion = some 1 then ⟨.v2, .pc1⟩
  else {}

def unrecognised : String := "Unrecognised version tags in #/info; using the default version"

/-- A failure that the tags of an info block may end in. -/
def isTagFailure : Failure → Bool
  | .unknownExtension .. | .invalidExtension .. => true
  | _ => false

/-- The version of a document by its info block. Unreadable tags are an error only in strict
decoding. -/
def resolve (info : Value) (strict : Bool) : Build Version := do
  if !info.isTelling then return {}
  let es ← info.requireEntries
  let tags := decode InfoExtensions es "#/info" strict
  match tags.outcome with
  | .ok record => ⟨tags.log, .ok (ofTags record)⟩
  | .error e =>
    if strict || !isTagFailure e then ⟨tags.log, .error e⟩
    else ⟨tags.log ++ [⟨.warning, unrecognised⟩], .ok {}⟩

def toValue (v : Version) : Value :=
  .record [("api_version", .int v.api.number), ("product_catalog_version", .int v.catalog.number)]

end Version

end SdkModel
