import SdkModel.Proofs.Reference.Inline
import SdkModel.Proofs.Schema.Build
import SdkModel.Typed.Backend

/-!
# Documents of one resource

A document whose only component schema is a resource `Thing` with one property. It is built into
that resource when it holds no references and the node of the property is built.
-/

namespace SdkModel

open Logged (Quiet quiet_iff)

/-- The node of a resource with an id and one property. -/
def loneEntries (id name : String) (node : Entries) : Entries :=
  [(.text "type", .text "object"), (.text "x-cb-resource-id", .text id),
    (.text "properties", .object [(.text name, .object node)])]

def loneDocument (id name : String) (node : Entries) : Entries :=
  [(.text "openapi", .text "3.0.0"), (.text "components", .object
    [(.text "schemas", .object [(.text "Thing", .object (loneEntries id name node))])])]

def loneSchema (id name : String) (property : Schema) : Schema where
  type := some "object"
  properties := some [(name, property)]
  extensions := { resourceId := some id, declared := ["resource_id"] }

def loneSpec (id name : String) (node : Entries) (property : Schema) : Spec where
  document := loneDocument id name node
  config := {}
  version := {}
  schemas := [("Thing", loneSchema id name property)]
  actions := []

/-- The resource of the document. -/
def loneResource (id name : String) (property : Schema) : Resource where
  name := "Thing"
  schema := loneSchema id name property
  id := some id
  givenOrder := none
  qa := false
  actions := []

variable {id name : String} {node : Entries} {property : Schema}

theorem quiet_loneEntries (h : ∀ place, Quiet (Schema.ofEntries {} 1 place node) property)
    (place : String) :
    Quiet (Schema.ofEntries {} 0 place (loneEntries id name node))
      (loneSchema id name property) :=
  Schema.quiet_object (by decide) rfl
    (Schema.quiet_ofProperties_cons (h _) Schema.quiet_ofProperties_nil) rfl

theorem build_loneDocument (hfree : (Value.object (loneDocument id name node)).references = [])
    (h : ∀ place, Quiet (Schema.ofEntries {} 1 place node) property) :
    (Spec.build {} (loneDocument id name node)).outcome = .ok (loneSpec id name node property) := by
  have hformat : Document.formatVersion (loneDocument id name node) = .ok "3.0.0" :=
    Document.formatVersion_of_get rfl rfl rfl (by decide)
  have hresolve : Quiet (Reference.resolve (.object (loneDocument id name node)))
      (.object (loneDocument id name node)) :=
    Reference.quiet_inlineValue_of_references hfree
  have hversion : Quiet (Version.resolve (Entries.get (loneDocument id name node) "info") false)
      {} := rfl
  have hactions : Quiet (Spec.buildActions (Spec.rulesOf {}) (loneDocument id name node)) [] := rfl
  have hschemas : Quiet (Spec.buildSchemas {} (loneDocument id name node))
      [("Thing", loneSchema id name property)] :=
    Spec.quiet_buildSchemas rfl (quiet_loneEntries h _)
  have hspec : Quiet (Spec.build {} (loneDocument id name node)) (loneSpec id name node property) :=
    Spec.quiet_build hformat hresolve hversion hschemas hactions
  exact (quiet_iff.1 hspec).2

/-- The resource is the only one that is shaped, unless an override hides it. -/
theorem resources_loneSpec
    (h : Typed.backend.isOverridden {} (loneResource id name property) = false) :
    Typed.backend.resources {} (loneSpec id name node property) =
      [loneResource id name property] := by
  have hresources : (loneSpec id name node property).resources =
      [loneResource id name property] := by cbv
  rw [Backend.resources, hresources, List.filter_singleton, h]
  exact List.mergeSort_singleton _

end SdkModel
