import SdkModel.Proofs.Action.Build
import SdkModel.Proofs.Reference.Inline
import SdkModel.Proofs.Schema.Build

/-!
# Documents of two resources

A document with the resources `Trip` and `Guide`, in either order. Trips can be listed, and created
by an operation that is hidden; they have any properties that are built. The document is built with
and without QA mode when it holds no references (`build_tripDocument`).
-/

namespace SdkModel

open Logged (Quiet Writes quiet_iff quiet_bind_iff)

variable {ps : Entries} {properties : List (String × Schema)} {guideFirst qa : Bool}

/-! ## Component schemas -/

/-- The node of trips with the property map `ps`. -/
def tripEntries (ps : Entries) : Entries :=
  [(.text "x-cb-resource-id", .text "trip"), (.text "properties", .object ps)]

def guideEntries : Entries := [(.text "x-cb-resource-id", .text "guide")]

def tripSchema (properties : List (String × Schema)) : Schema where
  properties := some (Assoc.ofPairs properties)
  extensions := { resourceId := some "trip", declared := ["resource_id"] }

def guideSchema : Schema where
  extensions := { resourceId := some "guide", declared := ["resource_id"] }

/-- The component schemas in one of their two orders. -/
def tripComponents (guideFirst : Bool) (ps : Entries) : Entries :=
  let trip := (Key.text "Trip", Value.object (tripEntries ps))
  let guide := (Key.text "Guide", Value.object guideEntries)
  if guideFirst then [guide, trip] else [trip, guide]

def tripSchemas (guideFirst : Bool) (properties : List (String × Schema)) :
    List (String × Schema) :=
  let trip := ("Trip", tripSchema properties)
  let guide := ("Guide", guideSchema)
  if guideFirst then [guide, trip] else [trip, guide]

theorem quiet_tripEntries {place : String}
    (h : Quiet (Schema.ofProperties {} 0 place ps) properties) :
    Quiet (Schema.ofEntries {} 0 place (tripEntries ps)) (tripSchema properties) :=
  Schema.quiet_object (by decide) rfl h rfl

theorem quiet_tripComponents
    (h : ∀ place, Quiet (Schema.ofProperties {} 0 place ps) properties) :
    Quiet (Spec.schemasOf {} (tripComponents guideFirst ps))
      (tripSchemas guideFirst properties) := by
  cases guideFirst with
  | false =>
    exact quiet_bind_iff.2 ⟨_, quiet_tripEntries (h _), quiet_bind_iff.2 ⟨_,
      quiet_bind_iff.2 ⟨_, Schema.quiet_leaf (by decide) rfl rfl, rfl⟩, rfl⟩⟩
  | true =>
    exact quiet_bind_iff.2 ⟨_, Schema.quiet_leaf (by decide) rfl rfl, quiet_bind_iff.2 ⟨_,
      quiet_bind_iff.2 ⟨_, quiet_tripEntries (h _), rfl⟩, rfl⟩⟩

/-! ## Operations -/

def listEntries : Entries :=
  [(.text "x-cb-operation-method-name", .text "list"), (.text "x-cb-resource-id", .text "trip")]

def createEntries : Entries :=
  [(.text "x-cb-operation-method-name", .text "create"), (.text "x-cb-resource-id", .text "trip"),
    (.text "x-cb-hidden-from-client-sdk", .bool true)]

def tripPaths : Entries :=
  [(.text "/trips", .object
    [(.text "get", .object listEntries), (.text "post", .object createEntries)])]

def listExtensions : OperationExtensions where
  methodName := some "list"
  resourceId := some "trip"
  declared := ["method_name", "resource_id"]

def createExtensions : OperationExtensions where
  methodName := some "create"
  resourceId := some "trip"
  hiddenFromSdk := true
  declared := ["method_name", "resource_id", "hidden_from_sdk"]

/-- An action on trips that has neither inputs nor a payload. -/
def tripAction (qa : Bool) (method : HttpMethod) (name : String)
    (extensions : OperationExtensions) : Action where
  id := .null
  method := method
  url := "/trips"
  name := name
  description := .text ""
  deprecated := false
  qa := qa
  extensions := extensions
  body := none
  success := none
  parameters := []

def listTrips (qa : Bool) : Action := tripAction qa .get "list" listExtensions

def createTrip (qa : Bool) : Action := tripAction qa .post "create" createExtensions

theorem quiet_listEntries (qa : Bool) :
    Quiet (Action.ofOperation { qa } .get "/trips" listEntries) (listTrips qa) :=
  Action.quiet_ofOperation (by decide) (by decide) rfl rfl rfl

theorem quiet_createEntries (qa : Bool) :
    Quiet (Action.ofOperation { qa } .post "/trips" createEntries) (createTrip qa) :=
  Action.quiet_ofOperation (by decide) (by decide) rfl rfl rfl

/-! ## Documents -/

def documentOf (paths schemas : Entries) : Entries :=
  [(.text "openapi", .text "3.0.0"), (.text "paths", .object paths),
    (.text "components", .object [(.text "schemas", .object schemas)])]

section

variable {paths schemas : Entries} {nodes : List (String × Schema)}
  {actions : List (String × List Action)}

/-- A document of component schemas and paths is built from its nodes and its actions. -/
theorem writes_documentOf {log log' : Log}
    (hfree : (Value.object (documentOf paths schemas)).references = [])
    (hnodes : Writes (Spec.schemasOf {} schemas) log nodes)
    (hactions : Writes (Spec.buildActions { qa } (documentOf paths schemas)) log' actions) :
    Writes (Spec.build { qaMode := qa } (documentOf paths schemas)) (log ++ log') {
      document := documentOf paths schemas, config := { qaMode := qa }, version := {}
      schemas := Assoc.ofPairs nodes, actions } := by
  have hformat : Document.formatVersion (documentOf paths schemas) = .ok "3.0.0" :=
    Document.formatVersion_of_get rfl rfl rfl (by decide)
  have hresolve : Quiet (Reference.resolve (.object (documentOf paths schemas)))
      (.object (documentOf paths schemas)) := Reference.quiet_inlineValue_of_references hfree
  have hversion : Quiet (Version.resolve (Entries.get (documentOf paths schemas) "info") false)
      {} := rfl
  have hschemas : Writes (Spec.buildSchemas {} (documentOf paths schemas)) (log ++ [])
      (Assoc.ofPairs nodes) := by
    have hcomponents : Quiet (Logged.ofExcept (Value.optionalEntries (.object schemas)) :
        Build Entries) schemas := by
      cases schemas <;> rfl
    exact Quiet.bind rfl (hcomponents.bind (hnodes.bind rfl))
  rw [List.append_nil] at hschemas
  have hspec : Writes (Spec.build { qaMode := qa } (documentOf paths schemas)) ([] ++ (log ++ log'))
      _ := Spec.writes_build hformat hresolve hversion hschemas hactions
  exact hspec

theorem build_documentOf (hfree : (Value.object (documentOf paths schemas)).references = [])
    (hnodes : Quiet (Spec.schemasOf {} schemas) nodes)
    (hactions : Quiet (Spec.buildActions { qa } (documentOf paths schemas)) actions) :
    (Spec.build { qaMode := qa } (documentOf paths schemas)).outcome = .ok {
      document := documentOf paths schemas, config := { qaMode := qa }, version := {}
      schemas := Assoc.ofPairs nodes, actions } := by
  have hspec := writes_documentOf hfree hnodes hactions
  exact (quiet_iff.1 hspec).2

end

def tripDocument (guideFirst : Bool) (ps : Entries) : Entries :=
  documentOf tripPaths (tripComponents guideFirst ps)

def tripSpec (guideFirst qa : Bool) (ps : Entries) (properties : List (String × Schema)) :
    Spec where
  document := tripDocument guideFirst ps
  config := { qaMode := qa }
  version := {}
  schemas := tripSchemas guideFirst properties
  actions := [("trip", [listTrips qa, createTrip qa])]

theorem build_tripDocument (hfree : (Value.object (tripDocument guideFirst ps)).references = [])
    (h : ∀ place, Quiet (Schema.ofProperties {} 0 place ps) properties) :
    (Spec.build { qaMode := qa } (tripDocument guideFirst ps)).outcome =
      .ok (tripSpec guideFirst qa ps properties) := by
  have hactions : Quiet (Spec.buildActions { qa } (tripDocument guideFirst ps))
      [("trip", [listTrips qa, createTrip qa])] :=
    quiet_bind_iff.2 ⟨tripPaths, rfl, quiet_bind_iff.2 ⟨[("trip", listTrips qa),
      ("trip", createTrip qa)], quiet_bind_iff.2 ⟨_, quiet_listEntries qa, quiet_bind_iff.2 ⟨_,
        quiet_bind_iff.2 ⟨_, quiet_createEntries qa, rfl⟩, rfl⟩⟩, rfl⟩⟩
  have hnamed : Assoc.ofPairs (tripSchemas guideFirst properties) =
      tripSchemas guideFirst properties := by
    cases guideFirst <;> rfl
  have hbuild := build_documentOf hfree (quiet_tripComponents h) hactions
  rw [hnamed] at hbuild
  exact hbuild

/-! ## Trips between places -/

def homeEntries : Entries :=
  [(.text "x-cb-is-sub-resource", .bool true), (.text "x-cb-sub-resource-name", .text "Place")]

/-- A place that is hidden. -/
def pastEntries : Entries := (.text "x-cb-hidden-from-client-sdk", .bool true) :: homeEntries

def placesEntries : Entries :=
  [(.text "past", .object pastEntries), (.text "home", .object homeEntries)]

def homeSchema : Schema where
  extensions := {
    isSubResource := true, subResourceName := some "Place"
    declared := ["is_sub_resource", "sub_resource_name"] }

def pastSchema : Schema where
  extensions := {
    isSubResource := true, subResourceName := some "Place", hiddenFromSdk := true
    declared := ["is_sub_resource", "hidden_from_sdk", "sub_resource_name"] }

def places : List (String × Schema) := [("past", pastSchema), ("home", homeSchema)]

theorem quiet_placesEntries (place : String) :
    Quiet (Schema.ofProperties {} 0 place placesEntries) places :=
  Schema.quiet_ofProperties_cons (Schema.quiet_leaf (by decide) rfl rfl)
    (Schema.quiet_ofProperties_cons (Schema.quiet_leaf (by decide) rfl rfl) Schema.quiet_ofProperties_nil)

/-- The document is built with and without QA mode. -/
theorem build_placesDocument (qa : Bool) :
    (Spec.build { qaMode := qa } (tripDocument false placesEntries)).outcome =
      .ok (tripSpec false qa placesEntries places) :=
  build_tripDocument rfl quiet_placesEntries

end SdkModel
