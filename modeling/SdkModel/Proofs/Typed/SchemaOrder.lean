import Mathlib.Data.List.Perm.Basic
import SdkModel.Proofs.Spec.Owners
import SdkModel.Proofs.Spec.Redaction
import SdkModel.Proofs.Spec.TwoResources
import SdkModel.Typed.Backend

/-!
# The order of component schemas

A document names its component schemas, and the last entry of a name counts. Documents that differ
in the order of those schemas only are built into the same nodes in another order
(`Spec.sameParts_of_reordered`). All views are sorted by name, so the order is lost where no two
schemas carry one resource id (`Typed.shape_eq_of_reordered`): it is then of no account which
carrier of an id is the first.
-/

namespace SdkModel

open Logged (bind_ok_iff)

/-! ## Named lists -/

/-- The same names in the same order, with related values. -/
def Assoc.Rel {α β : Type} (R : String → α → β → Prop) : List (String × α) → List (String × β) →
    Prop :=
  List.Forall₂ fun p q => p.1 = q.1 ∧ R p.1 p.2 q.2

section Named

variable {α β : Type} {R : String → α → β → Prop} {xs : List (String × α)}
variable {ys : List (String × β)} {name : String} {a : α} {b : β}

theorem Assoc.Rel.put (h : Assoc.Rel R xs ys) (hab : R name a b) :
    Assoc.Rel R (Assoc.put xs name a) (Assoc.put ys name b) := by
  induction h with
  | nil => exact .cons ⟨rfl, hab⟩ .nil
  | @cons x y xs ys hxy hrest ih =>
    rw [Assoc.put, Assoc.put, ← hxy.1]
    split
    · exact .cons ⟨rfl, hab⟩ hrest
    · exact .cons hxy ih

theorem Assoc.Rel.ofPairs (h : Assoc.Rel R xs ys) :
    Assoc.Rel R (Assoc.ofPairs xs) (Assoc.ofPairs ys) := by
  have hfold (us : List (String × α)) (vs : List (String × β)) (huv : Assoc.Rel R us vs) :
      Assoc.Rel R (xs.foldl (fun us p => Assoc.put us p.1 p.2) us)
        (ys.foldl (fun vs p => Assoc.put vs p.1 p.2) vs) := by
    induction h generalizing us vs with
    | nil => exact huv
    | cons hxy _ ih =>
      rw [List.foldl_cons, List.foldl_cons, ← hxy.1]
      exact ih _ _ (huv.put hxy.2)
  exact hfold [] [] .nil

end Named

/-- A named list without repetitions is made of its own pairs. -/
theorem Assoc.ofPairs_eq_self {α : Type} {xs : List (String × α)} (h : (Assoc.names xs).Nodup) :
    Assoc.ofPairs xs = xs := by
  have hput (us : List (String × α)) (x : String × α) (hx : x.1 ∉ Assoc.names us) :
      Assoc.put us x.1 x.2 = us ++ [x] := by
    induction us with
    | nil => rfl
    | cons u us ih =>
      rw [Assoc.names, List.map_cons, List.mem_cons, not_or] at hx
      rw [Assoc.put, if_neg fun hu => hx.1 hu.symm, ih hx.2, List.cons_append]
  have hfold (us : List (String × α)) (hus : (Assoc.names (us ++ xs)).Nodup) :
      xs.foldl (fun us p => Assoc.put us p.1 p.2) us = us ++ xs := by
    induction xs generalizing us with
    | nil => exact (List.append_nil us).symm
    | cons x xs ih =>
      have hx : x.1 ∉ Assoc.names us := by
        rw [Assoc.names, List.map_append] at hus
        exact fun hmem => (List.disjoint_of_nodup_append hus) hmem List.mem_cons_self
      rw [List.append_cons] at hus
      rw [List.foldl_cons, hput us x hx, ih (List.nodup_cons.1 h).2 _ hus, ← List.append_cons]
  exact hfold [] h

/-! ## Component schemas -/

/-- The entries under `components.schemas`. -/
def schemaEntries (document : Entries) : Entries :=
  ((((document.get "components").entries?.getD []).get "schemas").entries?).getD []

/-- The objects of a list of entries with the names that their keys have as text. -/
def namedObjects (es : Entries) : List (String × Entries) :=
  es.filterMap fun e => e.2.entries?.map fun node => (e.1.display, node)

/-- The component schemas of a document by name. -/
def componentSchemas (document : Entries) : List (String × Entries) :=
  Assoc.ofPairs (namedObjects (schemaEntries document))

/-- The documents differ in the order of their component schemas only. -/
structure Reordered (document document' : Entries) : Prop where
  rest : ∀ name, name ≠ "components" → document.get name = document'.get name
  schemas : (componentSchemas document).Perm (componentSchemas document')

/-- A permutation of the component schemas, where no two of them have one name. -/
theorem reordered_of_perm {document document' : Entries}
    (hrest : ∀ name, name ≠ "components" → document.get name = document'.get name)
    (h : (schemaEntries document).Perm (schemaEntries document'))
    (hnames : (Assoc.names (namedObjects (schemaEntries document))).Nodup) :
    Reordered document document' := by
  have hobjects : (namedObjects (schemaEntries document)).Perm
      (namedObjects (schemaEntries document')) := h.filterMap _
  refine ⟨hrest, ?_⟩
  rw [componentSchemas, componentSchemas, Assoc.ofPairs_eq_self hnames,
    Assoc.ofPairs_eq_self ((hobjects.map _).nodup_iff.1 hnames)]
  exact hobjects

namespace Spec

variable {rules : SchemaRules} {config : GenerationConfig} {document document' es : Entries}
variable {spec spec' : Spec} {nodes : List (String × Schema)}

/-- The schema that the entries of a component of the given name are built into. -/
def IsNode (rules : SchemaRules) (name : String) (es : Entries) (s : Schema) : Prop :=
  (Schema.ofEntries rules 0 ("#/components/schemas/" ++ name) es).outcome = .ok s

theorem rel_of_schemasOf (h : (schemasOf rules es).outcome = .ok nodes) :
    Assoc.Rel (IsNode rules) (namedObjects es) nodes := by
  induction es generalizing nodes with
  | nil =>
    cases h
    exact .nil
  | cons e es ih =>
    obtain ⟨k, v⟩ := e
    cases v with
    | object fs =>
      obtain ⟨node, hnode, h⟩ := bind_ok_iff.1 h
      obtain ⟨others, hothers, h⟩ := bind_ok_iff.1 h
      cases h
      exact .cons ⟨rfl, hnode⟩ (ih hothers)
    | _ => exact ih h

/-- The component schemas of a document whose references are inlined are built one by one. -/
theorem rel_of_ofResolved (h : (ofResolved config document).outcome = .ok spec) :
    Assoc.Rel (IsNode (rulesOf config).schemas) (componentSchemas document) spec.schemas := by
  obtain ⟨_, -, h⟩ := bind_ok_iff.1 h
  obtain ⟨_, hschemas, h⟩ := bind_ok_iff.1 h
  obtain ⟨_, -, h⟩ := bind_ok_iff.1 h
  cases h
  obtain ⟨components, hcomponents, hschemas⟩ := bind_ok_iff.1 hschemas
  obtain ⟨named, hnamed, hschemas⟩ := bind_ok_iff.1 hschemas
  obtain ⟨nodes, hnodes, hschemas⟩ := bind_ok_iff.1 hschemas
  cases hschemas
  have hentries : named = schemaEntries document := by
    rw [schemaEntries, ← Value.optionalEntries_ok hcomponents]
    exact Value.optionalEntries_ok hnamed
  rw [componentSchemas, ← hentries]
  exact (rel_of_schemasOf hnodes).ofPairs

/-- Without references, the component schemas are those of the document as it stands. -/
theorem rel_of_build (hfree : (Value.object document).references = [])
    (h : (build config document).outcome = .ok spec) :
    Assoc.Rel (IsNode (rulesOf config).schemas) (componentSchemas document) spec.schemas :=
  rel_of_ofResolved (ofResolved_of_build hfree h)

/-- Without references, the operations are those of the document as it stands. -/
theorem actions_of_build (hfree : (Value.object document).references = [])
    (h : (build config document).outcome = .ok spec) :
    (buildActions (rulesOf config) document).outcome = .ok spec.actions := by
  obtain ⟨_, -, h⟩ := bind_ok_iff.1 (ofResolved_of_build hfree h)
  obtain ⟨_, -, h⟩ := bind_ok_iff.1 h
  obtain ⟨_, hactions, h⟩ := bind_ok_iff.1 h
  cases h
  exact hactions

/-- The specs have the same schemas in another order, and the same actions and settings. -/
structure SameParts (spec spec' : Spec) : Prop where
  schemas : spec.schemas.Perm spec'.schemas
  actions : spec.actions = spec'.actions
  config : spec.config = spec'.config

/-- **Documents that differ in the order of their component schemas have the same parts.** -/
theorem sameParts_of_reordered (hfree : (Value.object document).references = [])
    (hfree' : (Value.object document').references = []) (h : Reordered document document')
    (hs : (build config document).outcome = .ok spec)
    (ht : (build config document').outcome = .ok spec') : spec.SameParts spec' := by
  refine ⟨?_, ?_, (config_of_build hs).trans (config_of_build ht).symm⟩
  · have hunique : Relator.RightUnique fun (p : String × Entries) (q : String × Schema) =>
        p.1 = q.1 ∧ IsNode (rulesOf config).schemas p.1 p.2 q.2 := by
      rintro p ⟨_, q⟩ ⟨_, r⟩ ⟨rfl, hq⟩ ⟨rfl, hr⟩
      cases hq.symm.trans hr
      rfl
    exact List.rel_perm_imp hunique (rel_of_build hfree hs) (rel_of_build hfree' ht) h.schemas
  · have hactions := actions_of_build hfree hs
    rw [buildActions, h.rest "paths" (by decide)] at hactions
    exact Except.ok.inj (hactions.symm.trans (actions_of_build hfree' ht))

/-! ## Views -/

/-- No resource id is carried by two component schemas. -/
def CarriesIdsOnce (spec : Spec) : Prop := (spec.carriers.map (·.1)).Nodup

theorem SameParts.resourceOf_eq (h : spec.SameParts spec') :
    spec.resourceOf = spec'.resourceOf := by
  funext name schema
  rw [resourceOf, resourceOf, qa, qa, actionsUnder, actionsUnder, h.actions, h.config]

/-- All carriers are kept when no two carry one id. -/
theorem ownedResources_of_carriesIdsOnce (h : spec.CarriesIdsOnce) :
    spec.ownedResources = spec.carriers.map fun c => spec.resourceOf c.2.1 c.2.2 := by
  rw [ownedResources, firstCarriers_eq_firstOf, List.map_nil,
    firstOf_eq_self h fun _ _ => List.not_mem_nil]

theorem SameParts.ownedResources_perm (h : spec.SameParts spec') (hids : spec.CarriesIdsOnce) :
    spec.ownedResources.Perm spec'.ownedResources := by
  have hcarriers : spec.carriers.Perm spec'.carriers := h.schemas.filterMap _
  have hids' : spec'.CarriesIdsOnce := (hcarriers.map _).nodup_iff.1 hids
  rw [ownedResources_of_carriesIdsOnce hids, ownedResources_of_carriesIdsOnce hids',
    h.resourceOf_eq]
  exact hcarriers.map _

theorem SameParts.resources_eq (h : spec.SameParts spec')
    (hnames : (Assoc.names spec.schemas).Nodup) (hids : spec.CarriesIdsOnce) :
    spec.resources = spec'.resources := by
  have hkept := (h.ownedResources_perm hids).filter fun r => !r.isThirdParty
  have hnodup := (nodup_names_ownedResources hnames).sublist
    ((List.filter_sublist (p := fun r => !r.isThirdParty)).map _)
  rw [resources, resources, allResources, allResources, sortByName_eq_of_perm hkept hnodup]

theorem SameParts.errorResources_eq (h : spec.SameParts spec')
    (hnames : (Assoc.names spec.schemas).Nodup) :
    spec.errorResources = spec'.errorResources := by
  have hnodup (p : String × Schema → Bool) :
      (((spec.schemas.filter p).map fun p => (⟨p.1, p.2, spec.qa⟩ : ErrorResource)).map
        (·.name)).Nodup := by
    rw [List.map_map]
    exact hnames.sublist (List.filter_sublist.map _)
  have hqa : spec.qa = spec'.qa := congrArg GenerationConfig.qaMode h.config
  rw [errorResources, errorResources, ← hqa]
  exact sortByName_eq_of_perm ((h.schemas.filter _).map _) (hnodup _)

theorem SameParts.eventResources_eq (h : spec.SameParts spec')
    (hnames : (Assoc.names spec.schemas).Nodup) :
    spec.eventResources = spec'.eventResources := by
  have hevents := (h.schemas.filter fun p => Text.occurs "Event".toList p.1.toList).map
    fun p => spec.resourceOf p.1 p.2
  have hnodup : (((spec.schemas.filter fun p =>
      Text.occurs "Event".toList p.1.toList).map fun p => spec.resourceOf p.1 p.2).map
        (·.name)).Nodup := by
    rw [List.map_map]
    exact hnames.sublist (List.filter_sublist.map _)
  rw [eventResources, eventResources, ← h.resourceOf_eq]
  exact sortByName_eq_of_perm (hevents.filter _) (hnodup.sublist (List.filter_sublist.map _))

end Spec

namespace Typed

variable {config : GenerationConfig} {document document' : Entries} {spec spec' : Spec}

/-- The shaped resources of a document. -/
def shapedResources (config : GenerationConfig) (spec : Spec) : Value :=
  ((backend.shape config spec).entries?.getD []).get "resources"

theorem shapedResources_eq (config : GenerationConfig) (spec : Spec) :
    shapedResources config spec = .list ((backend.resources config spec).map
      (backend.shapeOne (backend.resources config spec))) := rfl

/-- **The order of the component schemas of a document does not show.** -/
theorem shape_eq_of_reordered (hfree : (Value.object document).references = [])
    (hfree' : (Value.object document').references = []) (h : Reordered document document')
    (hs : (Spec.build config document).outcome = .ok spec)
    (ht : (Spec.build config document').outcome = .ok spec') (hids : spec.CarriesIdsOnce) :
    shapedResources config spec = shapedResources config spec' ∧
      spec.resources = spec'.resources ∧ spec.errorResources = spec'.errorResources ∧
      spec.eventResources = spec'.eventResources := by
  have hparts := Spec.sameParts_of_reordered hfree hfree' h hs ht
  have hnames := Spec.nodup_schemas_of_build hs
  have hresources := hparts.resources_eq hnames hids
  refine ⟨?_, hresources, hparts.errorResources_eq hnames, hparts.eventResources_eq hnames⟩
  have hshaped : backend.resources config spec = backend.resources config spec' := by
    rw [Backend.resources, Backend.resources, hresources]
  rw [shapedResources_eq, shapedResources_eq, hshaped]

theorem get_documentOf {paths es es' : Entries} {name : String} (h : name ≠ "components") :
    (documentOf paths es).get name = (documentOf paths es').get name := by
  have hkey : (Key.text "components").same (.text name) = false := by
    rw [Key.same_text]
    exact decide_eq_false fun hname => h hname.symm
  simp only [documentOf, Entries.get, Entries.get?, List.find?_cons, hkey, List.find?_nil]

/-- The resources of trips are listed the same in either order. -/
theorem shape_eq_of_reordered_trips :
    (Value.object (tripDocument false [])).references = [] ∧
      (Value.object (tripDocument true [])).references = [] ∧
      Reordered (tripDocument false []) (tripDocument true []) ∧
      (tripSpec false false [] []).CarriesIdsOnce ∧
      shapedResources {} (tripSpec false false [] []) =
        shapedResources {} (tripSpec true false [] []) ∧
      (tripSpec false false [] []).resources = (tripSpec true false [] []).resources := by
  have hfree (guideFirst : Bool) :
      (Value.object (tripDocument guideFirst [])).references = [] := by
    cases guideFirst <;> rfl
  have hbuild (guideFirst : Bool) : (Spec.build {} (tripDocument guideFirst [])).outcome =
      .ok (tripSpec guideFirst false [] []) :=
    build_tripDocument (hfree guideFirst) fun _ => Schema.quiet_ofProperties_nil
  have hreordered : Reordered (tripDocument false []) (tripDocument true []) :=
    reordered_of_perm (fun _ hname => get_documentOf hname) (List.Perm.swap ..) (by decide)
  have hids : (tripSpec false false [] []).CarriesIdsOnce := by
    unfold Spec.CarriesIdsOnce
    decide
  obtain ⟨hshape, hresources, -, -⟩ := shape_eq_of_reordered (hfree false) (hfree true) hreordered
    (hbuild false) (hbuild true) hids
  exact ⟨hfree false, hfree true, hreordered, hids, hshape, hresources⟩

/-! ## Schemas of one name -/

/-- Two component schemas of one name: the number one and its digit. -/
def numberedComponents (digitFirst : Bool) : Entries :=
  let number := (Key.int 1, Value.object (tripEntries []))
  let digit := (Key.text "1", Value.object guideEntries)
  if digitFirst then [digit, number] else [number, digit]

def numberedSchema (digitFirst : Bool) : Schema := if digitFirst then tripSchema [] else guideSchema

def numberedSpec (digitFirst : Bool) : Spec where
  document := documentOf [] (numberedComponents digitFirst)
  config := {}
  version := {}
  schemas := [("1", numberedSchema digitFirst)]
  actions := []

theorem references_numberedDocument (digitFirst : Bool) :
    (Value.object (documentOf [] (numberedComponents digitFirst))).references = [] := by
  cases digitFirst <;> rfl

theorem build_numberedDocument (digitFirst : Bool) :
    (Spec.build {} (documentOf [] (numberedComponents digitFirst))).outcome =
      .ok (numberedSpec digitFirst) := by
  have htrip (place : String) : Logged.Quiet (Schema.ofEntries {} 0 place (tripEntries []))
      (tripSchema []) := quiet_tripEntries Schema.quiet_ofProperties_nil
  have hnodes : Logged.Quiet (Spec.schemasOf {} (numberedComponents digitFirst))
      (if digitFirst then [("1", guideSchema), ("1", tripSchema [])]
        else [("1", tripSchema []), ("1", guideSchema)]) := by
    cases digitFirst with
    | false =>
      exact Logged.quiet_bind_iff.2 ⟨_, htrip _, Logged.quiet_bind_iff.2 ⟨_,
        Logged.quiet_bind_iff.2 ⟨_, Schema.quiet_leaf (by decide) rfl rfl, rfl⟩, rfl⟩⟩
    | true =>
      exact Logged.quiet_bind_iff.2 ⟨_, Schema.quiet_leaf (by decide) rfl rfl, Logged.quiet_bind_iff.2 ⟨_,
        Logged.quiet_bind_iff.2 ⟨_, htrip _, rfl⟩, rfl⟩⟩
  have hactions : Logged.Quiet (Spec.buildActions { qa := false }
      (documentOf [] (numberedComponents digitFirst))) [] := rfl
  have hbuild := build_documentOf (references_numberedDocument digitFirst) hnodes hactions
  cases digitFirst <;> exact hbuild

theorem id_shapeOne (resources : List Resource) (r : Resource) :
    ∃ es, backend.shapeOne resources r = .object es ∧ Entries.get es "id" = .optText r.id :=
  ⟨_, rfl, rfl⟩

/-- Of two schemas of one name the last counts, and the order decides which one is last. -/
theorem not_forall_shape_eq_of_perm :
    ¬ ∀ (config : GenerationConfig) (document document' : Entries) (spec spec' : Spec),
      (Value.object document).references = [] → (Value.object document').references = [] →
      (∀ name, name ≠ "components" → document.get name = document'.get name) →
      (schemaEntries document).Perm (schemaEntries document') →
      (Spec.build config document).outcome = .ok spec →
      (Spec.build config document').outcome = .ok spec' →
      spec.CarriesIdsOnce → spec'.CarriesIdsOnce →
      shapedResources config spec = shapedResources config spec' := by
  intro h
  have hids (digitFirst : Bool) : (numberedSpec digitFirst).CarriesIdsOnce := by
    unfold Spec.CarriesIdsOnce
    cases digitFirst <;> decide
  have hshape := h {} _ _ _ _ (references_numberedDocument false)
    (references_numberedDocument true) (fun _ hname => get_documentOf hname) (List.Perm.swap ..)
    (build_numberedDocument false) (build_numberedDocument true) (hids false) (hids true)
  have hresources (digitFirst : Bool) : backend.resources {} (numberedSpec digitFirst) =
      [(numberedSpec digitFirst).resourceOf "1" (numberedSchema digitFirst)] := by
    cases digitFirst <;> cbv
  rw [shapedResources_eq, shapedResources_eq, hresources, hresources, List.map_singleton,
    List.map_singleton] at hshape
  obtain ⟨es, hes, hid⟩ := id_shapeOne [(numberedSpec false).resourceOf "1" (numberedSchema false)]
    ((numberedSpec false).resourceOf "1" (numberedSchema false))
  obtain ⟨fs, hfs, hid'⟩ := id_shapeOne [(numberedSpec true).resourceOf "1" (numberedSchema true)]
    ((numberedSpec true).resourceOf "1" (numberedSchema true))
  rw [hes, hfs] at hshape
  obtain rfl : es = fs := by simpa using hshape
  have htext : Value.text "guide" = .text "trip" := hid.symm.trans hid'
  exact absurd (Value.text.inj htext) (by decide)

end Typed

end SdkModel
