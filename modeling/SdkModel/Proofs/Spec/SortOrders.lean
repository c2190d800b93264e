import SdkModel.Backend.Basic
import SdkModel.Proofs.Schema.StatedOrder
import SdkModel.Proofs.Spec.Grouping
import SdkModel.Proofs.Spec.TwoResources

/-!
# Lists in sort order

The attributes, the actions and the nested types of a resource, the query parameters and the body
fields of an action and the resources of a backend are listed by their sort orders
(`Spec.Listing`). Each of these lists follows the orders that its nodes state when these are clear
of -1 (`Spec.followsOrders_iff`); an order below it comes before nodes that state none.
-/

namespace SdkModel

open Logged (Quiet bind_ok_iff)

/-! ## Actions -/

namespace Action

variable {rules : BuildRules} {method : HttpMethod} {url here : String} {operation es : Entries}
variable {v : Value} {a : Action} {s : Schema}

def statedOrder? (a : Action) : Option Int :=
  orderIfDeclared a.extensions.declared a.extensions.sortOrder

/-- The schemas of operations are built from entries. -/
theorem builtFrom_of_schemaAt (h : (schemaAt rules here v).outcome = .ok (some s)) :
    ∃ es, Schema.BuiltFrom es s := by
  cases v with
  | object es =>
    obtain ⟨node, hnode, hsome⟩ := Logged.map_ok_iff.1 h
    obtain rfl := Option.some.inj hsome
    exact ⟨es, _, _, _, hnode⟩
  | _ => cases h

theorem builtFrom_of_bodySchema (h : (bodySchema rules here v).outcome = .ok (some s)) :
    ∃ es, Schema.BuiltFrom es s := by
  unfold bodySchema at h
  split at h
  · obtain ⟨content, -, h⟩ := bind_ok_iff.1 h
    split at h
    · exact builtFrom_of_schemaAt h
    · cases h
  · cases h

/-- A parameter has the sort order that its entries state. -/
theorem readsOrder_of_parameter {p : ParameterPlace × Parameter}
    (h : (parameter rules here es).outcome = .ok p) : p.2.schema.ReadsOrder := by
  obtain ⟨schema, hschema, h⟩ := bind_ok_iff.1 h
  obtain ⟨_, -, h⟩ := bind_ok_iff.1 h
  obtain rfl := Except.ok.inj h
  cases schema with
  | none => rfl
  | some s =>
    obtain ⟨fs, hfs⟩ := builtFrom_of_schemaAt hschema
    exact Schema.readsOrder_of_builtFrom hfs

/-- The extensions of an operation without the key of the order are of order -1. -/
theorem getD_orderIfDeclared_of_decode {strict : Bool} {extensions : OperationExtensions}
    (h : (decode OperationExtensions es here strict).outcome = .ok extensions) :
    (orderIfDeclared extensions.declared extensions.sortOrder).getD (-1) =
      extensions.sortOrder := by
  have hread : (OperationExtensions.read es).value = extensions := by
    change (ExtensionRecord.read es : Reading OperationExtensions).value = _
    exact Schema.value_of_decode h
  have hf : ((⟨"x-cb-sort-order", "sort_order", "Position among sibling operations"⟩, .int (-1)) :
      ExtensionField × Value) ∈ OperationExtensions.listing {} := by
    simp [OperationExtensions.listing]
  have hdeclared : (OperationExtensions.read es).value.declared =
      declaredFields (OperationExtensions.listing {}) es := rfl
  have horder : (OperationExtensions.read es).value.sortOrder =
      (Reading.field es "x-cb-sort-order" (-1) Coercion.int).value := rfl
  rw [← hread, hdeclared, horder, getD_orderIfDeclared hf rfl rfl]

/-- An action, its parameters and the fields of its body are of order -1 where they state none. -/
structure ReadsOrders (a : Action) : Prop where
  own : a.statedOrder?.getD (-1) = a.sortOrder
  parameters : ∀ p ∈ a.declaredParameters, p.schema.ReadsOrder
  fields : ∀ s, a.body = some s → ∀ p ∈ s.propertyList, p.2.ReadsOrder

/-- So have all that are read off an operation. -/
theorem readsOrders_of_ofOperation
    (h : (ofOperation rules method url operation).outcome = .ok a) : a.ReadsOrders := by
  rw [ofOperation_eq] at h
  obtain ⟨-, -, h⟩ := bind_ok_iff.1 h
  obtain ⟨extensions, hextensions, h⟩ := bind_ok_iff.1 h
  obtain ⟨name, -, h⟩ := bind_ok_iff.1 h
  obtain ⟨declared, -, h⟩ := bind_ok_iff.1 h
  obtain ⟨body, hbody, h⟩ := bind_ok_iff.1 h
  obtain ⟨success, -, h⟩ := bind_ok_iff.1 h
  obtain ⟨parameters, hparameters, h⟩ := bind_ok_iff.1 h
  obtain rfl := Except.ok.inj h
  refine ⟨?own, ?parameters, ?fields⟩
  case own => exact getD_orderIfDeclared_of_decode hextensions
  case parameters =>
    intro p hp
    obtain ⟨q, hq, rfl⟩ := List.mem_map.1 hp
    exact forall_of_parametersFrom readsOrder_of_parameter hparameters q hq
  case fields =>
    intro s hs p hp
    obtain rfl : body = some s := hs
    obtain ⟨es, hes⟩ := builtFrom_of_bodySchema hbody
    obtain ⟨fs, hfs⟩ := Schema.builtFrom_property hes hp
    exact Schema.readsOrder_of_builtFrom hfs

variable (h : a.ReadsOrders) {p : Parameter}
include h

theorem ReadsOrders.declaredQuery (hp : p ∈ a.declaredQuery) :
    p.statedOrder?.getD (-1) = p.sortOrder := by
  rw [Action.declaredQuery] at hp
  split at hp
  · obtain ⟨q, hq, rfl⟩ := List.mem_map.1 hp
    exact h.parameters _ (List.mem_map_of_mem (List.mem_filter.1 hq).1)
  · cases hp

theorem ReadsOrders.declaredBody (hp : p ∈ a.declaredBody) :
    p.statedOrder?.getD (-1) = p.sortOrder := by
  rw [Action.declaredBody] at hp
  split at hp
  · rename_i s hbody
    rw [objectBody?] at hbody
    split at hbody
    · obtain ⟨q, hq, rfl⟩ := List.mem_map.1 hp
      exact h.fields s (Option.filter_eq_some_iff.1 hbody).1 q hq
    · cases hbody
  · cases hp

end Action

/-! ## Resources -/

namespace Resource

def statedOrder? (r : Resource) : Option Int := r.schema.statedOrder?

/-- The order that is stated by the property under which a nested type is held. -/
def heldOrder? (r s : Resource) : Option Int :=
  (s.id.bind (r.schema.propertyList.lookup ·)).bind (·.statedOrder?)

end Resource

theorem Assoc.lookup_of_mem {α : Type} {xs : List (String × α)} {x : String × α}
    (hnodup : (names xs).Nodup) (hx : x ∈ xs) : xs.lookup x.1 = some x.2 := by
  induction xs with
  | nil => cases hx
  | cons y xs ih =>
    rw [names, List.map_cons, List.nodup_cons] at hnodup
    rw [lookup_cons_ite]
    rcases List.mem_cons.1 hx with rfl | hx
    · exact if_pos rfl
    · have hne : x.1 ≠ y.1 := fun heq => hnodup.1 (heq ▸ List.mem_map_of_mem hx)
      rw [if_neg hne, ih hnodup.2 hx]

namespace Spec

/-- The resource is that of a component schema, or is held by one that is included. -/
inductive Includes (spec : Spec) : Resource → Prop
  | component {p : String × Schema} (hp : p ∈ spec.schemas) :
    Includes spec (spec.resourceOf p.1 p.2)
  | nested {r s : Resource} (hr : Includes spec r) (hs : s ∈ r.subResources) : Includes spec s
  | dependent {r s : Resource} (hr : Includes spec r) (hs : s ∈ r.dependentResources) :
    Includes spec s

/-- The orders that the nodes of a list state, the nodes as they are met, and as they are listed. -/
inductive Listing (spec : Spec) : {α : Type} → (α → Option Int) → List α → List α → Prop
  | attributes {r : Resource} (hr : spec.Includes r) :
    Listing spec Attribute.statedOrder? r.visibleAttributes r.sortedAttributes
  | actions {r : Resource} (hr : spec.Includes r) :
    Listing spec Action.statedOrder? (r.actions.filter (!·.isExcluded)) r.sortedActions
  | subResources {r : Resource} (hr : spec.Includes r) :
    Listing spec r.heldOrder? r.subResources r.sortedSubResources
  | query {id : String} {a : Action} (ha : a ∈ spec.actionsUnder id) :
    Listing spec Parameter.statedOrder? a.declaredQuery a.queryParameters
  | body {id : String} {a : Action} (ha : a ∈ spec.actionsUnder id) :
    Listing spec Parameter.statedOrder? a.declaredBody a.bodyParameters
  | resources (b : Backend) (config : GenerationConfig) :
    Listing spec Resource.statedOrder? (spec.resources.filter (!b.isOverridden config ·))
      (b.resources config spec)

variable {config : GenerationConfig} {document : Entries} {spec : Spec} {r : Resource}
variable {rules : SchemaRules} {components : Entries} {schemas : List (String × Schema)}
variable {p : String × Schema} {a : Action} {id : String}

/-! ## Nodes of a built spec -/

/-- Each component schema is built from entries. -/
theorem builtFrom_of_schemasOf (h : (schemasOf rules components).outcome = .ok schemas)
    (hp : p ∈ schemas) : ∃ es, Schema.BuiltFrom es p.2 := by
  induction components generalizing schemas with
  | nil =>
    cases h
    cases hp
  | cons e components ih =>
    obtain ⟨k, v⟩ := e
    cases v with
    | object es =>
      obtain ⟨node, hnode, h⟩ := bind_ok_iff.1 h
      obtain ⟨others, hothers, h⟩ := bind_ok_iff.1 h
      cases h
      rcases List.mem_cons.1 hp with rfl | hp
      · exact ⟨es, _, _, _, hnode⟩
      · exact ih hothers hp
    | _ => exact ih h hp

section Built

variable (h : (build config document).outcome = .ok spec)
include h

theorem builtFrom_of_mem_schemas (hp : p ∈ spec.schemas) : ∃ es, Schema.BuiltFrom es p.2 := by
  obtain ⟨resolved, hschemas, -, -⟩ := parts_of_build h
  obtain ⟨_, -, hschemas⟩ := bind_ok_iff.1 hschemas
  obtain ⟨_, -, hschemas⟩ := bind_ok_iff.1 hschemas
  obtain ⟨nodes, hnodes, hschemas⟩ := bind_ok_iff.1 hschemas
  have hschemas : Assoc.ofPairs nodes = spec.schemas := Except.ok.inj hschemas
  rw [← hschemas] at hp
  exact builtFrom_of_schemasOf hnodes (Assoc.mem_of_mem_ofPairs hp)

theorem readsOrders_of_mem_actionsUnder (ha : a ∈ spec.actionsUnder id) : a.ReadsOrders := by
  obtain ⟨built, hbuilt⟩ := exists_builtActions h
  rw [hbuilt.grouped id] at ha
  obtain ⟨z, hz, rfl⟩ := List.mem_map.1 ha
  obtain ⟨_, _, -, hoperation⟩ := hbuilt.isBuiltAt z (List.mem_filter.1 hz).1
  exact Action.readsOrders_of_ofOperation hoperation

/-- So is the schema of each resource and of each nested one. -/
theorem builtFrom_of_includes (hr : spec.Includes r) : ∃ es, Schema.BuiltFrom es r.schema := by
  have hheld {r : Resource} {p : String × Schema} (ih : ∃ es, Schema.BuiltFrom es r.schema)
      (hp : p ∈ r.schema.propertyList) : ∃ es, Schema.BuiltFrom es p.2.itemsOrSelf := by
    obtain ⟨es, hes⟩ := ih
    obtain ⟨fs, hfs⟩ := Schema.builtFrom_property hes hp
    exact Schema.builtFrom_itemsOrSelf hfs
  induction hr with
  | component hp => exact builtFrom_of_mem_schemas h hp
  | nested hr hs ih =>
    obtain ⟨p, hp, rfl⟩ := List.mem_map.1 (Resource.mem_of_mem_firstOfName hs)
    exact hheld ih (List.mem_filter.1 hp).1
  | dependent hr hs ih =>
    obtain ⟨p, hp, rfl⟩ := List.mem_map.1 hs
    exact hheld ih (List.mem_filter.1 hp).1

/-- The actions of a resource come from operations. -/
theorem readsOrders_of_includes (hr : spec.Includes r) (ha : a ∈ r.actions) : a.ReadsOrders := by
  cases hr with
  | component hp => exact readsOrders_of_mem_actionsUnder h (List.mem_filter.1 ha).1
  | nested hr hs =>
    obtain ⟨p, hp, rfl⟩ := List.mem_map.1 (Resource.mem_of_mem_firstOfName hs)
    cases ha
  | dependent hr hs =>
    obtain ⟨p, hp, rfl⟩ := List.mem_map.1 hs
    cases ha

/-- A nested type is of the order that the property which holds it states, or of -1. -/
theorem getD_heldOrder? (hr : spec.Includes r) {s : Resource} (hs : s ∈ r.subResources) :
    (r.heldOrder? s).getD (-1) = s.sortOrder := by
  obtain ⟨es, hes⟩ := builtFrom_of_includes h hr
  obtain ⟨p, hp, rfl⟩ := List.mem_map.1 (Resource.mem_of_mem_firstOfName hs)
  have hp := (List.mem_filter.1 hp).1
  have hnodup : (Assoc.names r.schema.propertyList).Nodup := by
    obtain ⟨_, _, _, hnode⟩ := hes
    exact Schema.nodup_names_of_ofEntries hnode
  have hid : (Resource.subResourceOf r.qa p).id = some p.1 := rfl
  obtain ⟨fs, hfs⟩ := Schema.builtFrom_property hes hp
  rw [Resource.heldOrder?, hid, Option.bind_some, Assoc.lookup_of_mem hnodup hp, Option.bind_some]
  exact Schema.readsOrder_of_builtFrom hfs

/-- A resource has the sort order that its schema states, or that of its place otherwise. -/
theorem getD_statedOrder?_resource (hr : r ∈ spec.resources) :
    r.statedOrder?.getD (-1) = r.sortOrder := by
  have howned : r ∈ spec.ownedResources := by
    have hall := (List.mem_filter.1 hr).1
    exact (List.mem_filter.1 ((sortByName_perm _ _).mem_iff.1 hall)).1
  obtain ⟨es, hes⟩ := builtFrom_of_mem_schemas h (mem_schemas_of_mem_ownedResources howned)
  obtain ⟨c, -, rfl⟩ := List.mem_map.1 howned
  exact Schema.readsOrder_of_builtFrom hes

variable {α : Type} {stated : α → Option Int} {source listed : List α}

/-- Each list sorts its nodes by the order that they state, taking -1 for none. -/
theorem exists_key_of_listing (hl : spec.Listing stated source listed) :
    ∃ key : α → Int, listed = sortByOrder key source ∧
      ∀ x ∈ source, (stated x).getD (-1) = key x := by
  cases hl with
  | attributes hr =>
    refine ⟨Attribute.sortOrder, rfl, fun x hx => ?_⟩
    obtain ⟨es, hes⟩ := builtFrom_of_includes h hr
    obtain ⟨p, hp, rfl⟩ := List.mem_map.1 (List.mem_filter.1 hx).1
    obtain ⟨fs, hfs⟩ := Schema.builtFrom_property hes hp
    exact Attribute.getD_statedOrder? hfs
  | actions hr =>
    refine ⟨Action.sortOrder, rfl, fun x hx => ?_⟩
    exact (readsOrders_of_includes h hr (List.mem_filter.1 hx).1).own
  | subResources hr => exact ⟨Resource.sortOrder, rfl, fun x hx => getD_heldOrder? h hr hx⟩
  | query ha =>
    refine ⟨Parameter.sortOrder, rfl, fun x hx => ?_⟩
    exact (readsOrders_of_mem_actionsUnder h ha).declaredQuery hx
  | body ha =>
    refine ⟨Parameter.sortOrder, rfl, fun x hx => ?_⟩
    exact (readsOrders_of_mem_actionsUnder h ha).declaredBody hx
  | resources b config =>
    refine ⟨Resource.sortOrder, rfl, fun x hx => ?_⟩
    exact getD_statedOrder?_resource h (List.mem_filter.1 hx).1

/-- **The lists of a built spec in sort order.** The nodes of each list that state orders ascend,
and nodes of one order or of none keep their places. The latter come first just when the orders that
are stated beside them are clear of -1. -/
theorem followsOrders_iff (hl : spec.Listing stated source listed) :
    SortsStated stated source listed ∧
      (FollowsOrders stated source listed ↔ ClearOrders stated source) := by
  obtain ⟨key, rfl, hkey⟩ := exists_key_of_listing h hl
  exact ⟨sortsStated_sortByOrder hkey, followsOrders_sortByOrder_iff hkey⟩

end Built

/-! ## An order below that of nodes that state none -/

def labelEntries : Entries := [(.text "type", .text "string")]

def codeEntries (n : Int) : Entries :=
  [(.text "type", .text "string"), (.text "x-cb-sort-order", .int n)]

/-- Two properties, of which the second one states an order. -/
def codesEntries (n : Int) : Entries :=
  [(.text "label", .object labelEntries), (.text "code", .object (codeEntries n))]

def codeSchema (n : Int) : Schema where
  type := some "string"
  extensions := { sortOrder := n, declared := ["sort_order"] }

def codes (n : Int) : List (String × Schema) :=
  [("label", { type := some "string" }), ("code", codeSchema n)]

theorem quiet_codesEntries (n : Int) (place : String) :
    Quiet (Schema.ofProperties {} 0 place (codesEntries n)) (codes n) :=
  Schema.quiet_ofProperties_cons (Schema.quiet_leaf (by decide) rfl rfl)
    (Schema.quiet_ofProperties_cons (Schema.quiet_leaf (by decide) rfl rfl)
      Schema.quiet_ofProperties_nil)

def codesSpec (n : Int) : Spec := tripSpec false false (codesEntries n) (codes n)

theorem build_codesDocument (n : Int) :
    (build {} (tripDocument false (codesEntries n))).outcome = .ok (codesSpec n) :=
  build_tripDocument rfl (quiet_codesEntries n)

def codedTrip (n : Int) : Resource := (codesSpec n).resourceOf "Trip" (tripSchema (codes n))

theorem includes_codedTrip (n : Int) : (codesSpec n).Includes (codedTrip n) := by
  have hp : ("Trip", tripSchema (codes n)) ∈ (codesSpec n).schemas := List.mem_cons_self
  exact .component hp

def label : Attribute := ⟨"label", { type := some "string" }, false, false⟩

def code (n : Int) : Attribute := ⟨"code", codeSchema n, false, false⟩

theorem visibleAttributes_codedTrip (n : Int) :
    (codedTrip n).visibleAttributes = [label, code n] := by rfl

/-- The order 1 comes behind a node that states none. -/
theorem followsOrders_codes :
    (build {} (tripDocument false (codesEntries 1))).outcome = .ok (codesSpec 1) ∧
      (codesSpec 1).Listing Attribute.statedOrder? (codedTrip 1).visibleAttributes
        (codedTrip 1).sortedAttributes ∧
      FollowsOrders Attribute.statedOrder? (codedTrip 1).visibleAttributes
        (codedTrip 1).sortedAttributes := by
  have hlisting := Listing.attributes (includes_codedTrip 1)
  refine ⟨build_codesDocument 1, hlisting, ?_⟩
  rw [(followsOrders_iff (build_codesDocument 1) hlisting).2, visibleAttributes_codedTrip]
  refine ⟨fun a b n hsub _ hb => ?_, fun a b m hsub ha _ => ?_⟩
  · cases hsub.eq_of_length rfl
    cases hb
    decide
  · cases hsub.eq_of_length rfl
    cases ha

/-- Not every list of a spec follows the orders that are stated: -2 comes before a node that states
none. -/
theorem not_forall_followsOrders :
    ¬ ∀ (config : GenerationConfig) (document : Entries) (spec : Spec),
      (build config document).outcome = .ok spec →
        ∀ {α : Type} (stated : α → Option Int) (source listed : List α),
          spec.Listing stated source listed → FollowsOrders stated source listed := by
  intro h
  have hfollows := h {} _ _ (build_codesDocument (-2)) _ _ _
    (.attributes (includes_codedTrip (-2)))
  have hsorted : (codedTrip (-2)).sortedAttributes = [code (-2), label] := by cbv
  rw [hsorted] at hfollows
  cases hfollows.unstatedFirst _ _ (List.Sublist.refl _) rfl

end Spec

end SdkModel
