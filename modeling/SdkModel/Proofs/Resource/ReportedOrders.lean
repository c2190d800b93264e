import SdkModel.Proofs.Resource.NestedViews
import SdkModel.Proofs.StableSort
import SdkModel.Proofs.Typed.GlobalEnums

/-!
# Reported sort orders

Every entry of a described resource reports a sort order. The inputs of an action are sorted by the
order of their own schema, and a nested resource has that of the schema of its property; what is
reported of an input, and of the attribute of the property, is taken over from the items of an array
that has no order. The two agree exactly when no nested resource and no misplaced input takes over
an order from its items (`reportsConsistently_iff`).
-/

namespace SdkModel

/-! ## Inputs -/

namespace Parameter

variable {p q : Parameter} {ps : List Parameter}

/-- The order that the entry of an input reports. -/
def reportedOrder (p : Parameter) : Int := p.schema.sortOrder

/-- A sort order that is stated is reported. -/
theorem reportedOrder_of_ne (h : p.sortOrder ≠ -1) : p.reportedOrder = p.sortOrder := by
  rw [reportedOrder, Schema.sortOrder]
  exact if_neg h

/-- The orders that inputs take over from their items are in the place of `-1`. -/
structure InheritInPlace (ps : List Parameter) : Prop where
  ascend : (ps.filter (·.sortOrder = -1)).Pairwise fun p q => p.reportedOrder ≤ q.reportedOrder
  below : ∀ p ∈ ps, p.sortOrder = -1 → ∀ q ∈ ps, -1 < q.sortOrder →
    p.reportedOrder ≤ q.sortOrder
  above : ∀ p ∈ ps, p.sortOrder = -1 → ∀ q ∈ ps, q.sortOrder < -1 →
    q.sortOrder ≤ p.reportedOrder

instance (ps : List Parameter) : Decidable (InheritInPlace ps) :=
  decidable_of_iff
    ((ps.filter (·.sortOrder = -1)).Pairwise (fun p q => p.reportedOrder ≤ q.reportedOrder) ∧
      (∀ p ∈ ps, p.sortOrder = -1 → ∀ q ∈ ps, -1 < q.sortOrder → p.reportedOrder ≤ q.sortOrder) ∧
      ∀ p ∈ ps, p.sortOrder = -1 → ∀ q ∈ ps, q.sortOrder < -1 → q.sortOrder ≤ p.reportedOrder)
    ⟨fun h => ⟨h.1, h.2.1, h.2.2⟩, fun h => ⟨h.ascend, h.below, h.above⟩⟩

/-- Parameters are reported in ascending order just when each inherited order is in place. -/
theorem pairwise_reportedOrder_iff :
    (sortByOrder sortOrder ps).Pairwise (fun p q => p.reportedOrder ≤ q.reportedOrder) ↔
      InheritInPlace ps := by
  rw [pairwise_sortByOrder_iff]
  constructor
  · rintro ⟨hlt, hties⟩
    refine ⟨hties (-1), fun p hp hown q hq hless => ?_, fun p hp hown q hq hless => ?_⟩
    · rw [← reportedOrder_of_ne hless.ne']
      exact hlt p hp q hq (hown ▸ hless)
    · rw [← reportedOrder_of_ne hless.ne]
      exact hlt q hq p hp (hown ▸ hless)
  · intro h
    constructor
    · intro p hp q hq hless
      by_cases hown : p.sortOrder = -1
      · have hother : -1 < q.sortOrder := hown ▸ hless
        rw [reportedOrder_of_ne hother.ne']
        exact h.below p hp hown q hq hother
      · rw [reportedOrder_of_ne hown]
        by_cases hother : q.sortOrder = -1
        · exact h.above q hq hother p hp (hother ▸ hless)
        · rw [reportedOrder_of_ne hother]
          exact hless.le
    · intro k
      by_cases hk : k = -1
      · rw [hk]
        exact h.ascend
      · refine List.pairwise_of_forall_mem_list fun p hp q hq => ?_
        have hpk : p.sortOrder = k := of_decide_eq_true (List.mem_filter.1 hp).2
        have hqk : q.sortOrder = k := of_decide_eq_true (List.mem_filter.1 hq).2
        rw [reportedOrder_of_ne (hpk ▸ hk), reportedOrder_of_ne (hqk ▸ hk), hpk, hqk]

end Parameter

/-! ## Entries -/

/-- The entries report sort orders that ascend. -/
def ReportAscending (entries : List Value) : Prop :=
  ∃ orders : List Int, entries.map (·.field "sort_order") = orders.map Value.int ∧
    orders.Pairwise (· ≤ ·)

/-- A list reports ascending orders when what it is made of has them. -/
theorem reportAscending_map_iff {α : Type} {describe : α → Value} {order : α → Int} {xs : List α}
    (h : ∀ x, (describe x).field "sort_order" = .int (order x)) :
    ReportAscending (xs.map describe) ↔ xs.Pairwise fun x y => order x ≤ order y := by
  have hfields : (xs.map describe).map (·.field "sort_order") = (xs.map order).map Value.int := by
    rw [List.map_map, List.map_map]
    exact List.map_congr_left fun x _ => h x
  rw [ReportAscending, hfields, ← List.pairwise_map]
  constructor
  · rintro ⟨orders, heq, hordered⟩
    rwa [List.map_injective_iff.2 (fun _ _ => Value.int.inj) heq]
  · exact fun hordered => ⟨xs.map order, rfl, hordered⟩

theorem Attribute.field_sortOrder (a : Attribute) :
    a.toValue.field "sort_order" = .int a.sortOrder := by
  rw [toValue]
  rfl

theorem Parameter.field_sortOrder (p : Parameter) :
    p.toValue.field "sort_order" = .int p.reportedOrder := by
  rw [toValue, Attribute.toValue]
  rfl

namespace Resource

variable {r : Resource}

theorem field_sortOrder (r : Resource) : r.toValue.field "sort_order" = .int r.sortOrder := by
  rw [toValue]
  rfl

theorem field_id (r : Resource) : r.toValue.field "id" = .optText r.id := by
  rw [toValue]
  rfl

theorem items_attributes (r : Resource) :
    (r.toValue.field "attributes").items = r.sortedAttributes.map Attribute.toValue := by
  rw [toValue]
  rfl

theorem items_actions (r : Resource) :
    (r.toValue.field "actions").items = r.sortedActions.map Action.toValue := by
  rw [toValue]
  rfl

theorem items_subResources (r : Resource) :
    (r.toValue.field "sub_resources").items = r.sortedSubResources.map toValue := by
  rw [toValue]
  exact List.attach_map_val

/-- Entries ascend in the orders that they report, and a nested resource reports what the attribute
of its property does. -/
structure ReportsConsistently (r : Resource) : Prop where
  attributes : ReportAscending (r.toValue.field "attributes").items
  actions : ReportAscending (r.toValue.field "actions").items
  subResources : ReportAscending (r.toValue.field "sub_resources").items
  query : ∀ a ∈ (r.toValue.field "actions").items,
    ReportAscending (a.field "query_parameters").items
  body : ∀ a ∈ (r.toValue.field "actions").items,
    ReportAscending (a.field "request_body_parameters").items
  held : ∀ s ∈ (r.toValue.field "sub_resources").items, ∃ a ∈ r.attributes,
    s.field "id" = .text a.name ∧ s.field "sort_order" = a.toValue.field "sort_order"

/-- Attributes, actions and nested resources report the orders that they are sorted by. -/
theorem reportAscending_attributes (r : Resource) :
    ReportAscending (r.toValue.field "attributes").items := by
  rw [items_attributes, reportAscending_map_iff Attribute.field_sortOrder]
  exact (isStableSort_sortByOrder _ _).ordered

theorem reportAscending_actions (r : Resource) :
    ReportAscending (r.toValue.field "actions").items := by
  rw [items_actions, reportAscending_map_iff fun _ => rfl]
  exact (isStableSort_sortByOrder _ _).ordered

theorem reportAscending_subResources (r : Resource) :
    ReportAscending (r.toValue.field "sub_resources").items := by
  rw [items_subResources, reportAscending_map_iff field_sortOrder]
  exact (isStableSort_sortByOrder _ _).ordered

/-- Query parameters are sorted by their own order and report an inherited one. -/
theorem reportAscending_query_iff (a : Action) :
    ReportAscending (a.toValue.field "query_parameters").items ↔
      Parameter.InheritInPlace (a.declaredQuery.filter (!·.isHidden)) := by
  have hitems : (a.toValue.field "query_parameters").items =
      a.visibleQueryParameters.map Parameter.toValue := rfl
  rw [hitems, reportAscending_map_iff Parameter.field_sortOrder, Action.visibleQueryParameters,
    Action.queryParameters, filter_sortByOrder, Parameter.pairwise_reportedOrder_iff]

/-- So are body parameters. -/
theorem reportAscending_body_iff (a : Action) :
    ReportAscending (a.toValue.field "request_body_parameters").items ↔
      Parameter.InheritInPlace (a.declaredBody.filter (!·.isHidden)) := by
  have hitems : (a.toValue.field "request_body_parameters").items =
      a.visibleBodyParameters.map Parameter.toValue := rfl
  rw [hitems, reportAscending_map_iff Parameter.field_sortOrder, Action.visibleBodyParameters,
    Action.bodyParameters, filter_sortByOrder, Parameter.pairwise_reportedOrder_iff]

/-- A nested resource reports the order of the schema of its property. -/
theorem mem_items_subResources {v : Value} : v ∈ (r.toValue.field "sub_resources").items ↔
    ∃ p ∈ firstOf typeName [] r.heldProperties, (subResourceOf r.qa p).toValue = v := by
  rw [items_subResources, List.mem_map]
  simp only [sortedSubResources, mem_sortByOrder, subResources_eq, List.mem_map,
    exists_exists_and_eq_and]

theorem field_id_subResourceOf (qa : Bool) (p : String × Schema) :
    (subResourceOf qa p).toValue.field "id" = .text p.1 := field_id _

theorem field_sortOrder_subResourceOf (qa : Bool) (p : String × Schema) :
    (subResourceOf qa p).toValue.field "sort_order" = .int p.2.extensions.sortOrder :=
  field_sortOrder _

/-- **When reported orders are consistent.** They are exactly when no property of a nested resource
takes over an order from its items, and no visible input takes over one that is not in the place of
its own. -/
theorem reportsConsistently_iff (hnames : (Assoc.names r.schema.propertyList).Nodup) :
    r.ReportsConsistently ↔
      (∀ p ∈ firstOf typeName [] r.heldProperties, p.2.sortOrder = p.2.extensions.sortOrder) ∧
        ∀ a ∈ r.sortedActions, Parameter.InheritInPlace (a.declaredQuery.filter (!·.isHidden)) ∧
          Parameter.InheritInPlace (a.declaredBody.filter (!·.isHidden)) := by
  have hquery : (∀ a ∈ (r.toValue.field "actions").items,
      ReportAscending (a.field "query_parameters").items) ↔
        ∀ a ∈ r.sortedActions, Parameter.InheritInPlace (a.declaredQuery.filter (!·.isHidden)) := by
    simp only [items_actions, List.forall_mem_map, reportAscending_query_iff]
  have hbody : (∀ a ∈ (r.toValue.field "actions").items,
      ReportAscending (a.field "request_body_parameters").items) ↔
        ∀ a ∈ r.sortedActions, Parameter.InheritInPlace (a.declaredBody.filter (!·.isHidden)) := by
    simp only [items_actions, List.forall_mem_map, reportAscending_body_iff]
  constructor
  · intro h
    refine ⟨fun p hp => ?_, fun a ha => ⟨hquery.1 h.query a ha, hbody.1 h.body a ha⟩⟩
    obtain ⟨a, ha, hid, horder⟩ := h.held _ (mem_items_subResources.2 ⟨p, hp, rfl⟩)
    obtain ⟨q, hq, rfl⟩ := List.mem_map.1 ha
    rw [field_id_subResourceOf] at hid
    have hheld := (mem_heldProperties_iff.1 (firstOf_sublist.subset hp)).1
    obtain rfl := property_unique hnames hheld hq (Value.text.inj hid)
    rw [field_sortOrder_subResourceOf, Attribute.field_sortOrder] at horder
    exact (Value.int.inj horder).symm
  · rintro ⟨hown, hinputs⟩
    refine ⟨reportAscending_attributes r, reportAscending_actions r,
      reportAscending_subResources r, hquery.2 fun a ha => (hinputs a ha).1,
      hbody.2 fun a ha => (hinputs a ha).2, fun s hs => ?_⟩
    obtain ⟨p, hp, rfl⟩ := mem_items_subResources.1 hs
    have hheld := (mem_heldProperties_iff.1 (firstOf_sublist.subset hp)).1
    refine ⟨r.attributeOf p, List.mem_map_of_mem hheld, field_id_subResourceOf _ _, ?_⟩
    rw [field_sortOrder_subResourceOf, Attribute.field_sortOrder, ← hown p hp]
    rfl

/-! ## In place and out of place -/

/-- A listing with a text input of order 3, behind an array whose items have the given order. -/
def listBy (itemOrder : Int) : Action where
  id := .null
  method := .get
  url := "/orders"
  name := "list"
  description := .text ""
  deprecated := false
  qa := false
  extensions := {}
  body := none
  success := none
  parameters := [
    (.query, {
      name := "ids"
      schema := {
        type := some "array"
        items := some { type := some "string", extensions := { sortOrder := itemOrder } } }
      isRequired := false
      qa := false }),
    (.query, {
      name := "status"
      schema := { type := some "string", extensions := { sortOrder := 3 } }
      isRequired := false
      qa := false })]

/-- A resource of lines that state their order, listed by an array and by text. -/
def orderListed (itemOrder : Int) : Resource := .make "Order" {
  type := some "object"
  properties := some [("lines", {
    type := some "array"
    items := some { type := some "object", extensions := { isSubResource := true } }
    extensions := { sortOrder := 4 } })]
  } false [listBy itemOrder]

theorem sortedActions_orderListed (itemOrder : Int) :
    (orderListed itemOrder).sortedActions = [listBy itemOrder] := by
  cbv

/-- The order of the items is less than 3, as their array stands. -/
theorem reportsConsistently_orderListed :
    (Assoc.names (orderListed 2).schema.propertyList).Nodup ∧
      (orderListed 2).ReportsConsistently := by
  have hnames : (Assoc.names (orderListed 2).schema.propertyList).Nodup := by decide
  have hown : ∀ p ∈ (orderListed 2).schema.propertyList,
      p.2.sortOrder = p.2.extensions.sortOrder := by decide
  refine ⟨hnames, (reportsConsistently_iff hnames).2 ⟨fun p hp => ?_, ?_⟩⟩
  · exact hown p (mem_heldProperties_iff.1 (firstOf_sublist.subset hp)).1
  · rw [sortedActions_orderListed, List.forall_mem_singleton]
    decide

/-- An array that reports order 5 stands before the text. -/
theorem not_forall_reportsConsistently :
    ¬ ∀ r : Resource, (Assoc.names r.schema.propertyList).Nodup → r.ReportsConsistently := by
  intro h
  have hmem : (listBy 5).toValue ∈ ((orderListed 5).toValue.field "actions").items := by
    rw [items_actions, sortedActions_orderListed]
    exact List.mem_singleton_self _
  have hascending := (h (orderListed 5) (by decide)).query _ hmem
  rw [reportAscending_query_iff] at hascending
  exact absurd hascending (by decide)

end Resource

end SdkModel
