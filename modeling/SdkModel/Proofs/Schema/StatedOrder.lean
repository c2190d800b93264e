import Mathlib.Order.WithBot
import SdkModel.Action.Parameter
import SdkModel.Proofs.Schema.BrokenCycles
import SdkModel.Proofs.Spec.Build
import SdkModel.Proofs.StableSort

/-!
# Stated orders

A node is listed by the order that it states. Nodes that state none come first, and nodes of one
order, or of none, keep their places among each other (`FollowsOrders`). What is sorted by, however,
is a number, and it is -1 for a node that states no order. So a list is in order exactly when no
lower order is stated beside a node that states none, and not -1 itself in front of one
(`followsOrders_sortByOrder_iff`).
-/

namespace SdkModel

/-! ## Stated orders -/

/-- The order of a node that carries the key for it. -/
def orderIfDeclared (declared : List String) (order : Int) : Option Int :=
  if "sort_order" ∈ declared then some order else none

def Schema.statedOrder? (s : Schema) : Option Int :=
  orderIfDeclared s.extensions.declared s.extensions.sortOrder

/-- An array leaves its order to its items unless it states one other than -1. -/
def Attribute.statedOrder? (a : Attribute) : Option Int :=
  let own := a.schema.statedOrder?
  if own.getD (-1) = -1 then (a.schema.arrayItems?.bind (·.statedOrder?)).or own else own

def Parameter.statedOrder? (p : Parameter) : Option Int := p.schema.statedOrder?

/-! ## Lists that follow orders -/

section Lists

variable {α : Type} {stated : α → Option Int} {key : α → Int} {source listed : List α}

/-- The list has the nodes of `source`: those that state orders in ascending order, and those of one
order or of none as they stand in `source`. -/
structure SortsStated (stated : α → Option Int) (source listed : List α) : Prop where
  perm : listed.Perm source
  ascending : ∀ a b m n, [a, b].Sublist listed → stated a = some m → stated b = some n → m ≤ n
  ties : ∀ k, listed.filter (stated · = k) = source.filter (stated · = k)

/-- Nodes that state no order come before all that state one. -/
structure FollowsOrders (stated : α → Option Int) (source listed : List α) : Prop extends
    SortsStated stated source listed where
  unstatedFirst : ∀ a b, [a, b].Sublist listed → stated b = none → stated a = none

/-- The orders that are stated beside a node without one are not taken for it: they are not below
-1, and above it where they stand in front. -/
structure ClearOrders (stated : α → Option Int) (source : List α) : Prop where
  behind : ∀ a b n, [a, b].Sublist source → stated a = none → stated b = some n → -1 ≤ n
  inFront : ∀ a b m, [a, b].Sublist source → stated a = some m → stated b = none → -1 < m

/-- Where a node stands by the order that it states. -/
def rank : Option Int → WithBot Int
  | none => ⊥
  | some n => n

theorem rank_inj {j k : Option Int} : rank j = rank k ↔ j = k := by
  cases j <;> cases k <;> simp [rank]

theorem exists_rank_eq (k : WithBot Int) : ∃ j, rank j = k := by
  induction k using WithBot.recBotCoe with
  | bot => exact ⟨none, rfl⟩
  | coe n => exact ⟨some n, rfl⟩

theorem filter_rank (xs : List α) (k : Option Int) :
    xs.filter ((rank ∘ stated) · = rank k) = xs.filter (stated · = k) :=
  List.filter_congr fun _ _ => decide_eq_decide.2 rank_inj

theorem followsOrders_iff_isStableSort :
    FollowsOrders stated source listed ↔ IsStableSort (rank ∘ stated) source listed := by
  constructor
  · intro h
    refine ⟨List.pairwise_iff_forall_sublist.2 fun {a b} hsub => ?_, fun k => ?_⟩
    · rw [Function.comp_apply, Function.comp_apply]
      cases hb : stated b with
      | none => rw [h.unstatedFirst a b hsub hb]
      | some n =>
        cases ha : stated a with
        | none => exact bot_le
        | some m => exact WithBot.coe_le_coe.2 (h.ascending a b m n hsub ha hb)
    · obtain ⟨j, rfl⟩ := exists_rank_eq k
      rw [filter_rank, filter_rank]
      exact h.ties j
  · intro h
    have hordered {a b : α} (hsub : [a, b].Sublist listed) : rank (stated a) ≤ rank (stated b) :=
      List.pairwise_iff_forall_sublist.1 h.ordered hsub
    refine ⟨⟨h.perm, fun a b m n hsub ha hb => ?_, fun k => ?_⟩, fun a b hsub hb => ?_⟩
    · have hle := hordered hsub
      rw [ha, hb] at hle
      exact WithBot.coe_le_coe.1 hle
    · rw [← filter_rank, ← filter_rank]
      exact h.ties (rank k)
    · have hle := hordered hsub
      rw [hb] at hle
      exact rank_inj.1 (le_bot_iff.1 hle)

/-- The order that a node counts for, against the one that it states. -/
theorem clearOrders_iff : ClearOrders stated source ↔ ∀ a b, [a, b].Sublist source →
    ((stated b).getD (-1) < (stated a).getD (-1) ↔ rank (stated b) < rank (stated a)) := by
  constructor
  · intro h a b hsub
    cases ha : stated a with
    | none =>
      cases hb : stated b with
      | none => exact iff_of_false (lt_irrefl _) (lt_irrefl _)
      | some n => exact iff_of_false (not_lt.2 (h.behind a b n hsub ha hb)) not_lt_bot
    | some m =>
      cases hb : stated b with
      | none => exact iff_of_true (h.inFront a b m hsub ha hb) (WithBot.bot_lt_coe m)
      | some n => exact WithBot.coe_lt_coe.symm
  · intro h
    refine ⟨fun a b n hsub ha hb => ?_, fun a b m hsub ha hb => ?_⟩
    · have hpair := h a b hsub
      rw [ha, hb] at hpair
      exact not_lt.1 fun hlt => not_lt_bot (hpair.1 hlt)
    · have hpair := h a b hsub
      rw [ha, hb] at hpair
      exact hpair.2 (WithBot.bot_lt_coe m)

section Counted

variable (hkey : ∀ x ∈ source, (stated x).getD (-1) = key x)
include hkey

/-- Taking -1 for no order keeps nodes that state orders in them, and the others as they stand. -/
theorem sortsStated_sortByOrder : SortsStated stated source (sortByOrder key source) := by
  refine ⟨sortByOrder_perm key source, fun a b m n hsub ha hb => ?_, fun k => ?_⟩
  · have hordered := (isStableSort_sortByOrder key source).ordered
    have hle := List.pairwise_iff_forall_sublist.1 hordered hsub
    have ha' := hkey a (mem_sortByOrder.1 (hsub.subset List.mem_cons_self))
    have hb' := hkey b (mem_sortByOrder.1 (hsub.subset (by simp)))
    rw [← ha', ← hb', ha, hb] at hle
    exact hle
  · rw [filter_sortByOrder]
    have hconstant : ∀ x ∈ source.filter (stated · = k), key x = k.getD (-1) := by
      intro x hx
      obtain ⟨hx, hstated⟩ := List.mem_filter.1 hx
      rw [← hkey x hx, of_decide_eq_true hstated]
    have hstands : IsStableSort key (source.filter (stated · = k)) (source.filter (stated · = k)) :=
      ⟨List.pairwise_of_forall_mem_list fun a ha b hb =>
        le_of_eq ((hconstant a ha).trans (hconstant b hb).symm), fun _ => rfl⟩
    exact hstands.eq_sortByOrder.symm

/-- A list by orders that count as -1 where none is stated. -/
theorem followsOrders_sortByOrder_iff :
    FollowsOrders stated source (sortByOrder key source) ↔ ClearOrders stated source := by
  have hsort : IsStableSort (fun x => (stated x).getD (-1)) source (sortByOrder key source) :=
    (isStableSort_sortByOrder key source).congr fun x hx => (hkey x hx).symm
  rw [followsOrders_iff_isStableSort, hsort.iff_pairs, clearOrders_iff]
  rfl

end Counted

end Lists

/-! ## Orders of built nodes -/

section Nodes

variable {es : Entries} {s i : Schema} {rules : SchemaRules} {p : String × Schema}

/-- A node without the key of the order is of order -1. -/
theorem getD_orderIfDeclared {listing : List (ExtensionField × Value)} {f : ExtensionField × Value}
    (hf : f ∈ listing) (hkey : f.1.key = "x-cb-sort-order") (hname : f.1.name = "sort_order") :
    (orderIfDeclared (declaredFields listing es)
        (Reading.field es "x-cb-sort-order" (-1) Coercion.int).value).getD (-1) =
      (Reading.field es "x-cb-sort-order" (-1) Coercion.int).value := by
  cases hhas : es.has "x-cb-sort-order" with
  | true =>
    have hdeclared : "sort_order" ∈ declaredFields listing es := by
      rw [← hname]
      refine List.mem_map_of_mem (List.mem_filter.2 ⟨hf, ?_⟩)
      rw [hkey]
      exact hhas
    rw [orderIfDeclared, if_pos hdeclared, Option.getD_some]
  | false =>
    have habsent : es.get? (.text "x-cb-sort-order") = none := by
      rw [Entries.get?, List.find?_eq_none.2]
      · rfl
      · exact List.any_eq_false.1 hhas
    rw [Reading.field, Reading.fieldUnder, habsent, orderIfDeclared]
    split <;> rfl

namespace Schema

/-- The order of a schema is -1 where it states none. -/
def ReadsOrder (s : Schema) : Prop := s.statedOrder?.getD (-1) = s.extensions.sortOrder

theorem readsOrder_of_builtFrom (h : BuiltFrom es s) : s.ReadsOrder := by
  obtain ⟨rules, depth, place, h⟩ := h
  obtain ⟨_, _, _, -, -, -, rfl⟩ := parts_of_ofEntries h
  have hf : ((⟨"x-cb-sort-order", "sort_order", ""⟩, .int (-1)) : ExtensionField × Value) ∈
      SchemaExtensions.listing {} := by simp [SchemaExtensions.listing]
  exact getD_orderIfDeclared hf rfl rfl

theorem builtFrom_of_ofProperties {depth : Nat} {place : String} {ps : Entries}
    {nodes : List (String × Schema)}
    (h : (ofProperties rules depth place ps).outcome = .ok nodes) (hp : p ∈ nodes) :
    ∃ fs, BuiltFrom fs p.2 := by
  induction ps generalizing nodes with
  | nil =>
    rw [ofProperties_nil_ok h] at hp
    cases hp
  | cons e ps ih =>
    obtain ⟨k, v⟩ := e
    cases v with
    | object fs =>
      obtain ⟨node, rest, hnode, hrest, rfl⟩ := ofProperties_cons_ok h
      rcases List.mem_cons.1 hp with rfl | hp
      · exact ⟨fs, _, _, _, hnode⟩
      · exact ih hrest hp
    | _ =>
      rw [ofProperties_cons_skip (fun _ => Value.noConfusion)] at h
      exact ih h hp

theorem builtFrom_property (h : BuiltFrom es s) (hp : p ∈ s.propertyList) :
    ∃ fs, BuiltFrom fs p.2 := by
  obtain ⟨rules, depth, place, h⟩ := h
  obtain ⟨properties, _, _, hproperties, -, -, rfl⟩ := parts_of_ofEntries h
  have hp : p ∈ properties.getD [] := hp
  cases hmap : es.get "properties" <;> rw [hmap] at hproperties
  case object ps =>
    obtain ⟨qs, hqs, rfl⟩ := Logged.map_ok_iff.1 hproperties
    exact builtFrom_of_ofProperties hqs (Assoc.mem_of_mem_ofPairs hp)
  all_goals
    obtain rfl := Except.ok.inj hproperties
    cases hp

theorem builtFrom_items (h : BuiltFrom es s) (hi : s.items = some i) : ∃ fs, BuiltFrom fs i := by
  obtain ⟨rules, depth, place, h⟩ := h
  obtain ⟨_, _, items, -, -, hitems, rfl⟩ := parts_of_ofEntries h
  have hi : items = some i := hi
  cases hnode : es.get "items" <;> rw [hnode] at hitems
  case object sub =>
    obtain ⟨node, hnode, hsome⟩ := Logged.map_ok_iff.1 hitems
    obtain rfl := Option.some.inj (hsome.trans hi)
    exact ⟨sub, _, _, _, hnode⟩
  all_goals
    obtain rfl := Except.ok.inj hitems
    cases hi

theorem items_of_arrayItems? (hi : s.arrayItems? = some i) : s.items = some i := by
  rw [arrayItems?] at hi
  split at hi
  · exact hi
  · cases hi

theorem builtFrom_itemsOrSelf (h : BuiltFrom es s) : ∃ fs, BuiltFrom fs s.itemsOrSelf := by
  rw [itemsOrSelf]
  cases hi : s.arrayItems? with
  | none => exact ⟨es, h⟩
  | some i => exact builtFrom_items h (items_of_arrayItems? hi)

end Schema

/-- An attribute counts for the order that it states, or for -1. -/
theorem Attribute.getD_statedOrder? {a : Attribute} (h : Schema.BuiltFrom es a.schema) :
    a.statedOrder?.getD (-1) = a.sortOrder := by
  have hown : a.schema.statedOrder?.getD (-1) = a.schema.extensions.sortOrder :=
    Schema.readsOrder_of_builtFrom h
  rw [statedOrder?, sortOrder, Schema.sortOrder, Schema.itemExtensions?, hown]
  by_cases hnone : a.schema.extensions.sortOrder = -1
  · rw [if_pos hnone, if_pos hnone]
    cases hi : a.schema.arrayItems? with
    | none => exact hown
    | some i =>
      obtain ⟨fs, hfs⟩ := Schema.builtFrom_items h (Schema.items_of_arrayItems? hi)
      have hitem : i.statedOrder?.getD (-1) = i.extensions.sortOrder :=
        Schema.readsOrder_of_builtFrom hfs
      rw [Option.map_some, Option.map_some, Option.getD_some, Option.bind_some, ← hitem]
      cases i.statedOrder? with
      | none => exact hown.trans hnone
      | some n => rfl
  · rw [if_neg hnone, if_neg hnone, hown]

end Nodes

end SdkModel
