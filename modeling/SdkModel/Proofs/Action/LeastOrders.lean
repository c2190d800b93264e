import SdkModel.Proofs.Action.ListedOnce
import SdkModel.Proofs.Action.Orderings

/-!
# Inputs in order of their least sort order

An input with fields comes up at each of their sort orders. Two views list inputs in the order in
which they first come up: the consolidated view, and the names of the single level. Where the inputs
have distinct names, both go through the sort orders to the same effect as one stable sort, by the
least sort order of the fields (`consolidated_eq_sortByOrder`) and by that at which the level enters
an input (`eraseDups_listedNames`).
-/

namespace SdkModel

namespace Attribute

variable {a : Attribute}

/-- The least sort order of the nested fields, `0` without any. -/
def leastFieldOrder (a : Attribute) : Int := (a.nested.map sortOrder).min?.getD 0

theorem isLeast_leastFieldOrder (h : a.nested ≠ []) :
    IsLeast {k | ∃ b ∈ a.nested, b.sortOrder = k} a.leastFieldOrder := by
  have hsome : (a.nested.map sortOrder).min? ≠ none := by
    rw [Ne, List.min?_eq_none_iff, List.map_eq_nil_iff]
    exact h
  obtain ⟨k, hk⟩ := Option.ne_none_iff_exists'.1 hsome
  obtain ⟨hmem, hleast⟩ := List.min?_eq_some_iff.1 hk
  rw [leastFieldOrder, hk, Option.getD_some]
  refine ⟨List.mem_map.1 hmem, ?_⟩
  rintro l ⟨b, hb, rfl⟩
  exact hleast _ (List.mem_map_of_mem hb)

end Attribute

namespace Inputs

variable {i : Inputs} {attributes : List Attribute} {a : Attribute} {order : Int}

/-! ## The consolidated view -/

theorem isLeast_nestedOrders (ha : a ∈ attributes) (h : a.nested ≠ []) :
    IsLeast {k | k ∈ nestedOrders attributes ∧ a.nested.any (·.sortOrder = k) = true}
      a.leastFieldOrder := by
  have hset : {k | k ∈ nestedOrders attributes ∧ a.nested.any (·.sortOrder = k) = true} =
      {k | ∃ b ∈ a.nested, b.sortOrder = k} := by
    ext k
    simp only [Set.mem_ofPred_eq, List.any_eq_true, decide_eq_true_eq, and_iff_right_iff_imp]
    rintro ⟨b, hb, rfl⟩
    exact mem_distinctOrders.2 (List.mem_flatMap.2 ⟨a, ha, List.mem_map_of_mem hb⟩)
  rw [hset]
  exact Attribute.isLeast_leastFieldOrder h

/-- The names by field are those of the inputs with fields, by the least order of the fields. -/
theorem namesByField_eq (hnames : (attributes.map (·.name)).Nodup) : namesByField attributes =
    (sortByOrder Attribute.leastFieldOrder (attributes.filter (!·.nested.isEmpty))).map
      (·.name) := by
  unfold namesByField
  rw [← List.map_flatMap]
  refine eraseDups_entered (pairwise_distinctOrders _) hnames (fun a ha hfields => ?_)
    fun a _ hnone k _ => ?_
  · exact isLeast_nestedOrders ha (by simpa using hfields)
  · have hempty : a.nested = [] := by simpa using hnone
    rw [hempty, List.any_nil]

theorem nodup_names_retained (h : ((i.visibleBody ++ i.visibleQuery).map (·.name)).Nodup) :
    (i.retained.map (·.name)).Nodup :=
  h.sublist (i.retained_sublist.map _)

/-- **The consolidated view is a stable sort** of the inputs that hold sub-resources, by the least
sort order of their fields. -/
theorem consolidated_eq_sortByOrder
    (hnames : ((i.visibleBody ++ i.visibleQuery).map (·.name)).Nodup)
    (houter : i.options.flatOuter = false) (hsingle : i.options.flatSingle = false) :
    i.consolidated = sortByOrder Attribute.leastFieldOrder
      (i.all.filter fun a => (a.isSubResource || a.hasSubResourceField) && !a.nested.isEmpty) := by
  let holders := i.all.filter fun a => a.isSubResource || a.hasSubResourceField
  have hholders : (holders.map (·.name)).Nodup := by
    refine List.Nodup.sublist (List.filter_sublist.map _) ?_
    rw [all_unordered houter hsingle, nodup_names_sorted]
    exact nodup_names_retained hnames
  have hsub : sortByOrder Attribute.leastFieldOrder (holders.filter (!·.nested.isEmpty)) ⊆
      holders :=
    List.Subset.trans (sortByOrder_perm _ _).subset List.filter_sublist.subset
  calc
    i.consolidated =
        (namesByField holders).flatMap fun name => holders.filter (·.name = name) := rfl
    _ = sortByOrder Attribute.leastFieldOrder (holders.filter (!·.nested.isEmpty)) := by
      rw [namesByField_eq hholders, flatMap_filter_key_of_nodup hholders hsub]
    _ = _ := by
      rw [List.filter_filter]
      exact congrArg _ (List.filter_congr fun a _ => Bool.and_comm _ _)

/-- A sub-resource of the given sort order with text fields. -/
def subResourceOf (sortOrder : Int) (fields : List (String × Int)) : Schema :=
  { type := some "object", properties := some (textFields fields)
    extensions := { isSubResource := true, sortOrder } }

/-- Of three sub-resources the one without fields is left out, and the second one comes first,
since it has a field before all fields of the first one. -/
theorem consolidated_eq_sortByOrder_checkout :
    let i : Inputs := {
      ofBody [("card", subResourceOf 1 [("number", 2), ("cvv", 5)]),
        ("address", subResourceOf 2 [("zip", 4), ("line", 1)]), ("gift", subResourceOf 3 [])] with
      options := { subResources := true } }
    ((i.visibleBody ++ i.visibleQuery).map (·.name)).Nodup ∧ i.options.flatOuter = false ∧
      i.options.flatSingle = false ∧
      i.consolidated = sortByOrder Attribute.leastFieldOrder (i.all.filter fun a =>
        (a.isSubResource || a.hasSubResourceField) && !a.nested.isEmpty) ∧
      i.consolidated.map (·.name) = ["address", "card"] := by
  intro i
  have hvisible : (i.visibleBody ++ i.visibleQuery).map (·.name) = ["card", "address", "gift"] := by
    cbv
  have hnames : ((i.visibleBody ++ i.visibleQuery).map (·.name)).Nodup := by
    rw [hvisible]
    decide
  exact ⟨hnames, rfl, rfl, consolidated_eq_sortByOrder hnames rfl rfl, by cbv⟩

/-! ## The names of the single level -/

/-- The sort order at which the single level first enters an input: its own when it stands for
itself, and the least one of its fields otherwise. -/
def levelKey (a : Attribute) : Int := if isWhole a then a.sortOrder else a.leastFieldOrder

/-- The input makes an entry at the sort order. -/
def entersAt (order : Int) (a : Attribute) : Bool := !(ownEntry order a).isEmpty

theorem entersAt_whole (h : isWhole a = true) : entersAt order a = decide (a.sortOrder = order) := by
  by_cases horder : a.sortOrder = order
  · simp [entersAt, ownEntry_whole h horder, horder]
  · simp [entersAt, ownEntry_whole_of_ne h horder, horder]

theorem entersAt_pagination (h : isWhole a = false) (hpage : a.isPagination = true) :
    entersAt order a = false := by
  rw [entersAt, ownEntry_pagination h hpage]
  rfl

theorem entersAt_split (h : isWhole a = false) (hpage : a.isPagination = false) :
    entersAt order a = a.nested.any (·.sortOrder = order) := by
  rw [entersAt, ownEntry_split h hpage, ← List.isSome_find?]
  cases a.nested.find? (·.sortOrder = order) with
  | none => rfl
  | some b => rfl

/-- At a sort order an input makes one entry at most, of its own name. -/
theorem names_ownEntry (order : Int) (a : Attribute) :
    (ownEntry order a).map (·.name) = if entersAt order a then [a.name] else [] := by
  cases hwhole : isWhole a with
  | true =>
    by_cases horder : a.sortOrder = order
    · rw [entersAt, ownEntry_whole hwhole horder]
      rfl
    · rw [entersAt, ownEntry_whole_of_ne hwhole horder]
      rfl
  | false =>
    cases hpage : a.isPagination with
    | true =>
      rw [entersAt, ownEntry_pagination hwhole hpage]
      rfl
    | false =>
      rw [entersAt, ownEntry_split hwhole hpage]
      cases a.nested.find? (·.sortOrder = order) with
      | none => rfl
      | some b => rfl

theorem names_ownEntries (order : Int) (attributes : List Attribute) :
    (attributes.flatMap (ownEntry order)).map (·.name) =
      (attributes.filter (entersAt order)).map (·.name) := by
  induction attributes with
  | nil => rfl
  | cons a attributes ih =>
    rw [List.flatMap_cons, List.map_append, ih, names_ownEntry, List.filter_cons]
    split
    · rfl
    · rfl

theorem isLeast_levelOrders (ha : a ∈ attributes) (h : (isWhole a || !a.isPagination) = true) :
    IsLeast {k | k ∈ levelOrders attributes ∧ entersAt k a = true} (levelKey a) := by
  cases hwhole : isWhole a with
  | true =>
    have hset : {k | k ∈ levelOrders attributes ∧ entersAt k a = true} = {a.sortOrder} := by
      ext k
      simp only [entersAt_whole hwhole, Set.mem_ofPred_eq, decide_eq_true_eq, Set.mem_singleton_iff]
      constructor
      · exact fun hk => hk.2.symm
      · rintro rfl
        exact ⟨sortOrder_mem_levelOrders ha, rfl⟩
    rw [hset, levelKey, hwhole]
    exact isLeast_singleton
  | false =>
    have hpage : a.isPagination = false := by simpa [hwhole] using h
    have hset : {k | k ∈ levelOrders attributes ∧ entersAt k a = true} =
        {k | ∃ b ∈ a.nested, b.sortOrder = k} := by
      ext k
      simp only [entersAt_split hwhole hpage, Set.mem_ofPred_eq, List.any_eq_true,
        decide_eq_true_eq, and_iff_right_iff_imp]
      rintro ⟨b, hb, rfl⟩
      exact fieldOrder_mem_levelOrders ha hwhole hb
    rw [hset, levelKey, hwhole]
    exact Attribute.isLeast_leastFieldOrder (isWhole_eq_false_iff.1 hwhole).1

/-- The names of the level are those of the inputs that it enters, by the order of entering. -/
theorem eraseDups_names_singleLevel (hnames : (attributes.map (·.name)).Nodup) :
    ((singleLevel attributes).map (·.name)).eraseDups =
      (sortByOrder levelKey (attributes.filter fun a => isWhole a || !a.isPagination)).map
        (·.name) := by
  have hentries : (singleLevel attributes).map (·.name) =
      ((levelOrders attributes).flatMap fun order => attributes.filter (entersAt order)).map
        (·.name) := by
    rw [singleLevel_eq_flatMap hnames, List.map_flatMap, List.map_flatMap]
    exact List.flatMap_congr fun order _ => names_ownEntries order attributes
  rw [hentries]
  refine eraseDups_entered (pairwise_distinctOrders _) hnames (fun a ha h => ?_)
    fun a _ hnone order _ => ?_
  · exact isLeast_levelOrders ha h
  · rw [Bool.or_eq_false_iff, Bool.not_eq_false'] at hnone
    exact entersAt_pagination hnone.1 hnone.2

/-- **The names of the single level are in stable order** of the sort orders at which the level
enters the inputs. All retained inputs are there but for pagination inputs that would be split. -/
theorem eraseDups_listedNames (hnames : ((i.visibleBody ++ i.visibleQuery).map (·.name)).Nodup)
    (houter : i.options.flatOuter = true) :
    i.listedNames.eraseDups =
      (sortByOrder levelKey (i.retained.filter fun a => isWhole a || !a.isPagination)).map
        (·.name) := by
  rw [listedNames, all, houter, if_pos rfl]
  exact eraseDups_names_singleLevel (nodup_names_retained hnames)

/-- The line comes up twice, for the first time before the note; the page is left out. -/
theorem eraseDups_listedNames_invoice :
    let i : Inputs := {
      ofBody [("note", { type := some "string", extensions := { sortOrder := 2 } }),
        ("line", { type := some "object"
                   properties := some (textFields [("amount", 3), ("sku", 1)])
                   extensions := { sortOrder := 9 } }),
        ("page", { type := some "object", properties := some (textFields [("size", 0)])
                   extensions := { isPaginationParameter := true } })] with
      options := { flatOuter := true, pagination := true, onlyPagination := true } }
    ((i.visibleBody ++ i.visibleQuery).map (·.name)).Nodup ∧ i.options.flatOuter = true ∧
      i.listedNames.eraseDups =
        (sortByOrder levelKey (i.retained.filter fun a => isWhole a || !a.isPagination)).map
          (·.name) ∧
      i.retained.map (·.name) = ["page", "note", "line"] ∧
      i.listedNames = ["line", "note", "line"] := by
  intro i
  have hvisible : (i.visibleBody ++ i.visibleQuery).map (·.name) = ["page", "note", "line"] := by
    cbv
  have hnames : ((i.visibleBody ++ i.visibleQuery).map (·.name)).Nodup := by
    rw [hvisible]
    decide
  exact ⟨hnames, rfl, eraseDups_listedNames hnames rfl, by cbv, by cbv⟩

end Inputs

end SdkModel
