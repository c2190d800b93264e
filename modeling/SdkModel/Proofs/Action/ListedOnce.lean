import Mathlib.Data.List.Flatten
import Mathlib.Data.List.Perm.Subperm
import SdkModel.Proofs.Action.Pagination
import SdkModel.Proofs.StableSort

/-!
# Inputs that a view lists twice

A view joins selections of the inputs and sorts what it has, so an input of two selections is
listed twice. For inputs of distinct names this happens to the sort input only: the query view adds
it to the query inputs that it is one of, and the composite view adds it to the composite arrays
though it may be one (`listsEachOnce_iff`).
-/

namespace SdkModel.Inputs

variable {i : Inputs} {attributes : List Attribute}

/-! ## Inputs and their fields -/

/-- Each input with each of its nested fields. -/
def fieldPairs (attributes : List Attribute) : List (Attribute × Attribute) :=
  attributes.flatMap fun a => a.nested.map (a, ·)

/-- The entry of an input that has the field only. -/
def fieldEntry (pair : Attribute × Attribute) : Attribute := pair.1.withField pair.2

theorem mem_fieldPairs_iff {pair : Attribute × Attribute} :
    pair ∈ fieldPairs attributes ↔ pair.1 ∈ attributes ∧ pair.2 ∈ pair.1.nested := by
  rw [fieldPairs, List.mem_flatMap]
  constructor
  · rintro ⟨a, ha, hpair⟩
    obtain ⟨b, hb, rfl⟩ := List.mem_map.1 hpair
    exact ⟨ha, hb⟩
  · rintro ⟨ha, hb⟩
    exact ⟨pair.1, ha, List.mem_map.2 ⟨pair.2, hb, rfl⟩⟩

/-- Splitting inputs into their fields enters the pairs of input and field by the sort orders of the
fields. -/
theorem splitFields_eq (attributes : List Attribute) : splitFields attributes =
    (sortByOrder (·.2.sortOrder) (fieldPairs attributes)).map fieldEntry := by
  have horder (order : Int) :
      (attributes.flatMap fun a => (a.nested.filter (·.sortOrder = order)).map a.withField) =
        ((fieldPairs attributes).filter (·.2.sortOrder = order)).map fieldEntry := by
    rw [fieldPairs, List.filter_flatMap, List.map_flatMap]
    refine List.flatMap_congr fun a _ => ?_
    rw [List.filter_map, List.map_map]
    rfl
  have hcover : ∀ pair ∈ fieldPairs attributes, pair.2.sortOrder ∈ nestedOrders attributes := by
    intro pair hpair
    obtain ⟨ha, hb⟩ := mem_fieldPairs_iff.1 hpair
    exact mem_distinctOrders.2 (List.mem_flatMap.2 ⟨pair.1, ha, List.mem_map_of_mem hb⟩)
  simp only [splitFields, horder]
  rw [← List.map_flatMap]
  exact congrArg (List.map fieldEntry)
    (isStableSort_gathered (pairwise_distinctOrders _) hcover).eq_sortByOrder

/-- It enters each pair of input and field once. -/
theorem splitFields_perm (attributes : List Attribute) :
    (splitFields attributes).Perm ((fieldPairs attributes).map fieldEntry) := by
  rw [splitFields_eq]
  exact (sortByOrder_perm _ _).map _

/-- As many entries have the name of an input as it has fields. -/
theorem countP_fieldEntries (name : String) (attributes : List Attribute) :
    ((fieldPairs attributes).map fieldEntry).countP (·.name = name) =
      ((attributes.filter (·.name = name)).flatMap (·.nested)).length := by
  induction attributes with
  | nil => rfl
  | cons a attributes ih =>
    have hname (pair : Attribute × Attribute) (hpair : pair ∈ a.nested.map (a, ·)) :
        (fieldEntry pair).name = a.name := by
      obtain ⟨b, -, rfl⟩ := List.mem_map.1 hpair
      rfl
    rw [fieldPairs, List.flatMap_cons, List.map_append, List.countP_append, List.countP_map]
    by_cases h : a.name = name
    · have hall : (a.nested.map (a, ·)).countP ((fun e => decide (e.name = name)) ∘ fieldEntry) =
          (a.nested.map (a, ·)).length :=
        List.countP_eq_length.2 fun pair hpair => decide_eq_true ((hname pair hpair).trans h)
      rw [hall, List.length_map, List.filter_cons, if_pos (decide_eq_true h), List.flatMap_cons,
        List.length_append]
      exact congrArg (a.nested.length + ·) ih
    · have hnone : (a.nested.map (a, ·)).countP ((fun e => decide (e.name = name)) ∘ fieldEntry) =
          0 := by
        refine List.countP_eq_zero.2 fun pair hpair hentry => h ?_
        exact (hname pair hpair).symm.trans (of_decide_eq_true hentry)
      rw [hnone, Nat.zero_add, List.filter_cons, if_neg (by simpa using h)]
      exact ih

/-! ## Views without repetitions -/

/-- Each view lists every input at most once, and the composite view every pair of input and field
where it is split. -/
structure ListsEachOnce (i : Inputs) : Prop where
  body : (i.body.map (·.name)).Nodup
  query : (i.query.map (·.name)).Nodup
  singular : (i.singularFields.map (·.name)).Nodup
  composite : i.options.flatMulti = false → (i.multiFields.map (·.name)).Nodup
  fields : i.options.flatMulti = true →
    i.multiFields.Subperm ((fieldPairs (i.visibleQuery ++ i.visibleBody)).map fieldEntry)
  all : i.options.flatOuter = false → i.options.flatSingle = false →
    (i.all.map (·.name)).Nodup

/-- The declared inputs have distinct names. -/
def DistinctInputs (a : Action) : Prop :=
  ((a.declaredQuery ++ a.declaredBody).map (·.name)).Nodup

theorem nodup_names_visible (h : DistinctInputs i.action) :
    ((i.visibleQuery ++ i.visibleBody).map (·.name)).Nodup := by
  have hsub : (i.visibleQuery ++ i.visibleBody).Sublist
      ((i.action.queryParameters ++ i.action.bodyParameters).map (·.asAttribute)) := by
    rw [List.map_append]
    exact List.filter_sublist.append List.filter_sublist
  have hperm : (i.action.queryParameters ++ i.action.bodyParameters).Perm
      (i.action.declaredQuery ++ i.action.declaredBody) :=
    (sortByOrder_perm _ _).append (sortByOrder_perm _ _)
  refine List.Nodup.sublist (hsub.map (·.name)) ?_
  rw [List.map_map]
  exact (hperm.map _).nodup_iff.2 h

theorem nodup_names_sorted :
    ((sortByOrder Attribute.sortOrder attributes).map (·.name)).Nodup ↔
      (attributes.map (·.name)).Nodup :=
  ((sortByOrder_perm _ attributes).map _).nodup_iff

theorem withoutPagination_eq_filter (i : Inputs) (enough : Bool) (attributes : List Attribute) :
    ∃ kept : Attribute → Bool,
      i.withoutPagination enough attributes = attributes.filter kept := by
  unfold withoutPagination
  split
  · exact ⟨_, rfl⟩
  · exact ⟨fun _ => true, (List.filter_eq_self.2 fun _ _ => rfl).symm⟩

/-- Inputs are retained in the order in which they are declared, body before query. -/
theorem retained_sublist (i : Inputs) : i.retained.Sublist (i.visibleBody ++ i.visibleQuery) := by
  have hkept : i.keptForAll.Sublist (i.visibleBody ++ i.visibleQuery) := by
    unfold keptForAll
    split
    · exact List.Sublist.refl _
    · exact List.filter_sublist
  obtain ⟨kept, hfilter⟩ := i.withoutPagination_eq_filter i.options.onlyPagination i.keptForAll
  rw [retained_eq, hfilter]
  exact List.filter_sublist.trans hkept

/-- Without an ordering the inputs are sorted by their own order. -/
theorem all_unordered (houter : i.options.flatOuter = false) (hsingle : i.options.flatSingle = false) :
    i.all = sortByOrder Attribute.sortOrder i.retained := by
  rw [all, houter, hsingle, if_neg Bool.false_ne_true, if_neg Bool.false_ne_true]

theorem nodup_names_all (h : DistinctInputs i.action) (houter : i.options.flatOuter = false)
    (hsingle : i.options.flatSingle = false) : (i.all.map (·.name)).Nodup := by
  rw [all_unordered houter hsingle, nodup_names_sorted]
  refine List.Nodup.sublist (i.retained_sublist.map _) ?_
  exact (List.perm_append_comm.map _).nodup_iff.1 (nodup_names_visible h)

/-- No name is listed twice among the body parameters. -/
theorem nodup_names_body (h : DistinctInputs i.action) : (i.body.map (·.name)).Nodup := by
  rw [body, nodup_names_sorted]
  exact (nodup_names_visible h).sublist
    ((List.filter_sublist.trans (List.sublist_append_right _ _)).map _)

/-! ## The query view -/

/-- The query view lists each input once unless it keeps a sort input of the query. -/
theorem nodup_names_query_iff (h : DistinctInputs i.action) : (i.query.map (·.name)).Nodup ↔
    (i.options.sortBy = true → ∀ a ∈ i.visibleQuery, a.isSort = true → a ∉ i.query) := by
  obtain ⟨kept, hkept⟩ := i.withoutPagination_eq_filter false i.countedForQuery
  have hquery : i.query.Perm (i.countedForQuery.filter kept) := by
    rw [← hkept]
    exact sortByOrder_perm _ _
  have hparts : ((i.visibleQuery ++ i.visibleBody.filter (·.isFilter)).filter kept).map (·.name)
      |>.Nodup :=
    (nodup_names_visible h).sublist
      ((List.filter_sublist.trans (List.filter_sublist.append_left _)).map _)
  rw [List.filter_append] at hparts
  rw [(hquery.map _).nodup_iff, countedForQuery, List.filter_append, List.filter_append,
    nodup_keys_repeated_iff hparts]
  · cases i.options.sortBy with
    | false => simp
    | true =>
      simp only [if_true, List.filter_filter, List.filter_eq_nil_iff, Bool.and_eq_true, not_and,
        forall_const]
      refine forall₂_congr fun a ha => ?_
      have hmem : a ∈ i.query ↔ kept a = true := by
        rw [hquery.mem_iff, List.mem_filter, mem_countedForQuery]
        exact and_iff_right (List.mem_append_left _ ha)
      rw [hmem]
      exact imp_not_comm
  · refine List.filter_subset _ ?_
    split
    · exact List.filter_sublist.subset
    · exact List.nil_subset _

theorem name_ne_of_query_of_body (h : DistinctInputs i.action) {a b : Attribute} (ha : a ∈ i.query)
    (hb : b ∈ i.body) : a.name ≠ b.name := by
  obtain ⟨hb, hplain⟩ := List.mem_filter.1 (mem_sortByOrder.1 hb)
  rw [Bool.and_eq_true, Bool.not_eq_true', Bool.not_eq_true'] at hplain
  have hnames := nodup_names_visible h
  rw [List.map_append, List.nodup_append] at hnames
  obtain ⟨-, hbody, hdisjoint⟩ := hnames
  have ha := (mem_countedForQuery a).1 (mem_withoutPagination.1 ((mem_query_iff a).1 ha)).1
  rcases List.mem_append.1 ha with ha | ha
  · exact hdisjoint _ (List.mem_map_of_mem ha) _ (List.mem_map_of_mem hb)
  · obtain ⟨ha, hfilter⟩ := List.mem_filter.1 ha
    intro hname
    obtain rfl := List.inj_on_of_nodup_map hbody ha hb hname
    rw [hplain.2] at hfilter
    cases hfilter

/-- What the singular view has twice the query view has twice: no input is in the body as well. -/
theorem nodup_names_singularFields (h : DistinctInputs i.action)
    (hquery : (i.query.map (·.name)).Nodup) : (i.singularFields.map (·.name)).Nodup := by
  refine List.Nodup.sublist (List.filter_sublist.map _) (nodup_names_sorted.2 ?_)
  refine List.Nodup.sublist (List.filter_sublist.map _) ?_
  rw [List.map_append, List.nodup_append]
  refine ⟨hquery.sublist (List.filter_sublist.map _),
    (nodup_names_body h).sublist (List.filter_sublist.map _), fun n hn m hm => ?_⟩
  obtain ⟨a, ha, rfl⟩ := List.mem_map.1 hn
  obtain ⟨b, hb, rfl⟩ := List.mem_map.1 hm
  exact name_ne_of_query_of_body h (List.mem_filter.1 ha).1 (List.mem_filter.1 hb).1

/-! ## The composite view -/

/-- The sort input with fields, where the composite view adds it. -/
def isAddedSort (i : Inputs) (a : Attribute) : Bool :=
  i.options.sortBy && (a.isSort && !a.nested.isEmpty)

/-- The inputs of the composite view before they are split. -/
def compositeInputs (i : Inputs) : List Attribute :=
  (i.visibleQuery ++ i.visibleBody).filter (·.isComposite) ++
    (i.visibleQuery ++ i.visibleBody).filter i.isAddedSort

theorem multiFields_eq (i : Inputs) : i.multiFields = sortByOrder Attribute.sortOrder
    (if i.options.flatMulti then splitFields i.compositeInputs else i.compositeInputs) := by
  have hsorts : (if i.options.sortBy then
      (i.visibleQuery ++ i.visibleBody).filter fun a => a.isSort && !a.nested.isEmpty else []) =
        (i.visibleQuery ++ i.visibleBody).filter i.isAddedSort := by
    unfold isAddedSort
    cases i.options.sortBy with
    | true => rfl
    | false => exact (List.filter_eq_nil_iff.2 fun _ _ => Bool.false_ne_true).symm
  rw [multiFields, hsorts, compositeInputs]

/-- A composite input is listed twice when it is the sort input that is added. -/
theorem nodup_names_compositeInputs_iff (h : DistinctInputs i.action) :
    (i.compositeInputs.map (·.name)).Nodup ↔
      ∀ a ∈ i.visibleQuery ++ i.visibleBody, a.isComposite = true → i.isAddedSort a = false :=
  nodup_keys_filter_append_iff (nodup_names_visible h)

theorem nodup_names_multiFields_iff (h : DistinctInputs i.action)
    (hflat : i.options.flatMulti = false) : (i.multiFields.map (·.name)).Nodup ↔
      ∀ a ∈ i.visibleQuery ++ i.visibleBody, a.isComposite = true → i.isAddedSort a = false := by
  rw [multiFields_eq, hflat, if_neg Bool.false_ne_true, nodup_names_sorted,
    nodup_names_compositeInputs_iff h]

theorem fieldEntries_subperm {xs ys : List Attribute} (h : xs.Subperm ys) :
    ((fieldPairs xs).map fieldEntry).Subperm ((fieldPairs ys).map fieldEntry) := by
  obtain ⟨zs, hperm, hsub⟩ := h
  exact ((hperm.symm.flatMap_right _).map _).subperm.trans ((hsub.flatMap _).map _).subperm

/-- A composite array that is added once more has all its entries twice. -/
theorem fieldEntries_subperm_iff (h : DistinctInputs i.action)
    (hflat : i.options.flatMulti = true) :
    i.multiFields.Subperm ((fieldPairs (i.visibleQuery ++ i.visibleBody)).map fieldEntry) ↔
      ∀ a ∈ i.visibleQuery ++ i.visibleBody, a.isComposite = true → i.isAddedSort a = false := by
  have hentries : i.multiFields.Perm ((fieldPairs i.compositeInputs).map fieldEntry) := by
    rw [multiFields_eq, hflat, if_pos rfl]
    exact (sortByOrder_perm _ _).trans (splitFields_perm _)
  have hnames := nodup_names_visible h
  constructor
  · intro hsub a ha hcomposite
    by_contra hadded
    rw [Bool.not_eq_false] at hadded
    have honce (p : Attribute → Bool) (hp : p a = true) :
        (((i.visibleQuery ++ i.visibleBody).filter p).filter (·.name = a.name)) = [a] :=
      filter_key_of_nodup (hnames.sublist (List.filter_sublist.map _))
        (List.mem_filter.2 ⟨ha, hp⟩)
    -- Both selections have the array, the inputs have it once: count the entries of its name.
    have hcount := (hentries.symm.subperm.trans hsub).countP_le (·.name = a.name)
    rw [countP_fieldEntries, countP_fieldEntries, compositeInputs, List.filter_append,
      honce _ hcomposite, honce _ hadded, filter_key_of_nodup hnames ha] at hcount
    have hfields : a.nested = [] := by
      refine List.length_eq_zero_iff.1 ?_
      simp only [List.flatMap_cons, List.flatMap_nil, List.cons_append, List.nil_append,
        List.append_nil, List.length_append] at hcount
      omega
    simp [isAddedSort, hfields] at hadded
  · intro hdisjoint
    have hnodup := ((nodup_names_compositeInputs_iff h).2 hdisjoint).of_map
    have hsub : i.compositeInputs ⊆ i.visibleQuery ++ i.visibleBody :=
      List.append_subset.2 ⟨List.filter_sublist.subset, List.filter_sublist.subset⟩
    exact hentries.subperm.trans (fieldEntries_subperm (hnodup.subperm hsub))

/-! ## All views -/

theorem composite_notAdded_iff : (∀ a ∈ i.visibleQuery ++ i.visibleBody,
      a.isComposite = true → i.isAddedSort a = false) ↔
    (i.options.sortBy = true → ∀ a ∈ i.visibleQuery ++ i.visibleBody,
      a.isComposite = true → a.isSort = true → a.nested = []) := by
  unfold isAddedSort
  cases i.options.sortBy with
  | false => simp
  | true => simp

/-- Both composite views list everything once under one condition. -/
theorem composite_or_fields_iff (h : DistinctInputs i.action) :
    ((i.options.flatMulti = false → (i.multiFields.map (·.name)).Nodup) ∧
      (i.options.flatMulti = true →
        i.multiFields.Subperm ((fieldPairs (i.visibleQuery ++ i.visibleBody)).map fieldEntry))) ↔
    (i.options.sortBy = true → ∀ a ∈ i.visibleQuery ++ i.visibleBody,
      a.isComposite = true → a.isSort = true → a.nested = []) := by
  rw [← composite_notAdded_iff]
  cases hflat : i.options.flatMulti with
  | false => simp [nodup_names_multiFields_iff h hflat]
  | true => simp [fieldEntries_subperm_iff h hflat]

/-- **When no view lists an input twice**: the declared names being distinct, the query view must
not keep a sort input that is a query parameter, and no composite array with fields may be the sort
input, where the options add it. -/
theorem listsEachOnce_iff (h : DistinctInputs i.action) : i.ListsEachOnce ↔
    (i.options.sortBy = true →
      (∀ a ∈ i.visibleQuery, a.isSort = true → a ∉ i.query) ∧
        ∀ a ∈ i.visibleQuery ++ i.visibleBody,
          a.isComposite = true → a.isSort = true → a.nested = []) := by
  rw [imp_and, ← nodup_names_query_iff h, ← composite_or_fields_iff h]
  constructor
  · exact fun hviews => ⟨hviews.query, hviews.composite, hviews.fields⟩
  · rintro ⟨hquery, hcomposite, hfields⟩
    exact ⟨nodup_names_body h, hquery, nodup_names_singularFields h hquery, hcomposite, hfields,
      nodup_names_all h⟩

/-- A page of things by status: no view has anything twice. -/
theorem listsEachOnce_statusList :
    let i := ofQuery [("limit", limitSchema), ("status", { type := some "string" })]
      { sortBy := true, pagination := true }
    DistinctInputs i.action ∧ i.ListsEachOnce := by
  intro i
  have hvisible : i.visibleQuery ++ i.visibleBody = [⟨"limit", limitSchema, false, false⟩,
      ⟨"status", { type := some "string" }, false, false⟩] := by cbv
  have hsort : ∀ a ∈ i.visibleQuery ++ i.visibleBody, a.isSort = false := by
    rw [hvisible]
    decide
  have hdistinct : DistinctInputs i.action := by
    have hnames : (i.action.declaredQuery ++ i.action.declaredBody).map (·.name) =
        ["limit", "status"] := by cbv
    rw [DistinctInputs, hnames]
    decide
  refine ⟨hdistinct, (listsEachOnce_iff hdistinct).2 fun _ => ⟨fun a ha hsorted => ?_,
    fun a ha _ hsorted => ?_⟩⟩
  · rw [hsort a (List.mem_append_left _ ha)] at hsorted
    cases hsorted
  · rw [hsort a ha] at hsorted
    cases hsorted

/-- A sort input that is kept is listed twice. -/
theorem not_forall_listsEachOnce :
    ¬ ∀ i : Inputs, DistinctInputs i.action → i.ListsEachOnce := by
  intro h
  let i := ofQuery [("sort_by", { type := some "string" })] { sortBy := true }
  have hnames : (i.action.declaredQuery ++ i.action.declaredBody).map (·.name) = ["sort_by"] := by
    cbv
  have hdistinct : DistinctInputs i.action := by
    rw [DistinctInputs, hnames]
    exact List.nodup_singleton _
  have hquery : i.query.map (·.name) = ["sort_by", "sort_by"] := by cbv
  have honce := (h i hdistinct).query
  rw [hquery] at honce
  exact absurd honce (by decide)

end SdkModel.Inputs
