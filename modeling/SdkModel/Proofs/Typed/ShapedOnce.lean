import Mathlib.Data.List.Permutation
import SdkModel.Proofs.Action.SingleLevel
import SdkModel.Typed.Backend

/-!
# Inputs shaped once

Whether the parameters of a `POST` action are its visible body inputs, each once. An input without
fields, a filter and the sort input are shaped once. Of the other inputs those on pages are lost,
and those that are not passed as containers are repeated when their fields differ in sort order;
all others are shaped once (`shapeInputs_perm_iff`).
-/

namespace SdkModel.Typed

open Inputs

variable {classCase : String → String} {context : ShapingContext} {action : Action}
  {a e : Attribute} {es : List Attribute} {seen : List String} {n : String}

/-! ## Names -/

theorem name_wholeInput (action : Action) (e : Attribute) :
    (wholeInput action e).name = e.name := by
  rw [wholeInput]
  generalize (action.bodyParameters ++ action.queryParameters).map (·.asAttribute) = inputs
  cases hfound : (inputs.filter (·.name = e.name)).getLast? with
  | none => rfl
  | some a =>
    have ha := (List.mem_filter.1 (List.mem_of_getLast? hfound)).2
    exact of_decide_eq_true ha

theorem name_entryParameter (e : Attribute) :
    (entryParameter classCase context action e).value.name = e.name := by
  unfold entryParameter
  simp only []
  split
  · exact name_wholeInput action e
  · rfl

theorem kind_entryParameter (e : Attribute) :
    (entryParameter classCase context action e).value.kind = e.parameterKind := by
  unfold entryParameter
  simp only []
  split <;> rfl

/-- The parameters are named as the entries that they are shaped from. -/
theorem names_shapeInputs : (shapeInputs classCase context action).value.map (·.name) =
    (firstEntries [] (flatView action).all).map (·.name) := by
  unfold shapeInputs Shaped.each
  rw [List.map_map]
  exact List.map_congr_left fun e _ => name_entryParameter e

/-! ## First entries -/

theorem firstEntries_sublist (seen : List String) (es : List Attribute) :
    (firstEntries seen es).Sublist es := by
  induction es generalizing seen with
  | nil => exact List.Sublist.slnil
  | cons e es ih =>
    unfold firstEntries
    split
    · exact (ih seen).cons_cons e
    · split
      · exact (ih seen).cons e
      · exact (ih _).cons_cons e

/-- Entries that are no containers are all kept. -/
theorem filter_firstEntries_plain
    (h : ∀ e ∈ es, e.name = n → e.parameterKind.isContainer = false) :
    (firstEntries seen es).filter (·.name = n) = es.filter (·.name = n) := by
  induction es generalizing seen with
  | nil => rfl
  | cons e es ih =>
    have hes : ∀ e ∈ es, e.name = n → e.parameterKind.isContainer = false :=
      fun e he => h e (List.mem_cons_of_mem _ he)
    unfold firstEntries
    by_cases hname : e.name = n
    · rw [h e List.mem_cons_self hname]
      simp only [Bool.not_false, if_true]
      rw [List.filter_cons, List.filter_cons, ih hes]
    · have hskip : (e :: es).filter (·.name = n) = es.filter (·.name = n) :=
        List.filter_cons_of_neg (by simpa using hname)
      rw [hskip]
      split
      · rw [List.filter_cons_of_neg (by simpa using hname), ih hes]
      · split
        · exact ih hes
        · rw [List.filter_cons_of_neg (by simpa using hname), ih hes]

/-- Of containers the first is kept, unless one of its name was kept before. -/
theorem filter_firstEntries_container
    (h : ∀ e ∈ es, e.name = n → e.parameterKind.isContainer = true) :
    (firstEntries seen es).filter (·.name = n) =
      if n ∈ seen then [] else (es.filter (·.name = n)).take 1 := by
  induction es generalizing seen with
  | nil => simp [firstEntries]
  | cons e es ih =>
    have hes : ∀ e ∈ es, e.name = n → e.parameterKind.isContainer = true :=
      fun e he => h e (List.mem_cons_of_mem _ he)
    unfold firstEntries
    by_cases hname : e.name = n
    · rw [h e List.mem_cons_self hname, hname]
      by_cases hseen : n ∈ seen
      · simp only [Bool.not_true, Bool.false_eq_true, if_false, if_pos hseen]
        rw [ih hes, if_pos hseen]
      · simp only [Bool.not_true, Bool.false_eq_true, if_false, if_neg hseen]
        rw [List.filter_cons_of_pos (by simpa using hname),
          List.filter_cons_of_pos (by simpa using hname), ih hes, if_pos List.mem_cons_self]
        rfl
    · have hskip : (e :: es).filter (·.name = n) = es.filter (·.name = n) :=
        List.filter_cons_of_neg (by simpa using hname)
      rw [hskip]
      split
      · rw [List.filter_cons_of_neg (by simpa using hname), ih hes]
      · split
        · exact ih hes
        · rw [List.filter_cons_of_neg (by simpa using hname), ih hes]
          simp [List.mem_cons, Ne.symm hname]

/-! ## How often an input is shaped -/

/-- The input is shaped as one parameter. -/
def IsShapedOnce (a : Attribute) : Prop :=
  isWhole a = true ∨ a.isPagination = false ∧ (a.parameterKind.isContainer = true ∨
    ∀ b ∈ a.nested, ∀ c ∈ a.nested, b.sortOrder = c.sortOrder)

/-- A `POST` action has no query inputs, and the flat view leaves no visible body input out. -/
theorem all_flatView (hpost : action.method = .post) :
    (flatView action).all = singleLevel (flatView action).visibleBody := by
  have hquery : (flatView action).visibleQuery = [] := by
    simp [visibleQuery, flatView, Action.queryParameters, Action.declaredQuery, hpost, sortByOrder]
  have hretained : (flatView action).retained = (flatView action).visibleBody := by
    unfold retained withoutPagination
    rw [hquery, List.append_nil]
    rfl
  rw [← hretained]
  rfl

theorem entries_isContainer {inputs : List Attribute} (hnames : (inputs.map (·.name)).Nodup)
    (ha : a ∈ inputs) (he : e ∈ singleLevel inputs) (hname : e.name = a.name) :
    e.parameterKind.isContainer = a.parameterKind.isContainer := by
  obtain ⟨order, b, hb, he⟩ := exists_of_mem_singleLevel hnames he
  have hba : b = a :=
    List.inj_on_of_nodup_map hnames hb ha ((name_of_mem_ownEntry he).symm.trans hname)
  rw [parameterKind_of_mem_ownEntry he, hba]

/-- The parameters of an input come from the entries that it makes. -/
theorem filter_name_firstEntries {inputs : List Attribute} (hnames : (inputs.map (·.name)).Nodup)
    (ha : a ∈ inputs) : (firstEntries [] (singleLevel inputs)).filter (·.name = a.name) =
      if a.parameterKind.isContainer then
        ((levelOrders inputs).flatMap fun order => ownEntry order a).take 1
      else (levelOrders inputs).flatMap fun order => ownEntry order a := by
  rw [← filter_name_singleLevel hnames ha]
  split
  · rename_i hcontainer
    rw [filter_firstEntries_container fun e he hname =>
      (entries_isContainer hnames ha he hname).trans hcontainer, if_neg List.not_mem_nil]
  · rename_i hplain
    rw [Bool.not_eq_true] at hplain
    exact filter_firstEntries_plain fun e he hname =>
      (entries_isContainer hnames ha he hname).trans hplain

/-- An input has one parameter exactly when it is shaped once. -/
theorem length_filter_firstEntries_eq_one_iff {inputs : List Attribute}
    (hnames : (inputs.map (·.name)).Nodup) (ha : a ∈ inputs) :
    ((firstEntries [] (singleLevel inputs)).filter (·.name = a.name)).length = 1 ↔
      IsShapedOnce a := by
  rw [filter_name_firstEntries hnames ha]
  by_cases hwhole : isWhole a = true
  · rw [entries_whole ha hwhole, List.take_one, List.head?_cons, Option.toList_some, ite_self]
    exact iff_of_true rfl (.inl hwhole)
  rw [Bool.not_eq_true] at hwhole
  by_cases hpage : a.isPagination = true
  · rw [entries_pagination hwhole hpage]
    simp [IsShapedOnce, hwhole, hpage]
  rw [Bool.not_eq_true] at hpage
  by_cases hcontainer : a.parameterKind.isContainer = true
  · have hpos := List.length_pos_iff.2 (entries_split_ne_nil ha hwhole hpage)
    rw [if_pos hcontainer, List.length_take, Nat.min_eq_left hpos]
    exact iff_of_true rfl (.inr ⟨hpage, .inl hcontainer⟩)
  · rw [if_neg hcontainer, length_entries_split_eq_one_iff ha hwhole hpage]
    simp [IsShapedOnce, hwhole, hpage, hcontainer]

theorem count_names (n : String) (es : List Attribute) :
    (es.map (·.name)).count n = (es.filter (·.name = n)).length := by
  rw [List.count_eq_countP, List.countP_map, List.countP_eq_length_filter]
  rfl

/-- **When every input is shaped once.** The parameters of a `POST` action whose visible body inputs
have distinct names are named as these inputs, each once, exactly when each of them is shaped
once. -/
theorem shapeInputs_perm_iff (hpost : action.method = .post)
    (hnames : ((flatView action).visibleBody.map (·.name)).Nodup) :
    ((shapeInputs classCase context action).value.map (·.name)).Perm
        ((flatView action).visibleBody.map (·.name)) ↔
      ∀ a ∈ (flatView action).visibleBody, IsShapedOnce a := by
  rw [names_shapeInputs, all_flatView hpost, List.perm_iff_count]
  constructor
  · intro hcount a ha
    have hone := List.count_eq_one_of_mem hnames (List.mem_map_of_mem ha)
    rw [← hcount a.name, count_names] at hone
    exact (length_filter_firstEntries_eq_one_iff hnames ha).1 hone
  · intro honce n
    by_cases hn : n ∈ (flatView action).visibleBody.map (·.name)
    · obtain ⟨a, ha, rfl⟩ := List.mem_map.1 hn
      rw [List.count_eq_one_of_mem hnames hn, count_names]
      exact (length_filter_firstEntries_eq_one_iff hnames ha).2 (honce a ha)
    · rw [List.count_eq_zero_of_not_mem hn]
      refine List.count_eq_zero_of_not_mem fun hmem => hn ?_
      obtain ⟨e, he, rfl⟩ := List.mem_map.1 hmem
      obtain ⟨order, a, ha, he⟩ :=
        exists_of_mem_singleLevel hnames ((firstEntries_sublist _ _).subset he)
      exact List.mem_map.2 ⟨a, ha, (name_of_mem_ownEntry he).symm⟩

/-! ## Inputs that are repeated or lost -/

/-- A `POST` action with the given fields in its body. -/
def postAction (fields : List (String × Schema)) : Action where
  id := .null
  method := .post
  url := "/things"
  name := "create"
  description := .text ""
  deprecated := false
  qa := false
  extensions := {}
  body := some { type := some "object", properties := some fields }
  success := none
  parameters := []

/-- A resource without properties. -/
def bareContext : ShapingContext where
  resource := { name := "Thing", schema := {}, id := none, givenOrder := none, qa := false,
                actions := [] }

/-- Two text fields of different sort orders. -/
def twoOrders : List (String × Schema) :=
  [("a", { type := some "string", extensions := { sortOrder := 1 } }),
    ("b", { type := some "string", extensions := { sortOrder := 2 } })]

/-- A composite array with fields of two sort orders. -/
def compositeAction : Action := postAction [("lines", {
  type := some "array", items := some { type := some "object", properties := some twoOrders }
  extensions := { isCompositeArrayRequestBody := true } })]

/-- A composite array is a container, so its fields may differ in sort order. -/
theorem shapeInputs_perm_iff_composite :
    ((shapeInputs camelCase bareContext compositeAction).value.map (·.name)).Perm ["lines"] := by
  have hnames : (flatView compositeAction).visibleBody.map (·.name) = ["lines"] := by cbv
  have hkinds : (flatView compositeAction).visibleBody.all (fun a =>
      !a.isPagination && a.parameterKind.isContainer) = true := by cbv
  rw [← hnames, shapeInputs_perm_iff rfl (by rw [hnames]; decide)]
  intro a ha
  have hkind := List.all_eq_true.1 hkinds a ha
  rw [Bool.and_eq_true, Bool.not_eq_true'] at hkind
  exact .inr ⟨hkind.1, .inl hkind.2⟩

/-- An open map with fields of two sort orders, beside a pagination object. -/
def openMapAction : Action := postAction [
  ("meta", { type := some "object", additional := some (.allowed true),
             properties := some twoOrders }),
  ("page", { type := some "object", extensions := { isPaginationParameter := true }
             properties := some [("size", { type := some "integer" })] })]

/-- The open map is shaped twice, and the pagination object is lost. -/
theorem not_forall_shapeInputs_perm :
    ¬ ∀ (context : ShapingContext) (action : Action), action.method = .post →
      ((flatView action).visibleBody.map (·.name)).Nodup →
        ((backend.shapeInputs context action).value.map (·.name)).Perm
          ((flatView action).visibleBody.map (·.name)) := by
  intro h
  have hnames : (flatView openMapAction).visibleBody.map (·.name) = ["meta", "page"] := by cbv
  have hshaped : (backend.shapeInputs bareContext openMapAction).value.map (·.name) =
      ["meta", "meta"] := by
    refine names_shapeInputs.trans ?_
    cbv
  have hperm := h bareContext openMapAction rfl (by rw [hnames]; decide)
  rw [hnames, hshaped] at hperm
  exact absurd (hperm.mem_iff (a := "page")) (by decide)

end SdkModel.Typed
