import Mathlib.Data.List.Nodup
import SdkModel.Order

/-!
# Sorted lists

Sorting commutes with changing members in what they are not sorted by. A list sorted by name is
known by its members where no two of them have one name (`sortByName_eq_of_perm`), so that the
order that its members came in is lost, and sorting and filtering commute (`sortByName_filter`).
-/

namespace SdkModel

variable {α : Type} {name : α → String} {xs ys : List α}

theorem sortByOrder_map {β : Type} (key : β → Int) (f : α → β) (xs : List α) :
    sortByOrder key (xs.map f) = (sortByOrder (fun a => key (f a)) xs).map f := by
  unfold sortByOrder
  exact (List.map_mergeSort (f := f) fun _ _ _ _ => rfl).symm

theorem sortByName_map {β : Type} (name : β → String) (f : α → β) (xs : List α) :
    sortByName name (xs.map f) = (sortByName (fun a => name (f a)) xs).map f := by
  unfold sortByName
  exact (List.map_mergeSort (f := f) fun _ _ _ _ => rfl).symm

theorem pairwise_sortByName (name : α → String) (xs : List α) :
    (sortByName name xs).Pairwise fun a b => name a ≤ name b := by
  have htrans (a b c : α) (hab : decide (name a ≤ name b) = true)
      (hbc : decide (name b ≤ name c) = true) : decide (name a ≤ name c) = true :=
    decide_eq_true (String.le_trans (of_decide_eq_true hab) (of_decide_eq_true hbc))
  have htotal (a b : α) : (decide (name a ≤ name b) || decide (name b ≤ name a)) = true := by
    rw [Bool.or_eq_true, decide_eq_true_eq, decide_eq_true_eq]
    exact String.le_total _ _
  exact (List.pairwise_mergeSort htrans htotal xs).imp of_decide_eq_true

/-- Lists in order of distinct names are equal when they have the same members. -/
theorem eq_of_perm_of_pairwise_name (h : xs.Perm ys) (hnames : (xs.map name).Nodup)
    (hxs : xs.Pairwise fun a b => name a ≤ name b)
    (hys : ys.Pairwise fun a b => name a ≤ name b) : xs = ys := by
  refine List.Perm.eq_of_pairwise (fun a b ha hb hab hba => ?_) hxs hys h
  exact List.inj_on_of_nodup_map hnames ha (h.mem_iff.2 hb) (String.le_antisymm hab hba)

theorem nodup_sortByName (hnames : (xs.map name).Nodup) : ((sortByName name xs).map name).Nodup :=
  ((sortByName_perm name xs).map name).nodup_iff.2 hnames

/-- The order of members of distinct names does not show in the sorted list. -/
theorem sortByName_eq_of_perm (h : xs.Perm ys) (hnames : (xs.map name).Nodup) :
    sortByName name xs = sortByName name ys :=
  eq_of_perm_of_pairwise_name
    ((sortByName_perm name xs).trans (h.trans (sortByName_perm name ys).symm))
    (nodup_sortByName hnames) (pairwise_sortByName name xs) (pairwise_sortByName name ys)

theorem sortByName_filter (p : α → Bool) (hnames : (xs.map name).Nodup) :
    sortByName name (xs.filter p) = (sortByName name xs).filter p := by
  refine eq_of_perm_of_pairwise_name ?_ (nodup_sortByName ?_) (pairwise_sortByName name _)
    ((pairwise_sortByName name xs).filter p)
  · exact (sortByName_perm name _).trans ((sortByName_perm name xs).symm.filter p)
  · exact hnames.sublist (List.filter_sublist.map name)

end SdkModel
