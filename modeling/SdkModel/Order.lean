/-!
# Order

Nodes are listed by a sort order or by name. Both sorts are stable, so nodes of one sort order keep
the order in which they were met.
-/

namespace SdkModel

/-- The list in ascending order of a key, equal ones in the order they had. -/
def sortByOrder {α : Type} (key : α → Int) (xs : List α) : List α :=
  xs.mergeSort fun a b => key a ≤ key b

/-- The list in ascending order of a name, by code points. -/
def sortByName {α : Type} (name : α → String) (xs : List α) : List α :=
  xs.mergeSort fun a b => name a ≤ name b

def sortTexts (xs : List String) : List String := sortByName id xs

/-- The numbers of a list, each once and in ascending order. -/
def distinctOrders (xs : List Int) : List Int := sortByOrder id xs.eraseDups

theorem sortByOrder_perm {α : Type} (key : α → Int) (xs : List α) :
    (sortByOrder key xs).Perm xs := List.mergeSort_perm _ _

theorem sortByName_perm {α : Type} (name : α → String) (xs : List α) :
    (sortByName name xs).Perm xs := List.mergeSort_perm _ _

theorem mem_sortByOrder {α : Type} {key : α → Int} {xs : List α} {a : α} :
    a ∈ sortByOrder key xs ↔ a ∈ xs := (sortByOrder_perm key xs).mem_iff

end SdkModel
