import Mathlib.Data.List.Forall2
import SdkModel.Proofs.Action.ListedOnce
import SdkModel.Proofs.Action.Orderings
import SdkModel.Proofs.Order

/-!
# Composite arrays field by field

The composite view splits each composite array into one entry per nested field. It goes through the
sort orders of all fields and sorts what it has by the inputs, which comes to one sort by both
orders: the entries are those of the pairs of an input and one of its fields, the pairs in order of
the input and then of the field (`multiFields_isFlattened`).
-/

namespace SdkModel.Inputs

variable {i : Inputs} {attributes : List Attribute} {pair : Attribute × Attribute}

/-! ## Entries of pairs -/

/-- The sort order of the input, and behind it that of the field. -/
def bothOrders (pair : Attribute × Attribute) : ℤ ×ₗ ℤ :=
  toLex (pair.1.sortOrder, pair.2.sortOrder)

/-- The entry has the name of the input and holds the field as its only one. -/
structure Exposes (pair : Attribute × Attribute) (entry : Attribute) : Prop where
  name : entry.name = pair.1.name
  field : ∃ required, entry.nested = [{ pair.2 with isRequired := required }]

/-- The entries are those of the pairs of an input and one of its fields, each pair once, in order
of both sort orders. Pairs that agree in both stand as the inputs do, and then as the fields of an
input do. -/
def IsFlattened (inputs entries : List Attribute) : Prop :=
  ∃ pairs, IsStableSort bothOrders (fieldPairs inputs) pairs ∧ List.Forall₂ Exposes pairs entries

theorem exposes_fieldEntry (h : pair ∈ fieldPairs attributes) : Exposes pair (fieldEntry pair) :=
  ⟨rfl, Attribute.nested_withField (mem_fieldPairs_iff.1 h).2⟩

/-- An entry keeps the sort order of its input. -/
theorem sortOrder_fieldEntry (h : pair ∈ fieldPairs attributes) :
    (fieldEntry pair).sortOrder = pair.1.sortOrder :=
  Attribute.sortOrder_withField (mem_fieldPairs_iff.1 h).2

/-- Splitting inputs by the orders of the fields and sorting the entries sorts the pairs by both
orders. -/
theorem isFlattened_splitFields (attributes : List Attribute) :
    IsFlattened attributes (sortByOrder Attribute.sortOrder (splitFields attributes)) := by
  let pairs := fieldPairs attributes
  let byField := sortByOrder (fun pair => pair.2.sortOrder) pairs
  let byInput := sortByOrder (fun pair => (fieldEntry pair).sortOrder) byField
  have hfield : IsStableSort (fun pair => pair.2.sortOrder) pairs byField :=
    isStableSort_sortByOrder _ _
  have hinput : IsStableSort (fun pair => pair.1.sortOrder) byField byInput :=
    (isStableSort_sortByOrder _ _).congr fun pair hpair =>
      sortOrder_fieldEntry (hfield.perm.mem_iff.1 hpair)
  have hpairs : IsStableSort bothOrders pairs byInput := hfield.lex hinput
  refine ⟨byInput, hpairs, ?_⟩
  rw [splitFields_eq, sortByOrder_map, List.forall₂_map_right_iff, List.forall₂_same]
  exact fun pair hpair => exposes_fieldEntry (hpairs.perm.mem_iff.1 hpair)

/-! ## The composite view -/

/-- The visible composite arrays, query first. -/
def compositeArrays (i : Inputs) : List Attribute :=
  (i.visibleQuery ++ i.visibleBody).filter (·.isComposite)

theorem compositeInputs_of_not_sortBy (h : i.options.sortBy = false) :
    i.compositeInputs = i.compositeArrays := by
  have hadded : (i.visibleQuery ++ i.visibleBody).filter i.isAddedSort = [] := by
    refine List.filter_eq_nil_iff.2 fun a _ => ?_
    simp [isAddedSort, h]
  rw [compositeInputs, hadded, List.append_nil, compositeArrays]

/-- **The composite view has each composite array field by field**, in order of both sort orders. -/
theorem multiFields_isFlattened (hflat : i.options.flatMulti = true)
    (hsort : i.options.sortBy = false) : IsFlattened i.compositeArrays i.multiFields := by
  rw [multiFields_eq, hflat, if_pos rfl, compositeInputs_of_not_sortBy hsort]
  exact isFlattened_splitFields i.compositeArrays

/-- A composite array of the given sort order with text fields. -/
def compositeOf (sortOrder : Int) (fields : List (String × Int)) : Schema :=
  { type := some "array"
    items := some { type := some "object", properties := some (textFields fields) }
    extensions := { isCompositeArrayRequestBody := true, sortOrder } }

/-- The fields of the lines stand before those of the prices, though one of them has the greatest
sort order of all fields. -/
theorem multiFields_isFlattened_order :
    let i := ofBody [("prices", compositeOf 2 [("amount", 1), ("currency", 0)]),
      ("lines", compositeOf 1 [("note", 5), ("sku", 0), ("unit", 0)])]
    i.options.flatMulti = true ∧ i.options.sortBy = false ∧
      IsFlattened i.compositeArrays i.multiFields ∧
      i.multiFields.map (fun entry => (entry.name, entry.nested.map (·.name))) =
        [("lines", ["sku"]), ("lines", ["unit"]), ("lines", ["note"]), ("prices", ["currency"]),
          ("prices", ["amount"])] := by
  intro i
  exact ⟨rfl, rfl, multiFields_isFlattened rfl rfl, by cbv⟩

end SdkModel.Inputs
