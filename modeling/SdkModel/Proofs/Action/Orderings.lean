import Mathlib.Data.List.Permutation
import SdkModel.Proofs.Action.SingleLevel

/-!
# Inputs that an ordering loses

Two options order the list of all inputs by fields. Neither is meant to drop anything, but both
do: the single level makes no entry of a pagination input with fields and one entry only of the
fields of an input that have one sort order, and the order by field enters what is not split only
where it states a sort order. `losesNothing_iff` says when nothing is lost.
-/

namespace SdkModel

namespace Attribute

variable {a b c e : Attribute}

/-! ## Entries of one field -/

/-- Which field an attribute is restricted to is told by the name and the schema of the field. -/
theorem withField_congr (hname : b.name = c.name) (hschema : b.schema = c.schema) :
    a.withField b = a.withField c := by
  rw [withField, withField, hname, hschema]

/-- The field that is left says which one was split off. -/
theorem same_of_nested_withField {required : Bool} (hc : c ∈ a.nested)
    (h : (a.withField c).nested = [{ b with isRequired := required }]) :
    c.name = b.name ∧ c.schema = b.schema := by
  obtain ⟨required', hnested⟩ := nested_withField hc
  have hsame := List.singleton_injective (hnested.symm.trans h)
  rw [mk.injEq] at hsame
  exact ⟨hsame.1, hsame.2.1⟩

/-- An entry of the input that has the field as its only one. -/
structure EntryFor (a b e : Attribute) : Prop where
  entry : ∃ c ∈ a.nested, e = a.withField c
  field : ∃ required, e.nested = [{ b with isRequired := required }]

/-- The entry for a field is the attribute restricted to it. -/
theorem entryFor_iff (h : b ∈ a.nested) : EntryFor a b e ↔ e = a.withField b := by
  constructor
  · rintro ⟨⟨c, hc, rfl⟩, required, hfield⟩
    obtain ⟨hname, hschema⟩ := same_of_nested_withField hc hfield
    exact withField_congr hname hschema
  · rintro rfl
    exact ⟨⟨b, h, rfl⟩, nested_withField h⟩

end Attribute

namespace Inputs

variable {order : Int} {a b e : Attribute} {attributes : List Attribute} {n : String}

/-! ## The single level -/

/-- Split into its fields by the single level. -/
def isSplit (a : Attribute) : Bool := !isWhole a && !a.isPagination

/-- The first field of its sort order. -/
def Leads (a b : Attribute) : Prop := a.nested.find? (·.sortOrder = b.sortOrder) = some b

theorem isSplit_eq_true_iff : isSplit a = true ↔ isWhole a = false ∧ a.isPagination = false := by
  simp [isSplit]

/-- An input that is neither a filter, a sort order nor a page is split when it has fields. -/
theorem isSplit_iff_of_plain (hfilter : a.isFilter = false) (hsort : a.isSort = false)
    (hpage : a.isPagination = false) : isSplit a = true ↔ a.nested ≠ [] := by
  simp [isSplit, isWhole, hfilter, hsort, hpage]

theorem mem_nested_of_leads (h : Leads a b) : b ∈ a.nested := List.mem_of_find?_eq_some h

/-- At a sort order a split input enters the first of its fields that has it. -/
theorem levelEntry_split {entered : List Attribute} (h : isSplit a = true) :
    levelEntry order entered a = ((a.nested.find? (·.sortOrder = order)).map a.withField).toList := by
  obtain ⟨hwhole, hpage⟩ := isSplit_eq_true_iff.1 h
  obtain ⟨-, hsort, hfilter⟩ := isWhole_eq_false_iff.1 hwhole
  simp [levelEntry, hwhole, hpage, hsort, hfilter]

/-- An entry is an input that stands for itself, or it holds the first field of a sort order. -/
theorem whole_or_leads_of_mem_levelEntry {entered : List Attribute}
    (h : e ∈ levelEntry order entered a) :
    isWhole a = true ∧ e = a ∨ isSplit a = true ∧ ∃ b, Leads a b ∧ e = a.withField b := by
  unfold levelEntry at h
  split at h
  · rename_i hwhole
    rw [Bool.and_eq_true] at hwhole
    split at h
    · exact .inl ⟨hwhole.1, List.mem_singleton.1 h⟩
    · cases h
  · split at h
    · cases h
    · rename_i hplain
      simp only [Bool.or_eq_true, not_or, Bool.not_eq_true] at hplain
      obtain ⟨⟨hfilter, hpage⟩, hsort⟩ := hplain
      rw [Option.mem_toList, Option.map_eq_some_iff] at h
      obtain ⟨b, hb, rfl⟩ := h
      have horder : b.sortOrder = order := of_decide_eq_true (List.find?_some hb :)
      have hnested := List.ne_nil_of_mem (List.mem_of_find?_eq_some hb)
      refine .inr ⟨(isSplit_iff_of_plain hfilter hsort hpage).2 hnested, b, ?_, rfl⟩
      rw [Leads, horder]
      exact hb

/-- An entry of the single level is a whole input or the leading field of a split one. -/
theorem whole_or_leads_of_mem_singleLevel (h : e ∈ singleLevel attributes) : ∃ a ∈ attributes,
    isWhole a = true ∧ e = a ∨ isSplit a = true ∧ ∃ b, Leads a b ∧ e = a.withField b := by
  obtain ⟨a, ha, order, ys, hentry⟩ := exists_levelEntry h
  exact ⟨a, ha, whole_or_leads_of_mem_levelEntry hentry⟩

section Growing

variable {α β : Type} {g : List β → α → List β} {xs : List α} {x : α}

/-- A fold that only adds keeps what it starts with. -/
theorem subset_foldl (h : ∀ ys x, ys ⊆ g ys x) (start : List β) : start ⊆ xs.foldl g start := by
  induction xs generalizing start with
  | nil => exact List.Subset.refl _
  | cons x xs ih => exact List.Subset.trans (h start x) (ih _)

/-- It keeps what it adds at each member as well. -/
theorem exists_subset_foldl (h : ∀ ys x, ys ⊆ g ys x) (hx : x ∈ xs) (start : List β) :
    ∃ ys, g ys x ⊆ xs.foldl g start := by
  induction xs generalizing start with
  | nil => cases hx
  | cons y xs ih =>
    rcases List.mem_cons.1 hx with rfl | hx
    · exact ⟨start, subset_foldl h _⟩
    · exact ih hx _

end Growing

/-- At each sort order of the level each input makes its entry beside those that stand there. -/
theorem exists_subset_singleLevel (horder : order ∈ levelOrders attributes) (ha : a ∈ attributes) :
    ∃ entered, entered ++ levelEntry order entered a ⊆ singleLevel attributes := by
  have hinner (order : Int) : ∀ (ys : List Attribute) a, ys ⊆ ys ++ levelEntry order ys a :=
    fun ys a => List.subset_append_left ys _
  obtain ⟨start, hstart⟩ := exists_subset_foldl
    (g := fun entered order => attributes.foldl
      (fun entered a => entered ++ levelEntry order entered a) entered)
    (fun ys order => subset_foldl (hinner order) ys) horder []
  obtain ⟨entered, hentered⟩ := exists_subset_foldl (hinner order) ha start
  exact ⟨entered, List.Subset.trans hentered hstart⟩

/-- A whole input is entered, or another entry has its name. -/
theorem name_mem_singleLevel_of_isWhole (ha : a ∈ attributes) (h : isWhole a = true) :
    a.name ∈ (singleLevel attributes).map (·.name) := by
  obtain ⟨entered, hsub⟩ := exists_subset_singleLevel (sortOrder_mem_levelOrders ha) ha
  by_cases hnew : entered.all (·.name ≠ a.name) = true
  · have hentry : a ∈ levelEntry a.sortOrder entered a := by
      rw [levelEntry, h, Bool.true_and, if_pos (decide_eq_true rfl), if_pos hnew]
      exact List.mem_cons_self
    exact List.mem_map_of_mem (hsub (List.mem_append_right _ hentry))
  · simp only [List.all_eq_true, decide_eq_true_eq, not_forall, not_not] at hnew
    obtain ⟨e, he, hname⟩ := hnew
    exact hname ▸ List.mem_map_of_mem (hsub (List.mem_append_left _ he))

/-- Each leading field of a split input is entered. -/
theorem withField_mem_singleLevel (ha : a ∈ attributes) (h : isSplit a = true) (hb : Leads a b) :
    a.withField b ∈ singleLevel attributes := by
  have horder := fieldOrder_mem_levelOrders ha (isSplit_eq_true_iff.1 h).1 (mem_nested_of_leads hb)
  obtain ⟨entered, hsub⟩ := exists_subset_singleLevel horder ha
  refine hsub (List.mem_append_right _ ?_)
  rw [levelEntry_split h, hb]
  exact List.mem_singleton_self _

/-- The first of the fields of a sort order stands for it. -/
theorem exists_leads (h : b ∈ a.nested) : ∃ c, Leads a c ∧ c.sortOrder = b.sortOrder := by
  have hsome : (a.nested.find? (·.sortOrder = b.sortOrder)).isSome = true :=
    List.find?_isSome.2 ⟨b, h, decide_eq_true rfl⟩
  obtain ⟨c, hc⟩ := Option.isSome_iff_exists.1 hsome
  have horder : c.sortOrder = b.sortOrder := of_decide_eq_true (List.find?_some hc :)
  exact ⟨c, by rwa [Leads, horder], horder⟩

/-- The single level has the names of the inputs but for pagination inputs with fields. -/
theorem mem_names_singleLevel_iff : n ∈ (singleLevel attributes).map (·.name) ↔
    ∃ a ∈ attributes, a.name = n ∧ (isWhole a = true ∨ a.isPagination = false) := by
  constructor
  · intro h
    obtain ⟨e, he, rfl⟩ := List.mem_map.1 h
    obtain ⟨a, ha, ⟨hwhole, rfl⟩ | ⟨hsplit, b, -, rfl⟩⟩ := whole_or_leads_of_mem_singleLevel he
    · exact ⟨e, ha, rfl, .inl hwhole⟩
    · exact ⟨a, ha, rfl, .inr (isSplit_eq_true_iff.1 hsplit).2⟩
  · rintro ⟨a, ha, rfl, hkept⟩
    cases hwhole : isWhole a with
    | true => exact name_mem_singleLevel_of_isWhole ha hwhole
    | false =>
      have hsplit : isSplit a = true :=
        isSplit_eq_true_iff.2 ⟨hwhole, hkept.resolve_left (Bool.eq_false_iff.1 hwhole)⟩
      obtain ⟨b, hb⟩ := List.exists_mem_of_ne_nil _ (isWhole_eq_false_iff.1 hwhole).1
      obtain ⟨c, hc, -⟩ := exists_leads hb
      exact List.mem_map.2 ⟨_, withField_mem_singleLevel ha hsplit hc, rfl⟩

/-- A field of a split input has an entry of its own exactly when some input that is split makes
that entry for the first field of a sort order. -/
theorem withField_mem_singleLevel_iff (ha : isSplit a = true) (hb : b ∈ a.nested) :
    a.withField b ∈ singleLevel attributes ↔ ∃ c ∈ attributes, isSplit c = true ∧
      ∃ d, Leads c d ∧ c.withField d = a.withField b := by
  constructor
  · intro h
    obtain ⟨c, hc, ⟨hwhole, heq⟩ | ⟨hsplit, d, hd, heq⟩⟩ := whole_or_leads_of_mem_singleLevel h
    · obtain ⟨-, hsort, hfilter⟩ := isWhole_eq_false_iff.1 (isSplit_eq_true_iff.1 ha).1
      have hnot : isWhole (a.withField b) = false := isWhole_eq_false_iff.2
        ⟨Attribute.nested_withField_ne_nil hb, hsort, Attribute.isFilter_withField hb hfilter⟩
      rw [heq, hwhole] at hnot
      cases hnot
    · exact ⟨c, hc, hsplit, d, hd, heq.symm⟩
  · rintro ⟨c, hc, hsplit, d, hd, heq⟩
    rw [← heq]
    exact withField_mem_singleLevel hc hsplit hd

/-! ## The order by field -/

/-- A sort order that fields are entered under: one that an input states, or that of a field of an
input that states none. -/
def IsFieldOrder (attributes : List Attribute) (order : Int) : Prop :=
  ∃ a ∈ attributes, -1 < order ∧ a.sortOrder = order ∨
    a.sortOrder = -1 ∧ ∃ b ∈ a.nested, b.sortOrder = order

/-- The order by field enters the input as it stands, or one of its fields. -/
def EntersByField (attributes : List Attribute) (a : Attribute) : Prop :=
  isWhole a = true ∧ -1 < a.sortOrder ∨ ∃ b ∈ a.nested, IsFieldOrder attributes b.sortOrder

theorem mem_statedOrders_iff :
    order ∈ statedOrders attributes ↔ -1 < order ∧ ∃ a ∈ attributes, a.sortOrder = order := by
  rw [statedOrders, mem_distinctOrders, List.mem_filter, List.mem_map, decide_eq_true_eq, and_comm]

/-- The order by field walks through these sort orders. -/
theorem mem_fieldOrders_iff : order ∈ fieldOrders attributes ↔ IsFieldOrder attributes order := by
  rw [fieldOrders, mem_distinctOrders, List.mem_append, mem_statedOrders_iff, List.mem_flatMap]
  simp only [List.mem_filter, List.mem_map, decide_eq_true_eq, IsFieldOrder]
  constructor
  · rintro (⟨hstated, a, ha, horder⟩ | ⟨a, ⟨ha, hnone⟩, hfield⟩)
    · exact ⟨a, ha, .inl ⟨hstated, horder⟩⟩
    · exact ⟨a, ha, .inr ⟨hnone, hfield⟩⟩
  · rintro ⟨a, ha, ⟨hstated, horder⟩ | ⟨hnone, hfield⟩⟩
    · exact .inl ⟨hstated, a, ha, horder⟩
    · exact .inr ⟨a, ⟨ha, hnone⟩, hfield⟩

theorem mem_plainEntries_iff : e ∈ plainEntries attributes ↔
    e ∈ attributes ∧ isWhole e = true ∧ -1 < e.sortOrder := by
  rw [plainEntries, List.mem_flatMap]
  simp only [mem_statedOrders_iff, List.mem_filter, Bool.and_eq_true, decide_eq_true_eq]
  constructor
  · rintro ⟨order, ⟨hstated, -⟩, he, hwhole, rfl⟩
    exact ⟨he, hwhole, hstated⟩
  · rintro ⟨he, hwhole, hstated⟩
    exact ⟨e.sortOrder, ⟨hstated, e, he, rfl⟩, he, hwhole, rfl⟩

/-- The order by field holds the whole inputs that state a sort order, and the fields at the orders
that it walks through. -/
theorem mem_byField_iff : e ∈ byField attributes ↔
    e ∈ attributes ∧ isWhole e = true ∧ -1 < e.sortOrder ∨
      ∃ a ∈ attributes, ∃ b ∈ a.nested, IsFieldOrder attributes b.sortOrder ∧ a.withField b = e := by
  rw [byField, List.mem_append, mem_plainEntries_iff]
  refine or_congr_right ?_
  simp only [List.mem_flatMap, List.mem_map, List.mem_filter, decide_eq_true_eq,
    mem_fieldOrders_iff]
  constructor
  · rintro ⟨order, horder, a, ha, b, ⟨hb, rfl⟩, heq⟩
    exact ⟨a, ha, b, hb, horder, heq⟩
  · rintro ⟨a, ha, b, hb, horder, heq⟩
    exact ⟨b.sortOrder, horder, a, ha, b, ⟨hb, rfl⟩, heq⟩

/-- The order by field has the names of the inputs that it enters. -/
theorem mem_names_byField_iff : n ∈ (byField attributes).map (·.name) ↔
    ∃ a ∈ attributes, a.name = n ∧ EntersByField attributes a := by
  simp only [List.mem_map, mem_byField_iff]
  constructor
  · rintro ⟨e, ⟨he, hwhole, hstated⟩ | ⟨a, ha, b, hb, horder, rfl⟩, rfl⟩
    · exact ⟨e, he, rfl, .inl ⟨hwhole, hstated⟩⟩
    · exact ⟨a, ha, rfl, .inr ⟨b, hb, horder⟩⟩
  · rintro ⟨a, ha, rfl, ⟨hwhole, hstated⟩ | ⟨b, hb, horder⟩⟩
    · exact ⟨a, .inl ⟨ha, hwhole, hstated⟩, rfl⟩
    · exact ⟨a.withField b, .inr ⟨a, ha, b, hb, horder, rfl⟩, rfl⟩

/-! ## What the orderings keep -/

variable {i : Inputs}

/-- The inputs under other options for the order, what is kept being the same. -/
def ordered (i : Inputs) (outer single : Bool) : Inputs :=
  { i with options := { i.options with flatOuter := outer, flatSingle := single } }

/-- The names of the inputs in the list of all of them. -/
def listedNames (i : Inputs) : List String := i.all.map (·.name)

/-- No option for the order loses an input, and the single level loses no field of what it
splits. -/
structure LosesNothing (i : Inputs) : Prop where
  names (outer single outer' single' : Bool) (n : String) :
    n ∈ (i.ordered outer single).listedNames ↔ n ∈ (i.ordered outer' single').listedNames
  fields (single : Bool) : ∀ a ∈ i.retained, a.isFilter = false → a.isSort = false →
    a.isPagination = false → ∀ b ∈ a.nested, ∃ e ∈ (i.ordered true single).all, a.EntryFor b e

/-- Without an ordering every input is listed. -/
theorem listedNames_unordered : n ∈ (i.ordered false false).listedNames ↔
    ∃ a ∈ i.retained, a.name = n := by
  change n ∈ (sortByOrder Attribute.sortOrder i.retained).map (·.name) ↔ _
  simp only [List.mem_map, mem_sortByOrder]

/-- The single level leaves out pagination inputs with fields, whatever the other option says. -/
theorem listedNames_outer (single : Bool) : n ∈ (i.ordered true single).listedNames ↔
    ∃ a ∈ i.retained, a.name = n ∧ (isWhole a = true ∨ a.isPagination = false) :=
  mem_names_singleLevel_iff

/-- The order by field leaves out what it does not enter. -/
theorem listedNames_single : n ∈ (i.ordered false true).listedNames ↔
    ∃ a ∈ i.retained, a.name = n ∧ EntersByField i.retained a :=
  mem_names_byField_iff

/-- The orderings list the same names when none of them leaves out the only input of a name. -/
theorem sameNames_iff : (∀ (outer single outer' single' : Bool) (n : String),
      n ∈ (i.ordered outer single).listedNames ↔ n ∈ (i.ordered outer' single').listedNames) ↔
    ∀ a ∈ i.retained,
      (∃ c ∈ i.retained, c.name = a.name ∧ (isWhole c = true ∨ c.isPagination = false)) ∧
        ∃ c ∈ i.retained, c.name = a.name ∧ EntersByField i.retained c := by
  constructor
  · intro h a ha
    have hlisted := listedNames_unordered.2 ⟨a, ha, rfl⟩
    exact ⟨(listedNames_outer false).1 ((h false false true false a.name).1 hlisted),
      listedNames_single.1 ((h false false false true a.name).1 hlisted)⟩
  · intro h
    have hunordered (outer single : Bool) (n : String) :
        n ∈ (i.ordered outer single).listedNames ↔ n ∈ (i.ordered false false).listedNames := by
      rw [listedNames_unordered]
      cases outer with
      | true =>
        rw [listedNames_outer]
        constructor
        · rintro ⟨a, ha, hname, -⟩
          exact ⟨a, ha, hname⟩
        · rintro ⟨a, ha, rfl⟩
          exact (h a ha).1
      | false =>
        cases single with
        | false => exact listedNames_unordered
        | true =>
          rw [listedNames_single]
          constructor
          · rintro ⟨a, ha, hname, -⟩
            exact ⟨a, ha, hname⟩
          · rintro ⟨a, ha, rfl⟩
            exact (h a ha).2
    intro outer single outer' single' n
    rw [hunordered outer single, hunordered outer' single']

/-- The single level keeps the fields of plain inputs when each of them is entered, by its own input
or by one that makes the same entry. -/
theorem keepsFields_iff (single : Bool) : (∀ a ∈ i.retained, a.isFilter = false →
      a.isSort = false → a.isPagination = false → ∀ b ∈ a.nested,
        ∃ e ∈ (i.ordered true single).all, a.EntryFor b e) ↔
    ∀ a ∈ i.retained, isSplit a = true → ∀ b ∈ a.nested,
      ∃ c ∈ i.retained, isSplit c = true ∧ ∃ d, Leads c d ∧ c.withField d = a.withField b := by
  have hentry {a b : Attribute} (hsplit : isSplit a = true) (hb : b ∈ a.nested) :
      (∃ e ∈ (i.ordered true single).all, a.EntryFor b e) ↔
        ∃ c ∈ i.retained, isSplit c = true ∧ ∃ d, Leads c d ∧ c.withField d = a.withField b := by
    rw [← withField_mem_singleLevel_iff hsplit hb]
    simp only [Attribute.entryFor_iff hb, exists_eq_right]
    rfl
  constructor
  · intro h a ha hsplit b hb
    obtain ⟨hwhole, hpage⟩ := isSplit_eq_true_iff.1 hsplit
    obtain ⟨-, hsort, hfilter⟩ := isWhole_eq_false_iff.1 hwhole
    exact (hentry hsplit hb).1 (h a ha hfilter hsort hpage b hb)
  · intro h a ha hfilter hsort hpage b hb
    have hsplit := (isSplit_iff_of_plain hfilter hsort hpage).2 (List.ne_nil_of_mem hb)
    exact (hentry hsplit hb).2 (h a ha hsplit b hb)

/-- Losing nothing is keeping names and keeping fields. -/
theorem losesNothing_iff_parts : i.LosesNothing ↔
    (∀ (outer single outer' single' : Bool) (n : String),
      n ∈ (i.ordered outer single).listedNames ↔ n ∈ (i.ordered outer' single').listedNames) ∧
    ∀ a ∈ i.retained, isSplit a = true → ∀ b ∈ a.nested,
      ∃ c ∈ i.retained, isSplit c = true ∧ ∃ d, Leads c d ∧ c.withField d = a.withField b :=
  ⟨fun h => ⟨h.names, (keepsFields_iff false).1 (h.fields false)⟩,
    fun h => ⟨h.1, fun single => (keepsFields_iff single).2 h.2⟩⟩

/-- **When the orderings lose nothing**: every input has the name of one that the single level
enters, which is no pagination input with fields, and of one that is entered by field, and each
field of a split input has the entry of the first field of some sort order. -/
theorem losesNothing_iff (i : Inputs) : i.LosesNothing ↔
    (∀ a ∈ i.retained,
      (∃ c ∈ i.retained, c.name = a.name ∧ (isWhole c = true ∨ c.isPagination = false)) ∧
        ∃ c ∈ i.retained, c.name = a.name ∧ EntersByField i.retained c) ∧
    ∀ a ∈ i.retained, isSplit a = true → ∀ b ∈ a.nested,
      ∃ c ∈ i.retained, isSplit c = true ∧ ∃ d, Leads c d ∧ c.withField d = a.withField b := by
  rw [losesNothing_iff_parts, sameNames_iff]

/-- The inputs of a `POST` action with the given fields in its body. -/
def ofBody (fields : List (String × Schema)) : Inputs where
  action := {
    id := .null, method := .post, url := "/things", name := "create", description := .text ""
    deprecated := false, qa := false, extensions := {}, success := none, parameters := []
    body := some { type := some "object", properties := some fields } }

/-- Text fields of the given sort orders. -/
def textFields (fields : List (String × Int)) : List (String × Schema) :=
  fields.map fun field =>
    (field.1, { type := some "string", extensions := { sortOrder := field.2 } })

/-- A line of two text fields that state no sort order. -/
def lineSchema : Schema :=
  { type := some "object", properties := some [("amount", { type := some "string" }),
      ("note", { type := some "string" })] }

/-- The second field of the line is in no entry of the single level. -/
theorem not_forall_losesNothing : ¬ ∀ i : Inputs, i.LosesNothing := by
  intro h
  let line : Attribute := ⟨"line", lineSchema, false, false⟩
  let note : Attribute := ⟨"note", { type := some "string" }, false, false⟩
  have hline : (ofBody [("line", lineSchema)]).retained = [line] := by cbv
  have hnested : line.nested = [⟨"amount", { type := some "string" }, false, false⟩, note] := by
    cbv
  have hentries : ((ofBody [("line", lineSchema)]).ordered true false).all.all
      (fun e => e.nested.all (·.name ≠ "note")) = true := by cbv
  obtain ⟨e, he, -, required, hfield⟩ := (h (ofBody [("line", lineSchema)])).fields false line
    (by rw [hline]; exact List.mem_singleton_self line) (by cbv) (by cbv) (by cbv) note
    (by rw [hnested]; exact List.mem_cons_of_mem _ (List.mem_singleton_self note))
  have hnote := List.all_eq_true.1 hentries e he
  rw [hfield] at hnote
  exact absurd hnote (by simp [note])

end Inputs

end SdkModel
