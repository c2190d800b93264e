import Mathlib.Data.List.Nodup
import SdkModel.Proofs.Distinct
import SdkModel.Proofs.Attribute.WithField

/-!
# One level of inputs

The view that orders the inputs by one level of nested sort orders is filled entry by entry, and
what is entered depends on what stands there already. For inputs of distinct names it does not:
each input makes its entries on its own (`singleLevel_eq_flatMap`), and the entries of one input
are found by its name (`filter_name_singleLevel`).
-/

namespace SdkModel.Inputs

variable {order : Int} {orders : List Int} {a b e : Attribute} {attributes entered : List Attribute}

/-! ## The entries of one input -/

/-- The entry of an input at a sort order while no input of its name is entered. -/
def ownEntry (order : Int) (a : Attribute) : List Attribute := levelEntry order [] a

/-- An input stands for itself unless it has fields and is neither a filter nor the sort input. -/
theorem isWhole_eq_false_iff : isWhole a = false ↔
    a.nested ≠ [] ∧ a.isSort = false ∧ a.isFilter = false := by
  simp [isWhole, and_assoc]

/-- A whole input is entered at its own sort order. -/
theorem ownEntry_whole (h : isWhole a = true) (horder : a.sortOrder = order) :
    ownEntry order a = [a] := by
  simp [ownEntry, levelEntry, h, horder]

theorem ownEntry_whole_of_ne (h : isWhole a = true) (horder : a.sortOrder ≠ order) :
    ownEntry order a = [] := by
  rw [ownEntry, levelEntry, h, Bool.true_and, if_neg (by simpa using horder)]
  split
  · rfl
  · rename_i hsplit
    have hnested : a.nested = [] := by
      simp only [Bool.or_eq_true, not_or, Bool.not_eq_true] at hsplit
      simpa [isWhole, hsplit.1.1, hsplit.2] using h
    rw [hnested]
    rfl

/-- A pagination input with fields is entered nowhere. -/
theorem ownEntry_pagination (h : isWhole a = false) (hpage : a.isPagination = true) :
    ownEntry order a = [] := by
  simp [ownEntry, levelEntry, h, hpage]

/-- Any other input enters the first field of the sort order. -/
theorem ownEntry_split (h : isWhole a = false) (hpage : a.isPagination = false) :
    ownEntry order a = ((a.nested.find? (·.sortOrder = order)).map a.withField).toList := by
  obtain ⟨-, hsort, hfilter⟩ := isWhole_eq_false_iff.1 h
  simp [ownEntry, levelEntry, h, hpage, hsort, hfilter]

/-- The entries of an input are the input itself or are split off it. -/
theorem mem_levelEntry (h : e ∈ levelEntry order entered a) :
    e = a ∨ a.isFilter = false ∧ ∃ b ∈ a.nested, e = a.withField b := by
  unfold levelEntry at h
  split at h
  · split at h
    · exact .inl (List.mem_singleton.1 h)
    · cases h
  · split at h
    · cases h
    · rename_i hplain
      simp only [Bool.or_eq_true, not_or, Bool.not_eq_true] at hplain
      rw [Option.mem_toList, Option.map_eq_some_iff] at h
      obtain ⟨b, hb, rfl⟩ := h
      exact .inr ⟨hplain.1.1, b, List.mem_of_find?_eq_some hb, rfl⟩

/-- An entry is the input or the input restricted to one of its fields. -/
theorem mem_ownEntry (h : e ∈ ownEntry order a) :
    e = a ∨ a.isFilter = false ∧ ∃ b ∈ a.nested, e = a.withField b :=
  mem_levelEntry h

theorem name_of_mem_ownEntry (h : e ∈ ownEntry order a) : e.name = a.name := by
  obtain rfl | ⟨-, b, -, rfl⟩ := mem_ownEntry h
  · rfl
  · rfl

/-- The entries of an input are all passed as the input is. -/
theorem parameterKind_of_mem_ownEntry (h : e ∈ ownEntry order a) :
    e.parameterKind = a.parameterKind := by
  obtain rfl | ⟨hfilter, b, hb, rfl⟩ := mem_ownEntry h
  · rfl
  · exact Attribute.parameterKind_withField hb hfilter

/-- Only a whole input whose name stands there already is not entered. -/
theorem levelEntry_eq_ownEntry
    (h : isWhole a = true → a.sortOrder = order → ∀ e ∈ entered, e.name ≠ a.name) :
    levelEntry order entered a = ownEntry order a := by
  rw [ownEntry, levelEntry, levelEntry]
  split
  · rename_i hwhole
    rw [Bool.and_eq_true, decide_eq_true_eq] at hwhole
    rw [if_pos, if_pos]
    · rfl
    · simpa using h hwhole.1 hwhole.2
  · rfl

/-! ## The level as a whole -/

/-- The inputs of distinct names make their entries of one sort order on their own. -/
theorem foldl_levelEntry (hnames : (attributes.map (·.name)).Nodup)
    (h : ∀ a ∈ attributes, isWhole a = true → a.sortOrder = order →
      ∀ e ∈ entered, e.name ≠ a.name) :
    attributes.foldl (fun entered a => entered ++ levelEntry order entered a) entered =
      entered ++ attributes.flatMap (ownEntry order) := by
  induction attributes generalizing entered with
  | nil => simp
  | cons a attributes ih =>
    rw [List.map_cons, List.nodup_cons] at hnames
    rw [List.foldl_cons, List.flatMap_cons, levelEntry_eq_ownEntry (h a List.mem_cons_self),
      ih hnames.2, List.append_assoc]
    intro b hb hwhole horder e he
    rcases List.mem_append.1 he with he | he
    · exact h b (List.mem_cons_of_mem _ hb) hwhole horder e he
    · rw [name_of_mem_ownEntry he]
      intro hname
      exact hnames.1 (hname ▸ List.mem_map_of_mem hb)

/-- The same for all sort orders: a whole input is entered at its own sort order only. -/
theorem foldl_orders (hnames : (attributes.map (·.name)).Nodup) (horders : orders.Nodup)
    (h : ∀ a ∈ attributes, isWhole a = true → a.sortOrder ∈ orders →
      ∀ e ∈ entered, e.name ≠ a.name) :
    orders.foldl (fun entered order =>
        attributes.foldl (fun entered a => entered ++ levelEntry order entered a) entered) entered =
      entered ++ orders.flatMap fun order => attributes.flatMap (ownEntry order) := by
  induction orders generalizing entered with
  | nil => simp
  | cons order orders ih =>
    rw [List.nodup_cons] at horders
    have hfirst : ∀ a ∈ attributes, isWhole a = true → a.sortOrder = order →
        ∀ e ∈ entered, e.name ≠ a.name := by
      intro a ha hwhole horder
      exact h a ha hwhole (horder ▸ List.mem_cons_self)
    rw [List.foldl_cons, List.flatMap_cons, foldl_levelEntry hnames hfirst, ih horders.2,
      List.append_assoc]
    intro a ha hwhole hmem e he hname
    rcases List.mem_append.1 he with he | he
    · exact h a ha hwhole (List.mem_cons_of_mem _ hmem) e he hname
    · obtain ⟨b, hb, he⟩ := List.mem_flatMap.1 he
      have hba : b = a :=
        List.inj_on_of_nodup_map hnames hb ha ((name_of_mem_ownEntry he).symm.trans hname)
      have hne : a.sortOrder ≠ order := fun horder => horders.1 (horder ▸ hmem)
      rw [hba, ownEntry_whole_of_ne hwhole hne] at he
      cases he

theorem nodup_levelOrders (attributes : List Attribute) : (levelOrders attributes).Nodup :=
  nodup_distinctOrders _

/-- **Each input makes its entries on its own** when the names of the inputs are distinct. -/
theorem singleLevel_eq_flatMap (hnames : (attributes.map (·.name)).Nodup) :
    singleLevel attributes =
      (levelOrders attributes).flatMap fun order => attributes.flatMap (ownEntry order) := by
  have hempty : ∀ a ∈ attributes, isWhole a = true → a.sortOrder ∈ levelOrders attributes →
      ∀ e ∈ ([] : List Attribute), e.name ≠ a.name := fun _ _ _ _ _ he => nomatch he
  rw [singleLevel, foldl_orders hnames (nodup_levelOrders attributes) hempty, List.nil_append]

theorem filter_name_ownEntry (order : Int) (a : Attribute) :
    (ownEntry order a).filter (·.name = a.name) = ownEntry order a :=
  List.filter_eq_self.2 fun _ he => decide_eq_true (name_of_mem_ownEntry he)

/-- Where names are distinct, the entries of a name are those of one input. -/
theorem filter_name_flatMap (hnames : (attributes.map (·.name)).Nodup) (ha : a ∈ attributes) :
    (attributes.flatMap (ownEntry order)).filter (·.name = a.name) = ownEntry order a := by
  induction attributes with
  | nil => cases ha
  | cons b attributes ih =>
    rw [List.map_cons, List.nodup_cons] at hnames
    rw [List.flatMap_cons, List.filter_append]
    rcases List.mem_cons.1 ha with rfl | ha
    · have hrest : (attributes.flatMap (ownEntry order)).filter (·.name = a.name) = [] := by
        refine List.filter_eq_nil_iff.2 fun e he hname => ?_
        obtain ⟨b, hb, he⟩ := List.mem_flatMap.1 he
        rw [decide_eq_true_eq, name_of_mem_ownEntry he] at hname
        exact hnames.1 (hname ▸ List.mem_map_of_mem hb)
      rw [filter_name_ownEntry, hrest, List.append_nil]
    · have hfirst : (ownEntry order b).filter (·.name = a.name) = [] := by
        refine List.filter_eq_nil_iff.2 fun e he hname => ?_
        rw [decide_eq_true_eq, name_of_mem_ownEntry he] at hname
        exact hnames.1 (hname ▸ List.mem_map_of_mem ha)
      rw [hfirst, List.nil_append, ih hnames.2 ha]

/-- The entries of the level that have the name of an input are those that it makes. -/
theorem filter_name_singleLevel (hnames : (attributes.map (·.name)).Nodup) (ha : a ∈ attributes) :
    (singleLevel attributes).filter (·.name = a.name) =
      (levelOrders attributes).flatMap fun order => ownEntry order a := by
  rw [singleLevel_eq_flatMap hnames, List.filter_flatMap]
  exact List.flatMap_congr fun order _ => filter_name_flatMap hnames ha

/-- Each entry is made by one input at one sort order. -/
theorem exists_of_mem_singleLevel (hnames : (attributes.map (·.name)).Nodup)
    (he : e ∈ singleLevel attributes) : ∃ order, ∃ a ∈ attributes, e ∈ ownEntry order a := by
  rw [singleLevel_eq_flatMap hnames, List.mem_flatMap] at he
  obtain ⟨order, -, he⟩ := he
  exact ⟨order, List.mem_flatMap.1 he⟩

/-! ## Members of the level -/

theorem mem_foldl_append {α β : Type} {f : List β → α → List β} {xs : List α} {start : List β}
    {y : β} (h : y ∈ xs.foldl (fun ys x => ys ++ f ys x) start) :
    y ∈ start ∨ ∃ x ∈ xs, ∃ ys, y ∈ f ys x := by
  induction xs generalizing start with
  | nil => exact .inl h
  | cons x xs ih =>
    rw [List.foldl_cons] at h
    rcases ih h with hstart | ⟨x', hx', hy⟩
    · rcases List.mem_append.1 hstart with hstart | hnew
      · exact .inl hstart
      · exact .inr ⟨x, List.mem_cons_self, start, hnew⟩
    · exact .inr ⟨x', List.mem_cons_of_mem _ hx', hy⟩

theorem mem_foldl_orders (h : e ∈ orders.foldl (fun entered order =>
      attributes.foldl (fun entered a => entered ++ levelEntry order entered a) entered) entered) :
    e ∈ entered ∨ ∃ a ∈ attributes, ∃ order ys, e ∈ levelEntry order ys a := by
  induction orders generalizing entered with
  | nil => exact .inl h
  | cons order orders ih =>
    rcases ih h with h | h
    · rcases mem_foldl_append h with h | ⟨a, ha, ys, hentry⟩
      · exact .inl h
      · exact .inr ⟨a, ha, order, ys, hentry⟩
    · exact .inr h

/-- Every entry is made by an input, whatever the inputs are named. -/
theorem exists_levelEntry (h : e ∈ singleLevel attributes) :
    ∃ a ∈ attributes, ∃ order ys, e ∈ levelEntry order ys a := by
  rcases mem_foldl_orders h with h | h
  · cases h
  · exact h

/-- Every entry is an input or is split off one. -/
theorem mem_singleLevel (h : e ∈ singleLevel attributes) :
    ∃ a ∈ attributes, e = a ∨ ∃ b ∈ a.nested, e = a.withField b := by
  obtain ⟨a, ha, order, ys, hentry⟩ := exists_levelEntry h
  refine ⟨a, ha, ?_⟩
  rcases mem_levelEntry hentry with heq | ⟨-, hsplit⟩
  · exact .inl heq
  · exact .inr hsplit

/-! ## How many entries an input makes -/

/-- The level has the sort order of every input. -/
theorem sortOrder_mem_levelOrders (ha : a ∈ attributes) :
    a.sortOrder ∈ levelOrders attributes :=
  mem_distinctOrders.2 (List.mem_append.2 (.inr (List.mem_map_of_mem ha)))

/-- It has that of every field of a split input. -/
theorem fieldOrder_mem_levelOrders (ha : a ∈ attributes) (h : isWhole a = false)
    (hb : b ∈ a.nested) : b.sortOrder ∈ levelOrders attributes := by
  obtain ⟨-, hsort, hfilter⟩ := isWhole_eq_false_iff.1 h
  refine mem_distinctOrders.2 (List.mem_append.2 (.inl (List.mem_flatMap.2 ⟨a, ?_, ?_⟩)))
  · simp [ha, hsort, hfilter]
  · exact List.mem_map_of_mem hb

/-- A whole input is entered once. -/
theorem entries_whole (ha : a ∈ attributes) (h : isWhole a = true) :
    ((levelOrders attributes).flatMap fun order => ownEntry order a) = [a] := by
  rw [flatMap_eq_of_unique (nodup_levelOrders attributes) (sortOrder_mem_levelOrders ha)]
  · exact ownEntry_whole h rfl
  · intro order _ hne
    exact ownEntry_whole_of_ne h fun heq => hne heq.symm

/-- A pagination input with fields is not entered. -/
theorem entries_pagination (h : isWhole a = false) (hpage : a.isPagination = true) :
    (orders.flatMap fun order => ownEntry order a) = [] :=
  List.flatMap_eq_nil_iff.2 fun _ _ => ownEntry_pagination h hpage

/-- Any other input is entered once for each sort order of its fields. -/
theorem length_entries_split (h : isWhole a = false) (hpage : a.isPagination = false) :
    (orders.flatMap fun order => ownEntry order a).length =
      (orders.filter fun order => a.nested.any (·.sortOrder = order)).length := by
  induction orders with
  | nil => rfl
  | cons order orders ih =>
    rw [List.flatMap_cons, List.length_append, ih, ownEntry_split h hpage, List.filter_cons]
    cases hfind : a.nested.find? (·.sortOrder = order) with
    | none =>
      have hany : a.nested.any (·.sortOrder = order) = false :=
        List.any_eq_false.2 (List.find?_eq_none.1 hfind)
      rw [hany]
      exact Nat.zero_add _
    | some b =>
      have horder := List.find?_some hfind
      have hany : a.nested.any (·.sortOrder = order) = true :=
        List.any_eq_true.2 ⟨b, List.mem_of_find?_eq_some hfind, horder⟩
      rw [hany]
      exact Nat.add_comm _ _

/-- An input that is split makes an entry. -/
theorem entries_split_ne_nil (ha : a ∈ attributes) (h : isWhole a = false)
    (hpage : a.isPagination = false) :
    ((levelOrders attributes).flatMap fun order => ownEntry order a) ≠ [] := by
  obtain ⟨b, hb⟩ := List.exists_mem_of_ne_nil _ (isWhole_eq_false_iff.1 h).1
  have hmem : b.sortOrder ∈ (levelOrders attributes).filter
      fun order => a.nested.any (·.sortOrder = order) :=
    List.mem_filter.2 ⟨fieldOrder_mem_levelOrders ha h hb,
      List.any_eq_true.2 ⟨b, hb, decide_eq_true rfl⟩⟩
  rw [← List.length_pos_iff, length_entries_split h hpage]
  exact List.length_pos_of_mem hmem

/-- An input that is split makes one entry when its fields have one sort order. -/
theorem length_entries_split_eq_one_iff (ha : a ∈ attributes) (h : isWhole a = false)
    (hpage : a.isPagination = false) :
    ((levelOrders attributes).flatMap fun order => ownEntry order a).length = 1 ↔
      ∀ b ∈ a.nested, ∀ c ∈ a.nested, b.sortOrder = c.sortOrder := by
  have hmem (order : Int) : order ∈ ((levelOrders attributes).filter
      fun order => a.nested.any (·.sortOrder = order)) ↔ ∃ b ∈ a.nested, b.sortOrder = order := by
    rw [List.mem_filter, List.any_eq_true]
    simp only [decide_eq_true_eq, and_iff_right_iff_imp]
    rintro ⟨b, hb, rfl⟩
    exact fieldOrder_mem_levelOrders ha h hb
  have hne := entries_split_ne_nil ha h hpage
  rw [← List.length_pos_iff, length_entries_split h hpage, List.length_pos_iff] at hne
  rw [length_entries_split h hpage,
    length_eq_one_iff_of_nodup ((nodup_levelOrders attributes).filter _) hne]
  constructor
  · intro heq b hb c hc
    exact heq _ ((hmem _).2 ⟨b, hb, rfl⟩) _ ((hmem _).2 ⟨c, hc, rfl⟩)
  · intro heq x hx y hy
    obtain ⟨b, hb, rfl⟩ := (hmem x).1 hx
    obtain ⟨c, hc, rfl⟩ := (hmem y).1 hy
    exact heq b hb c hc

end SdkModel.Inputs
