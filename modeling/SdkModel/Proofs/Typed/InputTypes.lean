import SdkModel.Proofs.Typed.Redaction

/-!
# Types of attributes and of inputs

The type of an input is the type that an attribute with its schema has when no object is a filter,
but for money that is sent as text: as an attribute it is text, as an input an integer
(`valueType_eq`). The two maps agree on a schema that is no such money and, where the items decide,
has no items that only one of the maps takes for text (`valueType_eq_name_iff`).
-/

namespace SdkModel.Typed

variable {classCase : String → String} {s : Schema} {hint : String}
  {filter filter' : Option String} {textItems textItems' : Bool}

/-- A money column of type text. -/
def IsMoneyText (s : Schema) : Prop := s.shape = .string ∧ isMoney s = true

/-- Neither the schema itself nor a nested model in it decides the type of a value, so its items
do. -/
structure ItemsDecide (s : Schema) : Prop where
  plain : plainType? s = none
  openMap : (s.shape = .object && s.isOpenMap) = false
  freeItems : hasFreeItems s = false
  modelList : isModelList s = false
  model : isModel s = false

/-- The items of a schema are text as inputs. -/
def hasTextInputs (classCase : String → String) (s : Schema) (hint : String) : Bool :=
  s.items.any fun i => valueType classCase i hint == textType

/-- The type of an attribute that is a filter with the name of the type of text. -/
def textFilter : TypeDescriptor := ⟨.filter, textType⟩

/-! ## Attributes -/

/-- Where the items decide, an attribute is a list of text, a filter or of any type. -/
theorem typeWith_of_itemsDecide (h : ItemsDecide s) :
    typeWith classCase filter textItems false s hint =
      if textItems then pure ⟨.list, listOf textType⟩ else pure (filterOrAny filter) := by
  have hmap : ¬ (s.shape = .object && s.isOpenMap && hint ≠ sortAttribute) = true := by
    rw [h.openMap]
    exact Bool.false_ne_true
  simp only [typeWith, h.plain, hmap, h.freeItems, h.modelList, h.model, if_false,
    Bool.false_eq_true]

/-- Where they do not, the type depends neither on them nor on filters. -/
theorem typeWith_of_not_itemsDecide (hhint : hint ≠ sortAttribute) (h : ¬ ItemsDecide s) :
    typeWith classCase filter textItems false s hint =
      typeWith classCase filter' textItems' false s hint := by
  unfold typeWith
  split
  · rfl
  next hplain =>
  split
  · rfl
  next hmap =>
  split
  · rfl
  next hfree =>
  split
  · rfl
  next hlist =>
  split
  · rfl
  next hmodel =>
  simp only [hhint, ne_eq, not_false_eq_true, decide_true, Bool.and_true, Bool.not_eq_true] at *
  exact absurd ⟨hplain, hmap, hfree, hlist, hmodel⟩ h

/-- Money that is a text is typed as one in columns. -/
theorem plainDataType_of_isMoneyText (h : IsMoneyText s) :
    plainDataType classCase s hint = ⟨.primitive, textType⟩ := by
  have hplain : plainType? s = some textType := by rw [plainType?, if_pos h.1]
  rw [plainDataType, dataType_eq, typeWith, hplain]
  rfl

/-- Where the items decide, a column is a list of texts or a filter. -/
theorem plainDataType_of_itemsDecide (h : ItemsDecide s) :
    plainDataType classCase s hint =
      if hasTextItems classCase s hint then ⟨.list, listOf textType⟩
      else filterOrAny (namedFilter? s hint) := by
  rw [plainDataType, dataType_eq, typeWith_of_itemsDecide h]
  split <;> rfl

/-! ## Inputs -/

/-- As an input the same money is an integer. -/
theorem valueType_of_isMoneyText (h : IsMoneyText s) : valueType classCase s hint = intType := by
  rw [valueType, if_pos h.2]

/-- An input has the type of an attribute that is no filter. -/
theorem valueType_eq (hhint : hint ≠ sortAttribute) (h : ¬ IsMoneyText s) :
    valueType classCase s hint =
      (typeWith classCase none (hasTextInputs classCase s hint) false s hint).value.name := by
  rw [valueType]
  by_cases hmoney : isMoney s = true
  · have hshape : s.shape ≠ .string := fun hshape => h ⟨hshape, hmoney⟩
    rw [if_pos hmoney, typeWith, plainType?, if_neg hshape, if_pos hmoney]
    rfl
  rw [if_neg hmoney]
  -- Without a filter every branch holds its name, and the branches come in the same order.
  simp only [typeWith, plainType?, hmoney, hhint, ne_eq, not_false_eq_true, decide_true,
    Bool.and_true]
  rw [hasTextInputs]
  cases s.shape
  all_goals try rfl
  all_goals
    simp only [reduceCtorEq, if_false, apply_ite Shaped.value, apply_ite TypeDescriptor.name,
      Bool.false_eq_true]
    cases s.items <;> rfl

/-- Where the items decide, an input is a list of texts or of anything. -/
theorem valueType_of_itemsDecide (hhint : hint ≠ sortAttribute) (h : ItemsDecide s) :
    valueType classCase s hint =
      if hasTextInputs classCase s hint then listOf textType else anyType := by
  have hmoney : ¬ IsMoneyText s := by
    intro hmoney
    have hplain := h.plain
    rw [plainType?, if_pos hmoney.1] at hplain
    cases hplain
  rw [valueType_eq hhint hmoney, typeWith_of_itemsDecide h]
  split <;> rfl

/-- Unless items or filters decide, inputs and attributes have one type. -/
theorem valueType_eq_name (hhint : hint ≠ sortAttribute) (hmoney : ¬ IsMoneyText s)
    (h : ¬ ItemsDecide s) :
    valueType classCase s hint = (plainDataType classCase s hint).name := by
  rw [valueType_eq hhint hmoney, plainDataType, dataType_eq, typeWith_of_not_itemsDecide hhint h]

/-! ## Text -/

/-- Only a schema whose items decide is a filter. -/
theorem itemsDecide_of_filter (hhint : hint ≠ sortAttribute)
    (h : (plainDataType classCase s hint).kind = .filter) : ItemsDecide s := by
  by_contra hitems
  have hsame : typeWith classCase (namedFilter? s hint) (hasTextItems classCase s hint) false s
      hint = typeWith classCase none false false s hint :=
    typeWith_of_not_itemsDecide hhint hitems
  rw [plainDataType, dataType_eq, hsame, typeWith] at h
  repeat' split at h
  all_goals cases h

/-- A schema that is text as an attribute and not as an input. -/
def IsDisputed (classCase : String → String) (s : Schema) (hint : String) : Prop :=
  IsMoneyText s ∨ plainDataType classCase s hint = textFilter

theorem valueType_ne_text_of_itemsDecide (hhint : hint ≠ sortAttribute) (h : ItemsDecide s) :
    valueType classCase s hint ≠ textType := by
  rw [valueType_of_itemsDecide hhint h]
  split <;> decide

theorem valueType_ne_text_of_isDisputed (hhint : hint ≠ sortAttribute)
    (h : IsDisputed classCase s hint) : valueType classCase s hint ≠ textType := by
  rcases h with hmoney | hfilter
  · rw [valueType_of_isMoneyText hmoney]
    decide
  · apply valueType_ne_text_of_itemsDecide hhint
    apply itemsDecide_of_filter hhint
    rw [hfilter]
    rfl

/-- A column is a text when the input is one, and where both are disputed. -/
theorem name_eq_text_iff (hhint : hint ≠ sortAttribute) :
    (plainDataType classCase s hint).name = textType ↔
      valueType classCase s hint = textType ∨ IsDisputed classCase s hint := by
  constructor
  · intro hname
    by_cases hmoney : IsMoneyText s
    · exact .inr (.inl hmoney)
    by_cases hitems : ItemsDecide s
    · -- A list of text is not text, nor is a value of any type, so this is a filter.
      right
      right
      rw [plainDataType_of_itemsDecide hitems] at hname ⊢
      split at hname
      · exact absurd hname (by decide)
      next hlist =>
      rw [if_neg hlist]
      cases hfilter : namedFilter? s hint with
      | none =>
        rw [hfilter] at hname
        exact absurd hname (by decide)
      | some name =>
        rw [hfilter] at hname
        exact congrArg (TypeDescriptor.mk .filter) hname
    · left
      rw [valueType_eq_name hhint hmoney hitems, hname]
  · rintro (hvalue | hmoney | hfilter)
    · have hmoney : ¬ IsMoneyText s := fun hmoney =>
        valueType_ne_text_of_isDisputed hhint (.inl hmoney) hvalue
      have hitems : ¬ ItemsDecide s := fun hitems =>
        valueType_ne_text_of_itemsDecide hhint hitems hvalue
      rw [← valueType_eq_name hhint hmoney hitems, hvalue]
    · rw [plainDataType_of_isMoneyText hmoney]
    · rw [hfilter]
      rfl

/-- Only attributes take the items of the schema for text. -/
def HasDisputedItems (classCase : String → String) (s : Schema) (hint : String) : Prop :=
  ∃ i, s.items = some i ∧ IsDisputed classCase i hint

/-- Items are texts in columns when they are in inputs, and where they are disputed. -/
theorem hasTextItems_iff (hhint : hint ≠ sortAttribute) :
    hasTextItems classCase s hint = true ↔
      hasTextInputs classCase s hint = true ∨ HasDisputedItems classCase s hint := by
  have hitem (i : Schema) : (dataType classCase false i hint).value.name = textType ↔
      valueType classCase i hint = textType ∨ IsDisputed classCase i hint :=
    name_eq_text_iff hhint
  simp only [hasTextItems, hasTextInputs, HasDisputedItems, Option.any_eq_true, beq_iff_eq,
    hitem, and_or_left, exists_or]

theorem not_hasTextInputs_of_disputed (hhint : hint ≠ sortAttribute)
    (h : HasDisputedItems classCase s hint) : ¬ hasTextInputs classCase s hint = true := by
  obtain ⟨i, hi, hdisputed⟩ := h
  rw [hasTextInputs, hi, Option.any_some, beq_iff_eq]
  exact valueType_ne_text_of_isDisputed hhint hdisputed

/-! ## Agreement -/

theorem valueType_ne_name_of_disputed (hhint : hint ≠ sortAttribute) (hitems : ItemsDecide s)
    (h : HasDisputedItems classCase s hint) : (plainDataType classCase s hint).kind ≠ .filter ∧
      valueType classCase s hint ≠ (plainDataType classCase s hint).name := by
  have hlist : hasTextItems classCase s hint = true := (hasTextItems_iff hhint).2 (.inr h)
  rw [plainDataType_of_itemsDecide hitems, valueType_of_itemsDecide hhint hitems, if_pos hlist,
    if_neg (not_hasTextInputs_of_disputed hhint h)]
  decide

theorem valueType_eq_name_of_undisputed (hhint : hint ≠ sortAttribute) (hitems : ItemsDecide s)
    (h : ¬ HasDisputedItems classCase s hint)
    (hkind : (plainDataType classCase s hint).kind ≠ .filter) :
    valueType classCase s hint = (plainDataType classCase s hint).name := by
  have htext : hasTextItems classCase s hint = true ↔ hasTextInputs classCase s hint = true :=
    (hasTextItems_iff hhint).trans (or_iff_left h)
  rw [valueType_of_itemsDecide hhint hitems]
  rw [plainDataType_of_itemsDecide hitems] at hkind ⊢
  by_cases hlist : hasTextInputs classCase s hint = true
  · rw [if_pos hlist, if_pos (htext.2 hlist)]
  · rw [if_neg (mt htext.1 hlist)] at hkind ⊢
    rw [if_neg hlist]
    cases hfilter : namedFilter? s hint with
    | none => rfl
    | some name =>
      rw [hfilter] at hkind
      exact absurd rfl hkind

/-- Inputs and attributes that are no filters have one type, but for money that is sent as text and
for lists whose items only attributes take for text. -/
theorem valueType_eq_name_iff (hhint : hint ≠ sortAttribute) :
    ((plainDataType classCase s hint).kind ≠ .filter →
        valueType classCase s hint = (plainDataType classCase s hint).name) ↔
      ¬ IsMoneyText s ∧ (ItemsDecide s → ¬ HasDisputedItems classCase s hint) := by
  constructor
  · intro h
    constructor
    · intro hmoney
      rw [plainDataType_of_isMoneyText hmoney, valueType_of_isMoneyText hmoney] at h
      exact absurd (h (by decide)) (by decide)
    · intro hitems hdisputed
      obtain ⟨hkind, hne⟩ := valueType_ne_name_of_disputed hhint hitems hdisputed
      exact hne (h hkind)
  · rintro ⟨hmoney, hundisputed⟩ hkind
    by_cases hitems : ItemsDecide s
    · exact valueType_eq_name_of_undisputed hhint hitems (hundisputed hitems) hkind
    · exact valueType_eq_name hhint hmoney hitems

def textList : Schema := { type := some "array", items := some { type := some "string" } }

theorem plainDataType_text : plainDataType classCase { type := some "string" } hint =
    ⟨.primitive, textType⟩ := by
  rw [plainDataType, dataType_eq]
  rfl

theorem itemsDecide_textList : ItemsDecide textList where
  plain := rfl
  openMap := rfl
  freeItems := rfl
  modelList := by cbv
  model := by decide

theorem valueType_textList :
    valueType camelCase textList "tags" = (plainDataType camelCase textList "tags").name := by
  have htext : hasTextItems camelCase textList "tags" = true :=
    beq_iff_eq.2 (congrArg TypeDescriptor.name plainDataType_text)
  refine (valueType_eq_name_iff (by decide)).2 ⟨fun h => ?_, ?_⟩ ?_
  · exact absurd h.1 (by decide)
  · rintro - ⟨i, hi, hmoney | hfilter⟩
    · cases hi
      exact absurd hmoney.2 (by decide)
    · cases hi
      rw [plainDataType_text] at hfilter
      cases hfilter
  · rw [plainDataType_of_itemsDecide itemsDecide_textList, if_pos htext]
    decide

def textPrice : Schema := { type := some "string", extensions := { isMoneyColumn := true } }

theorem isMoneyText_textPrice : IsMoneyText textPrice := ⟨rfl, rfl⟩

/-- A price that is sent as text is text as an attribute and an integer as an input. -/
theorem not_forall_valueType_eq_name : ¬ ∀ (s : Schema) (hint : String), hint ≠ sortAttribute →
    (plainDataType camelCase s hint).kind ≠ .filter →
      valueType camelCase s hint = (plainDataType camelCase s hint).name := by
  intro h
  have heq := h textPrice "price" (by decide)
  rw [plainDataType_of_isMoneyText isMoneyText_textPrice,
    valueType_of_isMoneyText isMoneyText_textPrice] at heq
  exact absurd (heq (by decide)) (by decide)

end SdkModel.Typed
