import SdkModel.Proofs.Typed.EnumValues
import SdkModel.Proofs.Typed.SchemaOrder

/-!
# Global enums of a shape

A component schema that is a string with texts as its values becomes one global enum of the shaped
document. Its values are parted into the members and the deprecated values of the enum, in order and
with their repetitions, by the marks that the schema states (`Typed.globalEnums_of_build`). What
becomes of the marks of items where the schema has none of its own is left open.
-/

namespace SdkModel

variable {es : Entries} {s : Schema} {t : String} {ts : List String}

/-! ## Marks of a document -/

def markKey : String := "x-cb-deprecated-enum-values"

/-- The text is one of the values of a list, or it stands between the commas of a text. -/
def Value.Names (v : Value) (t : String) : Prop :=
  (∃ ts : List String, v = .list (ts.map .text) ∧ t ∈ ts) ∨
    ∃ s, v = .text s ∧ t ≠ "" ∧ ∃ piece ∈ Text.pieces ',' s, Text.trim piece = t

/-- A node marks a text as deprecated. -/
def Entries.Marks (es : Entries) (t : String) : Prop := (es.get markKey).Names t

/-- No value is marked in place of those that the node marks: it has marks itself, or its items mark
none of its values. -/
def Entries.HasOwnMarks (es : Entries) (values : List String) : Prop :=
  (∃ t, es.Marks t) ∨
    ∀ items : Entries, es.get "items" = .object items → ∀ t ∈ values, ¬ items.Marks t

namespace Coercion

theorem itemFaults_texts (ts : List String) (start : Nat) :
    itemFaults text start (ts.map .text) = [] := by
  induction ts generalizing start with
  | nil => rfl
  | cons t ts ih => exact ih (start + 1)

/-- A list that is read as texts without faults is one of texts. -/
theorem eq_texts_of_itemFaults {vs : List Value} {start : Nat}
    (h : itemFaults text start vs = []) : ∃ ts : List String, vs = ts.map .text := by
  induction vs generalizing start with
  | nil => exact ⟨[], rfl⟩
  | cons v vs ih =>
    rw [itemFaults, List.append_eq_nil_iff] at h
    obtain ⟨ts, rfl⟩ := ih h.2
    cases v with
    | text t => exact ⟨t :: ts, rfl⟩
    | _ => cases h.1

theorem list_texts (ts : List String) : list text (.list (ts.map .text)) = .ok ts := by
  rw [list, itemFaults_texts]
  refine congrArg Except.ok ?_
  induction ts with
  | nil => rfl
  | cons t ts ih => exact congrArg (t :: ·) ih

/-- The values that are read of a mark are those that it names. -/
theorem mem_markedValues {v : Value} {us : List String} (h : markedValues v = .ok us) :
    t ∈ us ↔ v.Names t := by
  cases v with
  | null =>
    cases h
    refine iff_of_false List.not_mem_nil ?_
    rintro (⟨ts, hts, -⟩ | ⟨s, hs, -⟩)
    · cases hts
    · cases hs
  | text s =>
    cases h
    rw [List.mem_filter, List.mem_map, decide_eq_true_eq]
    constructor
    · rintro ⟨hpiece, hne⟩
      exact .inr ⟨s, rfl, hne, hpiece⟩
    · rintro (⟨ts, hts, -⟩ | ⟨_, ⟨⟩, hne, hpiece⟩)
      · cases hts
      · exact ⟨hpiece, hne⟩
  | list vs =>
    have hlist : list text (.list vs) = .ok us := h
    have hfaults : itemFaults text 0 vs = [] := by
      rw [list] at hlist
      split at hlist
      · assumption
      · cases hlist
    obtain ⟨ts, rfl⟩ := eq_texts_of_itemFaults hfaults
    rw [list_texts] at hlist
    cases hlist
    constructor
    · intro ht
      exact .inl ⟨us, rfl, ht⟩
    · rintro (⟨ts, hts, ht⟩ | ⟨s, hs, -⟩)
      · obtain rfl : us = ts := by simpa [List.map_inj_right] using hts
        exact ht
      · cases hs
  | _ => cases h

/-- What cannot be read as marks names nothing. -/
theorem not_names_of_error {v : Value} {fs : List FieldFault} (h : markedValues v = .error fs) :
    ¬ v.Names t := by
  rintro (⟨ts, rfl, -⟩ | ⟨s, rfl, -⟩)
  · have hok : markedValues (.list (ts.map .text)) = .ok ts := list_texts ts
    rw [hok] at h
    cases h
  · cases h

/-- The marks that are read off a node are those that it names. -/
theorem mem_field_markedValues :
    t ∈ (Reading.field es markKey [] markedValues).value ↔ es.Marks t := by
  unfold Entries.Marks Reading.field Reading.fieldUnder Entries.get
  cases es.get? (.text markKey) with
  | none => exact mem_markedValues (v := .null) rfl
  | some v =>
    simp only [Option.getD_some]
    cases hread : markedValues v with
    | ok us => exact mem_markedValues hread
    | error fs => exact iff_of_false List.not_mem_nil (not_names_of_error hread)

end Coercion

/-! ## Nodes of text enums -/

/-- A string that is no date, with a list of texts as its values. -/
structure IsTextEnum (es : Entries) (ts : List String) : Prop where
  type : Schema.typeOf (es.get "type") = some "string"
  format : ∀ format ∈ Schema.dateFormats, es.get "format" ≠ .text format
  values : es.get "enum" = .list (ts.map .text)

namespace Schema

variable {rules : SchemaRules} {depth : Nat} {place n : String}

/-- A built schema marks what its entries mark. -/
theorem mem_deprecatedEnumValues (h : (ofEntries rules depth place es).outcome = .ok s) :
    t ∈ s.extensions.deprecatedEnumValues ↔ es.Marks t := by
  obtain ⟨_, _, _, -, -, -, rfl⟩ := parts_of_ofEntries h
  exact Coercion.mem_field_markedValues

/-- The items of a node are built where they are an object. -/
theorem items_of_ofEntries (h : (ofEntries rules depth place es).outcome = .ok s) :
    (∃ sub i, es.get "items" = .object sub ∧ s.items = some i ∧
        (ofEntries rules (depth + 1) (place ++ "/items") sub).outcome = .ok i) ∨
      (∀ sub, es.get "items" ≠ .object sub) ∧ s.items = none := by
  obtain ⟨_, _, items, -, -, hitems, rfl⟩ := parts_of_ofEntries h
  cases hvalue : es.get "items" with
  | object sub =>
    rw [hvalue] at hitems
    obtain ⟨i, hi, rfl⟩ := Logged.map_ok_iff.1 hitems
    exact .inl ⟨sub, i, rfl, rfl, hi⟩
  | _ =>
    rw [hvalue] at hitems
    cases hitems
    exact .inr ⟨nofun, rfl⟩

theorem format_of_ofEntries (h : (ofEntries rules depth place es).outcome = .ok s) {f : String}
    (hformat : s.format = some f) : es.get "format" = .text f := by
  obtain ⟨_, _, _, -, -, -, rfl⟩ := parts_of_ofEntries h
  have hread : (Reading.field es "format" none (Coercion.opt .text)).value = some f := hformat
  unfold Reading.field Reading.fieldUnder at hread
  unfold Entries.get
  cases hget : es.get? (.text "format") with
  | none =>
    rw [hget] at hread
    cases hread
  | some v =>
    rw [hget] at hread
    cases v with
    | text g =>
      cases hread
      rfl
    | _ => cases hread

/-- The node of a text enum is built into a schema of texts. -/
theorem shape_of_isTextEnum (h : (ofEntries rules depth place es).outcome = .ok s)
    (henum : IsTextEnum es ts) : s.shape = .string := by
  have htype : s.type = some "string" := by
    obtain ⟨_, _, _, -, -, -, rfl⟩ := parts_of_ofEntries h
    exact henum.type
  have hdate : s.format.any (· ∈ dateFormats) = false := by
    rw [Bool.eq_false_iff]
    intro hany
    obtain ⟨f, hf, hmem⟩ := (Option.any_eq_true _ _).1 hany
    exact henum.format f (of_decide_eq_true hmem) (format_of_ofEntries h hf)
  rw [shape, htype]
  simp only [hdate, Bool.false_eq_true, if_false]

/-- It keeps its values, in their order. -/
theorem enum_of_isTextEnum (h : (ofEntries rules depth place es).outcome = .ok s)
    (henum : IsTextEnum es ts) : s.enum = some (ts.map .text) := by
  obtain ⟨_, _, _, -, -, -, rfl⟩ := parts_of_ofEntries h
  rw [nodeOf, henum.values]

/-- The declared values of the node are the values of its enum. -/
theorem values_of_isTextEnum (n : String) (h : (ofEntries rules depth place es).outcome = .ok s)
    (henum : IsTextEnum es ts) : (Enum.mk n s).values = ts := by
  rw [Enum.values_of_string (shape_of_isTextEnum h henum), enum_of_isTextEnum h henum,
    Option.getD_some, List.map_map]
  exact List.map_id ts

/-- The marks of the enum are those of the node. -/
theorem mem_marked_iff (n : String) (h : (ofEntries rules depth place es).outcome = .ok s)
    (hmarks : es.HasOwnMarks ts) (ht : t ∈ ts) : t ∈ (Enum.mk n s).marked ↔ es.Marks t := by
  have hown {u : String} := mem_deprecatedEnumValues (t := u) h
  unfold Enum.marked
  cases hread : s.extensions.deprecatedEnumValues with
  | cons u us =>
    rw [hread] at hown
    exact hown
  | nil =>
    rw [hread] at hown
    have hnone (u : String) : ¬ es.Marks u := fun hu => List.not_mem_nil (hown.2 hu)
    have hitemless := hmarks.resolve_left fun ⟨u, hu⟩ => hnone u hu
    refine iff_of_false (fun hmem => ?_) (hnone t)
    -- Only items could have put the text there.
    obtain ⟨sub, i, hsub, hitems, hi⟩ | ⟨-, hitems⟩ := items_of_ofEntries h
    · simp only [hitems, Option.map_some, Option.getD_some] at hmem
      exact hitemless sub hsub t ht ((mem_deprecatedEnumValues hi).1 hmem)
    · simp only [hitems, Option.map_none, Option.getD_none] at hmem
      cases hmem

end Schema

/-! ## Parting a list -/

/-- The list is parted in order: what is marked goes into the last list, all else into the first. -/
inductive Parted (marked : String → Prop) : List String → List String → List String → Prop where
  | nil : Parted marked [] [] []
  | valid {t : String} {ts valid deprecated : List String} (ht : ¬ marked t)
      (h : Parted marked ts valid deprecated) : Parted marked (t :: ts) (t :: valid) deprecated
  | deprecated {t : String} {ts valid deprecated : List String} (ht : marked t)
      (h : Parted marked ts valid deprecated) : Parted marked (t :: ts) valid (t :: deprecated)

/-- No text of the list is lost. -/
theorem Parted.mem {marked : String → Prop} {ts valid deprecated : List String}
    (h : Parted marked ts valid deprecated) (ht : t ∈ ts) : t ∈ valid ∨ t ∈ deprecated := by
  induction h with
  | nil => cases ht
  | valid _ _ ih =>
    rcases List.mem_cons.1 ht with rfl | ht
    · exact .inl List.mem_cons_self
    · exact (ih ht).imp_left (List.mem_cons_of_mem _)
  | deprecated _ _ ih =>
    rcases List.mem_cons.1 ht with rfl | ht
    · exact .inr List.mem_cons_self
    · exact (ih ht).imp_right (List.mem_cons_of_mem _)

/-- Filtering by the marks parts a list into what is not marked and what is. -/
theorem parted_filter {marked : String → Prop} {marks : List String}
    (hmarks : ∀ t ∈ ts, t ∈ marks ↔ marked t) :
    Parted marked ts (ts.filter (· ∉ marks)) (ts.filter (· ∈ marks)) := by
  induction ts with
  | nil => exact .nil
  | cons t ts ih =>
    obtain ⟨hmark, hmarks⟩ := List.forall_mem_cons.1 hmarks
    by_cases ht : t ∈ marks
    · rw [List.filter_cons_of_neg (by simpa using ht), List.filter_cons_of_pos (by simpa using ht)]
      exact .deprecated (hmark.1 ht) (ih hmarks)
    · rw [List.filter_cons_of_pos (by simpa using ht), List.filter_cons_of_neg (by simpa using ht)]
      exact .valid (fun h => ht (hmark.2 h)) (ih hmarks)

/-- The enum of a node parts the declared values by the marks of the node. -/
theorem Schema.parted_of_isTextEnum {rules : SchemaRules} {depth : Nat} {place : String}
    (n : String) (h : (ofEntries rules depth place es).outcome = .ok s)
    (henum : IsTextEnum es ts) (hmarks : es.HasOwnMarks ts) :
    Parted es.Marks ts (Enum.mk n s).validValues (Enum.mk n s).deprecatedValues := by
  rw [Enum.validValues, Enum.deprecatedValues, values_of_isTextEnum n h henum]
  exact parted_filter fun _ => mem_marked_iff n h hmarks

/-! ## Named lists -/

/-- A name on the left is there on the right, with a related value. -/
theorem Assoc.Rel.exists_of_mem {α β : Type} {R : String → α → β → Prop} {xs : List (String × α)}
    {ys : List (String × β)} {n : String} {a : α} (h : Assoc.Rel R xs ys) (ha : (n, a) ∈ xs) :
    ∃ b, (n, b) ∈ ys ∧ R n a b := by
  induction h with
  | nil => cases ha
  | @cons x y xs ys hxy _ ih =>
    rcases List.mem_cons.1 ha with rfl | ha
    · obtain ⟨m, b⟩ := y
      obtain ⟨rfl, hab⟩ := hxy
      exact ⟨b, List.mem_cons_self, hab⟩
    · obtain ⟨b, hb, hab⟩ := ih ha
      exact ⟨b, List.mem_cons_of_mem _ hb, hab⟩

namespace Spec

variable {spec : Spec} {n : String}

/-- Every text schema with values is a global enum. -/
theorem mem_globalEnums (hs : (n, s) ∈ spec.schemas) (hshape : s.shape = .string)
    (henum : s.enum = some (ts.map .text)) : ⟨n, s⟩ ∈ spec.globalEnums := by
  refine List.mem_map.2 ⟨(n, s), List.mem_filter.2 ⟨hs, ?_⟩, rfl⟩
  simp [hshape, henum]

/-- No two global enums have one name, so that none is dropped. -/
theorem dedupe_globalEnums (hnames : (Assoc.names spec.schemas).Nodup) :
    Enum.dedupe spec.globalEnums = spec.globalEnums ∧
      (spec.globalEnums.map (·.name)).Nodup := by
  have hnodup : (spec.globalEnums.map (·.name)).Nodup := by
    rw [globalEnums, List.map_map]
    exact hnames.sublist (List.filter_sublist.map _)
  rw [Enum.dedupe, Enum.firstOfName_eq]
  exact ⟨firstOf_eq_self hnodup fun _ _ => List.not_mem_nil, hnodup⟩

end Spec

/-! ## Shaped enums -/

/-- The value that an object has under a name. -/
def Value.field (v : Value) (name : String) : Value := (v.entries?.getD []).get name

def Value.items : Value → List Value
  | .list vs => vs
  | _ => []

def Value.itemTexts (v : Value) : List String := v.items.filterMap Value.text?

namespace Typed

variable {config : GenerationConfig} {document : Entries} {spec : Spec} {n : String}

/-- The global enums of a shaped document that have the name. -/
def enumsNamed (shape : Value) (n : String) : List Value :=
  (shape.field "global_enums").items.filter fun e => (e.field "name").text? = some n

/-- The values of the members of a shaped enum. -/
def memberValues (e : Value) : List String :=
  (e.field "members").items.filterMap fun m => (m.field "value").text?

/-- The shaped document has one global enum of the name, which parts the values by their marks. -/
def HoldsEnum (config : GenerationConfig) (spec : Spec) (n : String) (es : Entries)
    (ts : List String) : Prop :=
  ∃ e, enumsNamed (backend.shape config spec) n = [e] ∧
    Parted es.Marks ts (memberValues e) (e.field "deprecated_values").itemTexts

theorem itemTexts_texts (ts : List String) : (Value.texts ts).itemTexts = ts := by
  induction ts with
  | nil => rfl
  | cons t ts ih => exact congrArg (t :: ·) ih

theorem memberValues_toValue (c : EnumClass) : memberValues c.toValue = c.members.map (·.2) := by
  have hmembers : (c.toValue.field "members").items = c.members.map fun m =>
      .record [("name", .text m.1), ("value", .text m.2)] := rfl
  rw [memberValues, hmembers]
  induction c.members with
  | nil => rfl
  | cons m ms ih => exact congrArg (m.2 :: ·) ih

/-- The members of a class are the values that are not deprecated. -/
theorem memberValues_enumClassOf (classCase : String → String) (e : Enum) :
    memberValues (enumClassOf classCase e).toValue = e.validValues := by
  rw [memberValues_toValue, enumClassOf, List.map_map]
  exact List.map_id _

/-- The deprecated values are listed beside the members. -/
theorem deprecatedValues_enumClassOf (classCase : String → String) (e : Enum) :
    ((enumClassOf classCase e).toValue.field "deprecated_values").itemTexts =
      e.deprecatedValues := itemTexts_texts _

/-- The enums of a name in the shaped output are the classes of the global enums of this name. -/
theorem enumsNamed_shape (config : GenerationConfig) (spec : Spec) (n : String) :
    enumsNamed (backend.shape config spec) n =
      ((Enum.dedupe spec.globalEnums).filter (·.name = n)).map
        fun e => (enumClassOf camelCase e).toValue := by
  have henums : ((backend.shape config spec).field "global_enums").items =
      (Enum.dedupe spec.globalEnums).map fun e => (enumClassOf camelCase e).toValue := rfl
  have hname (e : Enum) :
      (((enumClassOf camelCase e).toValue).field "name").text? = some e.name := rfl
  rw [enumsNamed, henums, List.filter_map]
  simp only [Function.comp_def, hname, Option.some.injEq]

/-- **Text enums survive from the document to its shape.** -/
theorem globalEnums_of_build (h : (Spec.build config document).outcome = .ok spec) :
    ∃ resolved, (Reference.resolve (.object document)).outcome = .ok (.object resolved) ∧
      ∀ n es ts, (n, es) ∈ componentSchemas resolved → IsTextEnum es ts → es.HasOwnMarks ts →
        HoldsEnum config spec n es ts := by
  obtain ⟨resolved, hresolved, hbuild⟩ := Spec.resolved_of_build h
  refine ⟨resolved, hresolved, fun n es ts hes henum hmarks => ?_⟩
  obtain ⟨s, hs, hnode⟩ := (Spec.rel_of_ofResolved hbuild).exists_of_mem hes
  have hmem : ⟨n, s⟩ ∈ spec.globalEnums := Spec.mem_globalEnums hs
    (Schema.shape_of_isTextEnum hnode henum) (Schema.enum_of_isTextEnum hnode henum)
  obtain ⟨hdedupe, hnodup⟩ := Spec.dedupe_globalEnums (Spec.nodup_schemas_of_build h)
  refine ⟨(enumClassOf camelCase ⟨n, s⟩).toValue, ?_, ?_⟩
  · have hone : spec.globalEnums.filter (·.name = n) = [⟨n, s⟩] :=
      filter_key_of_nodup hnodup hmem
    rw [enumsNamed_shape, hdedupe, hone]
    rfl
  · rw [memberValues_enumClassOf, deprecatedValues_enumClassOf]
    exact Schema.parted_of_isTextEnum n hnode henum hmarks

/-! ## Plans -/

/-- Plans, of which one is marked deprecated and another mark is unknown. -/
def planEntries : Entries :=
  [(.text "type", .text "string"),
    (.text "enum", .list [.text "a", .text "b", .text "c", .text "b"]),
    (.text "x-cb-deprecated-enum-values", .text "b, d")]

def planSchema : Schema where
  type := some "string"
  enum := some [.text "a", .text "b", .text "c", .text "b"]
  extensions := { deprecatedEnumValues := ["b", "d"], declared := ["deprecated_enum_values"] }

def planDocument : Entries := documentOf [] [(.text "Plan", .object planEntries)]

def planSpec : Spec where
  document := planDocument
  config := {}
  version := {}
  schemas := [("Plan", planSchema)]
  actions := []

theorem isTextEnum_plan : IsTextEnum planEntries ["a", "b", "c", "b"] := by
  refine ⟨rfl, fun format _ => ?_, rfl⟩
  nofun

theorem references_planDocument : (Value.object planDocument).references = [] := rfl

theorem build_planDocument : (Spec.build {} planDocument).outcome = .ok planSpec := by
  have hnodes : Logged.Quiet (Spec.schemasOf {} [(.text "Plan", .object planEntries)])
      [("Plan", planSchema)] :=
    Logged.quiet_bind_iff.2 ⟨_, Schema.quiet_leaf (by decide) rfl rfl, Logged.quiet_bind_iff.2 ⟨[], rfl, rfl⟩⟩
  have hactions : Logged.Quiet (Spec.buildActions { qa := false } planDocument) [] := rfl
  exact build_documentOf references_planDocument hnodes hactions

theorem globalEnums_of_build_plan :
    HoldsEnum {} planSpec "Plan" planEntries ["a", "b", "c", "b"] := by
  obtain ⟨resolved, hresolved, henums⟩ := globalEnums_of_build build_planDocument
  rw [Reference.resolve_of_references references_planDocument] at hresolved
  cases hresolved
  have hmem : ("Plan", planEntries) ∈ componentSchemas planDocument := List.mem_singleton_self _
  have hpieces : Text.pieces ',' "b, d" = ["b", " d"] := by cbv
  have hmarked : planEntries.Marks "b" :=
    .inr ⟨"b, d", rfl, by decide, "b", hpieces ▸ List.mem_cons_self, by cbv⟩
  exact henums _ _ _ hmem isTextEnum_plan (.inl ⟨"b", hmarked⟩)

/-! ## Enums of one name -/

/-- A string with one value. -/
def letterEntries (letter : String) : Entries :=
  [(.text "type", .text "string"), (.text "enum", .list [.text letter])]

def letterSchema (letter : String) : Schema where
  type := some "string"
  enum := some [.text letter]

/-- Two enums of one name: the number one and its digit. -/
def letterDocument : Entries := documentOf []
  [(.int 1, .object (letterEntries "a")), (.text "1", .object (letterEntries "b"))]

def letterSpec : Spec where
  document := letterDocument
  config := {}
  version := {}
  schemas := [("1", letterSchema "b")]
  actions := []

theorem isTextEnum_letter (letter : String) : IsTextEnum (letterEntries letter) [letter] := by
  refine ⟨rfl, fun format _ => ?_, rfl⟩
  nofun

theorem build_letterDocument : (Spec.build {} letterDocument).outcome = .ok letterSpec := by
  have hfree : (Value.object letterDocument).references = [] := rfl
  have hnodes : Logged.Quiet (Spec.schemasOf {} [(.int 1, .object (letterEntries "a")),
      (.text "1", .object (letterEntries "b"))])
        [("1", letterSchema "a"), ("1", letterSchema "b")] :=
    Logged.quiet_bind_iff.2 ⟨_, Schema.quiet_leaf (by decide) rfl rfl, Logged.quiet_bind_iff.2 ⟨_,
      Logged.quiet_bind_iff.2 ⟨_, Schema.quiet_leaf (by decide) rfl rfl, rfl⟩, rfl⟩⟩
  have hactions : Logged.Quiet (Spec.buildActions { qa := false } letterDocument) [] := rfl
  exact build_documentOf hfree hnodes hactions

/-- Of two enums of one name the last counts, so that the value of the first is lost. -/
theorem not_forall_holdsEnum :
    ¬ ∀ (config : GenerationConfig) (document : Entries) (spec : Spec),
      (Spec.build config document).outcome = .ok spec → ∀ resolved,
        (Reference.resolve (.object document)).outcome = .ok (.object resolved) →
        ∀ n es ts, (n, es) ∈ namedObjects (schemaEntries resolved) → IsTextEnum es ts →
          HoldsEnum config spec n es ts := by
  intro h
  have hresolve : (Reference.resolve (.object letterDocument)).outcome =
      .ok (.object letterDocument) := Reference.resolve_of_references rfl
  have hmem : ("1", letterEntries "a") ∈ namedObjects (schemaEntries letterDocument) :=
    List.mem_cons_self
  obtain ⟨e, he, hparted⟩ := h {} letterDocument letterSpec build_letterDocument letterDocument
    hresolve "1" (letterEntries "a") ["a"] hmem (isTextEnum_letter "a")
  have henums : (Enum.dedupe letterSpec.globalEnums).filter (·.name = "1") =
      [⟨"1", letterSchema "b"⟩] := by cbv
  rw [enumsNamed_shape, henums] at he
  cases he
  rw [memberValues_enumClassOf, deprecatedValues_enumClassOf] at hparted
  have hvalid : (Enum.mk "1" (letterSchema "b")).validValues = ["b"] := rfl
  have hdeprecated : (Enum.mk "1" (letterSchema "b")).deprecatedValues = [] := rfl
  rw [hvalid, hdeprecated] at hparted
  rcases hparted.mem List.mem_cons_self with hlost | hlost
  · exact absurd hlost (by decide)
  · cases hlost

end Typed

end SdkModel
