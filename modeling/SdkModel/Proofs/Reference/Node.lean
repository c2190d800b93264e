import SdkModel.Proofs.Logged
import SdkModel.Reference.Resolve

/-!
# Nodes of a document

A node of a document is the document itself or what an item or an entry of a node is
(`Value.Holds`). Every textual reference of a node is listed among the references of the document,
and a reference that can be followed leads to a node again, so inlining never leaves the document.
`Pointer.Fails` says what is wrong with the way to a place that does not exist.
-/

namespace SdkModel

/-! ## Nodes -/

/-- `node` stands somewhere in the value, or is the value. -/
inductive Value.Holds (node : Value) : Value → Prop
  | self : Value.Holds node node
  | item {v : Value} {xs : List Value} (hv : v ∈ xs) (h : Value.Holds node v) :
      Value.Holds node (.list xs)
  | entry {k : Key} {v : Value} {es : Entries} (hv : (k, v) ∈ es) (h : Value.Holds node v) :
      Value.Holds node (.object es)

/-- What a part of a node holds the node holds. -/
theorem Value.Holds.trans {a b c : Value} (hab : Value.Holds a b) (hbc : Value.Holds b c) :
    Value.Holds a c := by
  induction hbc with
  | self => exact hab
  | item hv _ ih => exact .item hv ih
  | entry hv _ ih => exact .entry hv ih

theorem holds_item {v : Value} {xs : List Value} (h : v ∈ xs) : Value.Holds v (.list xs) :=
  .item h .self

theorem holds_entry {k : Key} {v : Value} {es : Entries} (h : (k, v) ∈ es) :
    Value.Holds v (.object es) :=
  .entry h .self

theorem holds_of_get? {es : Entries} {k : Key} {v : Value} (h : es.get? k = some v) :
    Value.Holds v (.object es) := by
  obtain ⟨e, he, rfl⟩ := Option.map_eq_some_iff.1 h
  exact holds_entry (List.mem_of_find?_eq_some he)

/-- An object holds itself and what its values hold. -/
theorem holds_object_iff {node : Value} {es : Entries} :
    Value.Holds node (.object es) ↔ node = .object es ∨ ∃ e ∈ es, Value.Holds node e.2 := by
  constructor
  · intro h
    cases h with
    | self => exact .inl rfl
    | entry hv h => exact .inr ⟨_, hv, h⟩
  · rintro (rfl | ⟨e, he, h⟩)
    · exact .self
    · exact .entry he h

/-- A list holds itself and what its items hold. -/
theorem holds_list_iff {node : Value} {xs : List Value} :
    Value.Holds node (.list xs) ↔ node = .list xs ∨ ∃ v ∈ xs, Value.Holds node v := by
  constructor
  · intro h
    cases h with
    | self => exact .inl rfl
    | item hv h => exact .inr ⟨_, hv, h⟩
  · rintro (rfl | ⟨v, hv, h⟩)
    · exact .self
    · exact .item hv h

theorem holds_leaf_iff {node v : Value} (ho : ∀ es, v ≠ .object es) (hl : ∀ xs, v ≠ .list xs) :
    Value.Holds node v ↔ node = v := by
  constructor
  · intro h
    cases h with
    | self => rfl
    | item => exact absurd rfl (hl _)
    | entry => exact absurd rfl (ho _)
  · rintro rfl
    exact .self

/-! ## References of a node -/

theorem mem_itemsReferences {r : String} {v : Value} {xs : List Value} (hv : v ∈ xs)
    (h : r ∈ v.references) : r ∈ itemsReferences xs := by
  induction xs with
  | nil => cases hv
  | cons x xs ih =>
    rw [itemsReferences, List.mem_append]
    rcases List.mem_cons.1 hv with rfl | hv
    · exact .inl h
    · exact .inr (ih hv)

theorem mem_entriesReferences {r : String} {k : Key} {v : Value} {es : Entries} (hv : (k, v) ∈ es)
    (h : r ∈ v.references) : r ∈ entriesReferences es := by
  induction es with
  | nil => cases hv
  | cons e es ih =>
    obtain ⟨j, w⟩ := e
    rw [entriesReferences, List.mem_append]
    rcases List.mem_cons.1 hv with hvw | hv
    · cases hvw
      exact .inl h
    · exact .inr (ih hv)

/-- The references of a node are references of whatever holds it. -/
theorem references_subset_of_holds {node v : Value} (h : Value.Holds node v) :
    node.references ⊆ v.references := by
  induction h with
  | self => exact List.Subset.refl _
  | item hv _ ih =>
    intro r hr
    rw [Value.references]
    exact mem_itemsReferences hv (ih hr)
  | entry hv _ ih =>
    intro r hr
    rw [Value.references]
    exact List.mem_append_right _ (mem_entriesReferences hv (ih hr))

/-- The reference of an object is one of those in it. -/
theorem reference_mem_references {es : Entries} {r : String} (h : es.reference? = some r) :
    r ∈ (Value.object es).references := by
  rw [Value.references, h]
  exact List.mem_append_left _ (List.mem_singleton_self r)

/-- A reference of a node is listed among the references of the document. -/
theorem reference_mem_of_holds {document : Value} {es : Entries} {r : String}
    (h : Value.Holds (.object es) document) (hr : es.reference? = some r) :
    r ∈ document.references :=
  references_subset_of_holds h (reference_mem_references hr)

/-- Every listed reference is that of an object that stands in the value. -/
theorem holds_of_mem_references {r : String} {v : Value} (h : r ∈ v.references) :
    ∃ es, Value.Holds (.object es) v ∧ Entries.reference? es = some r := by
  revert h
  refine Value.references.induct
    (fun v => r ∈ v.references →
      ∃ es, Value.Holds (.object es) v ∧ Entries.reference? es = some r)
    (fun xs => r ∈ itemsReferences xs → ∃ v ∈ xs, ∃ es,
      Value.Holds (.object es) v ∧ Entries.reference? es = some r)
    (fun es => r ∈ entriesReferences es → ∃ k v, (k, v) ∈ es ∧ ∃ fs,
      Value.Holds (.object fs) v ∧ Entries.reference? fs = some r)
    ?_ ?_ ?_ ?_ ?_ ?_ ?_ v
  · intro es ih h
    rw [Value.references, List.mem_append] at h
    rcases h with h | h
    · exact ⟨es, .self, Option.mem_toList.1 h⟩
    · obtain ⟨k, v, hv, fs, hfs, hr⟩ := ih h
      exact ⟨fs, hfs.trans (holds_entry hv), hr⟩
  · intro xs ih h
    rw [Value.references] at h
    obtain ⟨v, hv, fs, hfs, hr⟩ := ih h
    exact ⟨fs, hfs.trans (holds_item hv), hr⟩
  · intro v ho hl h
    cases v with
    | object es => exact absurd rfl (ho es)
    | list xs => exact absurd rfl (hl xs)
    | _ => cases h
  · intro h
    cases h
  · intro v vs ihv ihvs h
    rw [itemsReferences, List.mem_append] at h
    rcases h with h | h
    · exact ⟨v, List.mem_cons_self, ihv h⟩
    · obtain ⟨w, hw, found⟩ := ihvs h
      exact ⟨w, List.mem_cons_of_mem _ hw, found⟩
  · intro h
    cases h
  · intro k v es ihv ihes h
    rw [entriesReferences, List.mem_append] at h
    rcases h with h | h
    · exact ⟨k, v, List.mem_cons_self, ihv h⟩
    · obtain ⟨j, w, hw, found⟩ := ihes h
      exact ⟨j, w, List.mem_cons_of_mem _ hw, found⟩
namespace Pointer

/-! ## Pointers that lead nowhere -/

/-- An index stands for an item of a list of this length. -/
def InRange (i : Int) (length : Nat) : Prop := -(length : Int) ≤ i ∧ i < length

/-- An index leads nowhere when it is out of range, on either side. -/
theorem itemAt?_eq_none_iff {xs : List Value} {i : Int} :
    itemAt? xs i = none ↔ ¬ InRange i xs.length := by
  unfold itemAt? InRange
  split
  · rw [List.getElem?_eq_none_iff]
    omega
  · split
    · rw [List.getElem?_eq_none_iff]
      omega
    · simp only [true_iff]
      omega

theorem mem_of_itemAt? {xs : List Value} {i : Int} {v : Value} (h : itemAt? xs i = some v) :
    v ∈ xs := by
  unfold itemAt? at h
  split at h
  · exact List.mem_of_getElem? h
  · split at h
    · exact List.mem_of_getElem? h
    · cases h

/-- The way along the segments breaks off: a key is missing, an index is no whole number or out of
range, or a segment is left over on a value that has no parts. -/
inductive Fails : Value → List String → Prop
  | missingKey {es : Entries} {segment : String} {rest : List String}
      (h : es.get? (.text segment) = none) : Fails (.object es) (segment :: rest)
  | noNumber {xs : List Value} {segment : String} {rest : List String}
      (h : wholeNumber? segment = none) : Fails (.list xs) (segment :: rest)
  | outOfRange {xs : List Value} {segment : String} {rest : List String} {i : Int}
      (hi : wholeNumber? segment = some i) (h : ¬ InRange i xs.length) :
      Fails (.list xs) (segment :: rest)
  | noParts {v : Value} {segment : String} {rest : List String} (ho : ∀ es, v ≠ .object es)
      (hl : ∀ xs, v ≠ .list xs) : Fails v (segment :: rest)
  | belowKey {es : Entries} {segment : String} {rest : List String} {v : Value}
      (hv : es.get? (.text segment) = some v) (h : Fails v rest) :
      Fails (.object es) (segment :: rest)
  | belowItem {xs : List Value} {segment : String} {rest : List String} {i : Int} {v : Value}
      (hi : wholeNumber? segment = some i) (hv : itemAt? xs i = some v) (h : Fails v rest) :
      Fails (.list xs) (segment :: rest)

/-- One step down stays inside the value. -/
theorem holds_of_step {reference segment : String} {v w : Value}
    (h : step reference segment v = .ok w) : Value.Holds w v := by
  unfold step at h
  split at h
  · split at h
    · cases h
      exact holds_of_get? ‹_›
    · cases h
  · split at h
    · cases h
      obtain ⟨i, -, hi⟩ := Option.bind_eq_some_iff.1 ‹_›
      exact holds_item (mem_of_itemAt? hi)
    · cases h
  · cases h

/-- A pointer leads to a part of the node. -/
theorem holds_of_steps {reference : String} {segments : List String} {v w : Value}
    (h : segments.foldlM (fun v segment => step reference segment v) v = .ok w) :
    Value.Holds w v := by
  induction segments generalizing v with
  | nil =>
    cases h
    exact .self
  | cons segment rest ih =>
    rw [List.foldlM_cons] at h
    cases hs : step reference segment v with
    | error e =>
      rw [hs] at h
      cases h
    | ok u =>
      rw [hs] at h
      exact (ih h).trans (holds_of_step hs)

/-- A reference that can be followed leads to a node of the document. -/
theorem holds_of_follow {root target : Value} {reference : String}
    (h : follow root reference = .ok target) : Value.Holds target root := by
  unfold follow at h
  split at h
  · cases h
  · exact holds_of_steps h

/-- A pointer leads nowhere when its first step does or what is left of it does. -/
theorem fails_cons_iff (reference : String) {segment : String} {rest : List String} {v : Value} :
    Fails v (segment :: rest) ↔
      (∃ e, step reference segment v = .error e) ∨
        ∃ w, step reference segment v = .ok w ∧ Fails w rest := by
  constructor
  · intro h
    cases h with
    | missingKey h => exact .inl ⟨_, by rw [step, h]⟩
    | noNumber h => exact .inl ⟨_, by rw [step, h]; rfl⟩
    | outOfRange hi h =>
      exact .inl ⟨_, by rw [step, hi, Option.bind_some, itemAt?_eq_none_iff.2 h]⟩
    | noParts ho hl =>
      refine .inl ⟨.notContainer reference v.kindName, ?_⟩
      unfold step
      split
      · exact absurd rfl (ho _)
      · exact absurd rfl (hl _)
      · rfl
    | belowKey hv h => exact .inr ⟨_, by rw [step, hv], h⟩
    | belowItem hi hv h => exact .inr ⟨_, by rw [step, hi, Option.bind_some, hv], h⟩
  · intro h
    cases v with
    | object es =>
      cases hv : Entries.get? es (.text segment) with
      | none => exact .missingKey hv
      | some w =>
        rw [step, hv] at h
        obtain ⟨_, h⟩ | ⟨_, hw, h⟩ := h
        · cases h
        · cases hw
          exact .belowKey hv h
    | list xs =>
      cases hi : wholeNumber? segment with
      | none => exact .noNumber hi
      | some i =>
        cases hv : itemAt? xs i with
        | none => exact .outOfRange hi (itemAt?_eq_none_iff.1 hv)
        | some w =>
          rw [step, hi, Option.bind_some, hv] at h
          obtain ⟨_, h⟩ | ⟨_, hw, h⟩ := h
          · cases h
          · cases hw
            exact .belowItem hi hv h
    | _ => exact .noParts (by simp) (by simp)

/-- A pointer fails just when it leads nowhere. -/
theorem steps_error_iff {reference : String} {segments : List String} {v : Value} :
    (∃ e, segments.foldlM (fun v segment => step reference segment v) v = .error e) ↔
      Fails v segments := by
  induction segments generalizing v with
  | nil =>
    constructor
    · rintro ⟨e, h⟩
      cases h
    · intro h
      cases h
  | cons segment rest ih =>
    rw [fails_cons_iff reference, List.foldlM_cons]
    cases step reference segment v with
    | error e =>
      refine iff_of_true ⟨e, rfl⟩ (.inl ⟨e, rfl⟩)
    | ok w =>
      change (∃ e, rest.foldlM (fun v segment => step reference segment v) w = .error e) ↔ _
      rw [ih]
      simp

/-- The reference does not begin with `#/`, or the way that it names breaks off in the document. -/
def IsBad (root : Value) (reference : String) : Prop :=
  ¬ "#/".toList <+: reference.toList ∨
    ∃ segments, segments? reference = some segments ∧ Fails root segments

/-- Only a reference into the document has segments. -/
theorem segments?_eq_none_iff {reference : String} :
    segments? reference = none ↔ ¬ "#/".toList <+: reference.toList := by
  unfold segments?
  split
  · rename_i rest h
    rw [h]
    simp
  · rename_i h
    refine iff_of_true rfl ?_
    rintro ⟨rest, hr⟩
    exact h rest hr.symm

/-- Following a reference fails exactly when the reference is bad. -/
theorem follow_error_iff {root : Value} {reference : String} :
    (∃ e, follow root reference = .error e) ↔ IsBad root reference := by
  unfold follow IsBad
  cases h : segments? reference with
  | none => exact iff_of_true ⟨_, rfl⟩ (.inl (segments?_eq_none_iff.1 h))
  | some segments =>
    have hp : ¬ ¬ "#/".toList <+: reference.toList := by
      rw [← segments?_eq_none_iff, h]
      simp
    simp only [steps_error_iff, Option.some.injEq, exists_eq_left']
    exact ⟨.inr, fun h => h.resolve_left hp⟩

end Pointer

end SdkModel
