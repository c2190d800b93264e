import SdkModel.Proofs.Reference.Node

/-!
# Inlining, node by node

What inlining answers on each kind of node (`inlineValue_list` and its siblings), when it succeeds
on the parts of a node, and the order in which it walks a document. `Reached` is the walk: the
nodes that inlining enters, each with the stack of the references that are being inlined there. A
list and an object are walked part by part; a reference that is not on the stack also leads to its
target, with the reference put on the stack; one that is on the stack is a cycle, and neither its
target nor its siblings are entered.
-/

namespace SdkModel.Reference

variable {root document : Value} {pending stack : List String}

/-! ## One node -/

theorem inlineValue_list {xs : List Value} :
    inlineValue root pending (.list xs) = do return .list (← inlineItems root pending xs) := by
  rw [inlineValue]

theorem inlineValue_plain {es : Entries} (h : es.reference? = none) :
    inlineValue root pending (.object es) =
      do return .object (← inlineEntries root pending es) := by
  rw [inlineValue]
  simp only [h]

/-- A pending reference is followed, and what stands next to it is laid over its target. -/
theorem inlineValue_reference {es : Entries} {r : String} (h : es.reference? = some r)
    (hr : r ∈ pending) :
    inlineValue root pending (.object es) = (do
      let target ← Logged.ofExcept ((Pointer.follow root r).mapError .document)
      let target ← inlineValue root (pending.filter (· ≠ r)) target
      let others ← inlineEntries root pending es
      return merge r target (siblings others)) := by
  rw [inlineValue]
  simp only [h, hr, ↓reduceDIte]

/-- Any other reference is being followed, and is left as it stands with a warning. -/
theorem inlineValue_cycle {es : Entries} {r : String} (h : es.reference? = some r)
    (hr : r ∉ pending) :
    inlineValue root pending (.object es) = (do
      .write .warning (cycleWarning r)
      return .object es) := by
  rw [inlineValue]
  simp only [h, hr, ↓reduceDIte]

theorem inlineValue_leaf {v : Value} (ho : ∀ es, v ≠ .object es) (hl : ∀ xs, v ≠ .list xs) :
    inlineValue root pending v = pure v := by
  cases v with
  | object es => exact absurd rfl (ho es)
  | list xs => exact absurd rfl (hl xs)
  | _ => rw [inlineValue] <;> simp

/-- Induction along the calls of inlining: a node follows from its parts under the same pending
references, and from any target with one pending reference less. -/
theorem inline_induction {motive : List String → Value → Prop}
    (plain : ∀ pending es, Entries.reference? es = none →
      (∀ k v, (k, v) ∈ es → motive pending v) → motive pending (.object es))
    (reference : ∀ pending es r, Entries.reference? es = some r → r ∈ pending →
      (∀ target, motive (pending.filter (· ≠ r)) target) →
      (∀ k v, (k, v) ∈ es → motive pending v) → motive pending (.object es))
    (cycle : ∀ pending es r, Entries.reference? es = some r → r ∉ pending →
      motive pending (.object es))
    (list : ∀ pending xs, (∀ v ∈ xs, motive pending v) → motive pending (.list xs))
    (leaf : ∀ pending v, (∀ es, v ≠ .object es) → (∀ xs, v ≠ .list xs) → motive pending v)
    (pending : List String) (v : Value) : motive pending v := by
  refine inlineValue.induct motive (fun pending xs => ∀ v ∈ xs, motive pending v)
    (fun pending es => ∀ k v, (k, v) ∈ es → motive pending v) plain reference cycle list
    (fun pending v ho hl => leaf pending v (fun es h => ho es h) (fun xs h => hl xs h))
    ?_ ?_ ?_ ?_ pending v
  · intro _ v hv
    cases hv
  · intro _ v vs ihv ihvs w hw
    rcases List.mem_cons.1 hw with rfl | hw
    · exact ihv
    · exact ihvs w hw
  · intro _ k v hv
    cases hv
  · intro _ k v es ihv ihes j w hw
    rcases List.mem_cons.1 hw with hw | hw
    · cases hw
      exact ihv
    · exact ihes j w hw

/-! ## The parts of a node -/

/-- The items of a list are inlined one after the other. -/
theorem inlineItems_eq (xs : List Value) :
    inlineItems root pending xs = Logged.each (inlineValue root pending) xs := by
  induction xs with
  | nil =>
    rw [inlineItems]
    rfl
  | cons x xs ih =>
    rw [inlineItems, ih]
    rfl

/-- One entry: its value is inlined under its key. -/
def inlineEntry (root : Value) (pending : List String) (e : Key × Value) :
    Logged Failure (Key × Value) :=
  (fun v => (e.1, v)) <$> inlineValue root pending e.2

theorem inlineEntries_eq (es : Entries) :
    inlineEntries root pending es = Logged.each (inlineEntry root pending) es := by
  induction es with
  | nil =>
    rw [inlineEntries]
    rfl
  | cons e es ih =>
    obtain ⟨k, v⟩ := e
    rw [inlineEntries, ih, Logged.each, inlineEntry, Logged.map_bind]

theorem inlineItems_ok {xs ys : List Value} (h : (inlineItems root pending xs).outcome = .ok ys)
    {v : Value} (hv : v ∈ xs) : ∃ w, (inlineValue root pending v).outcome = .ok w := by
  rw [inlineItems_eq] at h
  exact Logged.each_ok h hv

theorem inlineEntries_ok {es fs : Entries} (h : (inlineEntries root pending es).outcome = .ok fs)
    {k : Key} {v : Value} (hv : (k, v) ∈ es) :
    ∃ w, (inlineValue root pending v).outcome = .ok w := by
  rw [inlineEntries_eq] at h
  obtain ⟨f, hf⟩ := Logged.each_ok h hv
  obtain ⟨w, hw, -⟩ := Logged.map_ok_iff.1 hf
  exact ⟨w, hw⟩

theorem inlineItems_error {xs : List Value} {f : Failure}
    (h : (inlineItems root pending xs).outcome = .error f) :
    ∃ v ∈ xs, (inlineValue root pending v).outcome = .error f := by
  rw [inlineItems_eq] at h
  exact Logged.each_error h

/-- Entries fail with the failure of one of their values. -/
theorem inlineEntries_error {es : Entries} {f : Failure}
    (h : (inlineEntries root pending es).outcome = .error f) :
    ∃ k v, (k, v) ∈ es ∧ (inlineValue root pending v).outcome = .error f := by
  rw [inlineEntries_eq] at h
  obtain ⟨⟨k, v⟩, he, hf⟩ := Logged.each_error h
  exact ⟨k, v, he, Logged.map_error_iff.1 hf⟩

/-- A node without references is inlined as it stands. -/
theorem quiet_inlineValue_of_references {v : Value} (h : v.references = []) :
    Logged.Quiet (inlineValue root pending v) v := by
  have hpart {node w : Value} (hnode : node.references = []) (hw : Value.Holds w node) :
      w.references = [] :=
    List.subset_nil.1 (hnode ▸ references_subset_of_holds hw)
  induction pending, v using inline_induction with
  | plain pending es hr ih =>
    have hentry : ∀ e ∈ es, Logged.Quiet (inlineEntry root pending e) (id e) := fun e he =>
      Logged.quiet_map_iff.2 ⟨e.2, ih e.1 e.2 he (hpart h (holds_entry he)), rfl⟩
    have hentries := Logged.quiet_each hentry
    rw [List.map_id, ← inlineEntries_eq] at hentries
    rw [inlineValue_plain hr]
    exact Logged.quiet_bind_iff.2 ⟨es, hentries, rfl⟩
  | reference pending es r hr =>
    have hmem := reference_mem_references hr
    rw [h] at hmem
    cases hmem
  | cycle pending es r hr =>
    have hmem := reference_mem_references hr
    rw [h] at hmem
    cases hmem
  | list pending xs ih =>
    have hitem : ∀ v ∈ xs, Logged.Quiet (inlineValue root pending v) (id v) := fun v hv =>
      ih v hv (hpart h (holds_item hv))
    have hitems := Logged.quiet_each hitem
    rw [List.map_id, ← inlineItems_eq] at hitems
    rw [inlineValue_list]
    exact Logged.quiet_bind_iff.2 ⟨xs, hitems, rfl⟩
  | leaf pending v ho hl =>
    rw [inlineValue_leaf ho hl]
    rfl

/-- A document without references resolves to itself. -/
theorem resolve_of_references {document : Value} (h : document.references = []) :
    (resolve document).outcome = .ok document :=
  (Logged.quiet_iff.1 (quiet_inlineValue_of_references h)).2

theorem follow_outcome_iff {r : String} {target : Value} :
    (Logged.ofExcept ((Pointer.follow root r).mapError Failure.document)).outcome = .ok target ↔
      Pointer.follow root r = .ok target := by
  rw [Logged.outcome_ofExcept]
  cases Pointer.follow root r <;> simp [Except.mapError]

/-- A node with a pending reference succeeds when its target and its entries do. -/
theorem inlineValue_reference_ok {es : Entries} {r : String} (h : es.reference? = some r)
    (hr : r ∈ pending) {v : Value} (hv : (inlineValue root pending (.object es)).outcome = .ok v) :
    ∃ target w others, Pointer.follow root r = .ok target ∧
      (inlineValue root (pending.filter (· ≠ r)) target).outcome = .ok w ∧
      (inlineEntries root pending es).outcome = .ok others ∧ v = merge r w (siblings others) := by
  rw [inlineValue_reference h hr, Logged.bind_ok_iff] at hv
  obtain ⟨target, ht, hv⟩ := hv
  obtain ⟨w, hw, hv⟩ := Logged.bind_ok_iff.1 hv
  obtain ⟨others, ho, hv⟩ := Logged.bind_ok_iff.1 hv
  cases hv
  exact ⟨target, w, others, follow_outcome_iff.1 ht, hw, ho, rfl⟩

/-- A node with a pending reference fails as following the reference does, as its target or as one
of its entries. -/
theorem inlineValue_reference_error {es : Entries} {r : String} (h : es.reference? = some r)
    (hr : r ∈ pending) {f : Failure}
    (hf : (inlineValue root pending (.object es)).outcome = .error f) :
    (∃ e, Pointer.follow root r = .error e ∧ f = .document e) ∨
      ∃ target, Pointer.follow root r = .ok target ∧
        ((inlineValue root (pending.filter (· ≠ r)) target).outcome = .error f ∨
          (inlineEntries root pending es).outcome = .error f) := by
  rw [inlineValue_reference h hr, Logged.bind_error_iff] at hf
  cases ht : Pointer.follow root r with
  | error e =>
    rw [ht] at hf
    obtain hf | ⟨_, ht', -⟩ := hf
    · cases hf
      exact .inl ⟨e, rfl, rfl⟩
    · cases ht'
  | ok target =>
    rw [ht] at hf
    obtain hf | ⟨_, ht', hf⟩ := hf
    · cases hf
    · cases ht'
      refine .inr ⟨target, rfl, ?_⟩
      obtain hf | ⟨_, -, hf⟩ := Logged.bind_error_iff.1 hf
      · exact .inl hf
      · obtain hf | ⟨_, -, hf⟩ := Logged.bind_error_iff.1 hf
        · exact .inr hf
        · cases hf

/-! ## The walk -/

/-- The references of the document that are not on the stack. -/
def openReferences (document : Value) (stack : List String) : List String :=
  document.references.filter (· ∉ stack)

theorem openReferences_nil : openReferences document [] = document.references := by
  simp [openReferences]

/-- Following a reference takes it off those that may be followed below. -/
theorem openReferences_cons {r : String} :
    openReferences document (r :: stack) = (openReferences document stack).filter (· ≠ r) := by
  simp [openReferences, List.filter_filter, not_or]

/-- The nodes that inlining enters, with the references that are being inlined there. -/
inductive Reached (document : Value) : List String → Value → Prop
  | document : Reached document [] document
  | item {stack : List String} {xs : List Value} {v : Value}
      (h : Reached document stack (.list xs)) (hv : v ∈ xs) : Reached document stack v
  | entry {stack : List String} {es : Entries} {k : Key} {v : Value}
      (h : Reached document stack (.object es))
      (hc : ∀ r, es.reference? = some r → r ∉ stack) (hv : (k, v) ∈ es) :
      Reached document stack v
  | target {stack : List String} {es : Entries} {r : String} {v : Value}
      (h : Reached document stack (.object es)) (hr : es.reference? = some r) (hc : r ∉ stack)
      (hv : Pointer.follow document r = .ok v) : Reached document (r :: stack) v

/-- Only nodes of the document are entered. -/
theorem holds_of_reached {node : Value} (h : Reached document stack node) :
    Value.Holds node document := by
  induction h with
  | document => exact .self
  | item _ hv ih => exact (holds_item hv).trans ih
  | entry _ _ hv ih => exact (holds_entry hv).trans ih
  | target _ _ _ hv _ => exact Pointer.holds_of_follow hv

/-- Every node of what is entered with no reference on the way is entered so as well. -/
theorem reached_of_holds_of_reached {node v : Value} (h : Value.Holds node v)
    (hv : Reached document [] v) : Reached document [] node := by
  induction h with
  | self => exact hv
  | item hx _ ih => exact ih (.item hv hx)
  | entry hx _ ih => exact ih (.entry hv (fun _ _ => List.not_mem_nil) hx)

/-- Every node of the document is entered with an empty stack. -/
theorem reached_of_holds {node : Value} (h : Value.Holds node document) :
    Reached document [] node :=
  reached_of_holds_of_reached h .document

/-- At a node that is entered, the pending references are those that are not on the stack. -/
theorem mem_openReferences_of_reached {es : Entries} {r : String}
    (h : Reached document stack (.object es)) (hr : es.reference? = some r) :
    r ∈ openReferences document stack ↔ r ∉ stack := by
  have hd : r ∈ document.references := reference_mem_of_holds (holds_of_reached h) hr
  simp [openReferences, hd]

/-- Inlining a document that resolves succeeds at every node that is entered. -/
theorem ok_of_reached {result : Value} (hres : (resolve document).outcome = .ok result)
    {node : Value} (h : Reached document stack node) :
    ∃ w, (inlineValue document (openReferences document stack) node).outcome = .ok w := by
  induction h with
  | document =>
    rw [openReferences_nil]
    exact ⟨result, hres⟩
  | item _ hv ih =>
    obtain ⟨w, hw⟩ := ih
    rw [inlineValue_list, Logged.bind_ok_iff] at hw
    obtain ⟨ys, hys, -⟩ := hw
    exact inlineItems_ok hys hv
  | @entry stack es k v h hc hv ih =>
    obtain ⟨w, hw⟩ := ih
    cases hr : es.reference? with
    | none =>
      rw [inlineValue_plain hr, Logged.bind_ok_iff] at hw
      obtain ⟨fs, hfs, -⟩ := hw
      exact inlineEntries_ok hfs hv
    | some r =>
      have hp := (mem_openReferences_of_reached h hr).2 (hc r hr)
      obtain ⟨_, _, fs, -, -, hfs, -⟩ := inlineValue_reference_ok hr hp hw
      exact inlineEntries_ok hfs hv
  | @target stack es r v h hr hc hv ih =>
    obtain ⟨w, hw⟩ := ih
    have hp := (mem_openReferences_of_reached h hr).2 hc
    obtain ⟨target, w', _, ht, hw', -, -⟩ := inlineValue_reference_ok hr hp hw
    rw [hv] at ht
    cases ht
    rw [openReferences_cons]
    exact ⟨w', hw'⟩

end SdkModel.Reference
