import Mathlib.Data.List.Permutation
import SdkModel.Proofs.Reference.Inline
import SdkModel.Proofs.Value.Entries

/-!
# Inlining without cycles

The guard against cycles cannot be seen on a document that logs none. Inlining is monotone in the
pending references as long as it stays quiet (`quiet_mono`), so every node has one resolved form,
that with all references pending, whatever stack it is reached with. The resolved forms satisfy the
equations that inlining would have without a guard (`Unfolds`).
-/

namespace SdkModel.Reference

open Logged (Quiet quiet_iff quiet_pure_iff quiet_ofExcept_iff quiet_bind_iff)

variable {root document : Value} {pending stack : List String}

/-! ## Only cycles are logged -/

theorem mem_log_inlineItems {xs : List Value} {record : LogRecord}
    (h : record ∈ (inlineItems root pending xs).log) :
    ∃ v ∈ xs, record ∈ (inlineValue root pending v).log := by
  rw [inlineItems_eq] at h
  exact Logged.mem_log_each h

theorem mem_log_inlineEntries {es : Entries} {record : LogRecord}
    (h : record ∈ (inlineEntries root pending es).log) :
    ∃ k v, (k, v) ∈ es ∧ record ∈ (inlineValue root pending v).log := by
  rw [inlineEntries_eq] at h
  obtain ⟨⟨k, v⟩, he, hr⟩ := Logged.mem_log_each h
  exact ⟨k, v, he, Logged.mem_log_map.1 hr⟩

/-- Every record that inlining writes is the warning on a cycle. -/
theorem cycle_of_mem_log {node : Value} {record : LogRecord}
    (h : record ∈ (inlineValue root pending node).log) :
    ∃ r, record = ⟨.warning, cycleWarning r⟩ := by
  induction pending, node using inline_induction with
  | plain pending es hr ih =>
    rw [inlineValue_plain hr, Logged.mem_log_bind] at h
    obtain h | ⟨_, -, h⟩ := h
    · obtain ⟨k, v, hv, h⟩ := mem_log_inlineEntries h
      exact ih k v hv h
    · cases h
  | reference pending es r hr hp iht ihe =>
    rw [inlineValue_reference hr hp, Logged.mem_log_bind] at h
    obtain h | ⟨target, -, h⟩ := h
    · cases h
    · obtain h | ⟨_, -, h⟩ := Logged.mem_log_bind.1 h
      · exact iht target h
      · obtain h | ⟨_, -, h⟩ := Logged.mem_log_bind.1 h
        · obtain ⟨k, v, hv, h⟩ := mem_log_inlineEntries h
          exact ihe k v hv h
        · cases h
  | cycle pending es r hr hp =>
    rw [inlineValue_cycle hr hp, Logged.mem_log_bind] at h
    obtain h | ⟨_, -, h⟩ := h
    · exact ⟨r, List.mem_singleton.1 h⟩
    · cases h
  | list pending xs ih =>
    rw [inlineValue_list, Logged.mem_log_bind] at h
    obtain h | ⟨_, -, h⟩ := h
    · obtain ⟨v, hv, h⟩ := mem_log_inlineItems h
      exact ih v hv h
    · cases h
  | leaf pending v ho hl =>
    rw [inlineValue_leaf ho hl] at h
    cases h

/-! ## Quiet inlining -/

/-- What a node resolves to; the node itself where inlining fails. -/
def answer (root : Value) (pending : List String) (node : Value) : Value :=
  match (inlineValue root pending node).outcome with
  | .ok v => v
  | .error _ => node

theorem answer_eq_of_quiet {node v : Value} (h : Quiet (inlineValue root pending node) v) :
    answer root pending node = v := by
  rw [answer, (quiet_iff.1 h).2]

theorem quiet_answer {node v : Value} (h : Quiet (inlineValue root pending node) v) :
    Quiet (inlineValue root pending node) (answer root pending node) := by
  rw [answer_eq_of_quiet h]
  exact h

/-- The answers on the items make up the answer on the list. -/
theorem quiet_inlineItems {xs : List Value} {form : Value → Value}
    (h : ∀ v ∈ xs, Quiet (inlineValue root pending v) (form v)) :
    Quiet (inlineItems root pending xs) (xs.map form) := by
  rw [inlineItems_eq]
  exact Logged.quiet_each h

theorem quiet_inlineEntries {es : Entries} {form : Value → Value}
    (h : ∀ k v, (k, v) ∈ es → Quiet (inlineValue root pending v) (form v)) :
    Quiet (inlineEntries root pending es) (es.map fun e => (e.1, form e.2)) := by
  rw [inlineEntries_eq]
  refine Logged.quiet_each ?_
  rintro ⟨k, v⟩ he
  exact Logged.quiet_map_iff.2 ⟨form v, h k v he, rfl⟩

/-- A list is quiet only when all of its items are. -/
theorem quiet_items {xs ys : List Value} (h : Quiet (inlineItems root pending xs) ys)
    {v : Value} (hv : v ∈ xs) : Quiet (inlineValue root pending v) (answer root pending v) := by
  rw [inlineItems_eq] at h
  obtain ⟨w, hw⟩ := Logged.quiet_of_quiet_each h hv
  exact quiet_answer hw

theorem quiet_entries {es fs : Entries} (h : Quiet (inlineEntries root pending es) fs)
    {k : Key} {v : Value} (hv : (k, v) ∈ es) :
    Quiet (inlineValue root pending v) (answer root pending v) := by
  rw [inlineEntries_eq] at h
  obtain ⟨e, he⟩ := Logged.quiet_of_quiet_each h hv
  obtain ⟨w, hw, -⟩ := Logged.quiet_map_iff.1 he
  exact quiet_answer hw

theorem eq_map_of_quiet_items {xs ys : List Value} (h : Quiet (inlineItems root pending xs) ys) :
    ys = xs.map (answer root pending) :=
  h.unique (quiet_inlineItems fun _ hv => quiet_items h hv)

theorem eq_map_of_quiet_entries {es fs : Entries}
    (h : Quiet (inlineEntries root pending es) fs) :
    fs = es.map fun e => (e.1, answer root pending e.2) :=
  h.unique (quiet_inlineEntries fun _ _ hv => quiet_entries h hv)

/-- A quiet answer on a node with a reference is made from quiet answers on its parts. -/
theorem quiet_reference_iff {es : Entries} {r : String} (hr : es.reference? = some r)
    (hp : r ∈ pending) {v : Value} :
    Quiet (inlineValue root pending (.object es)) v ↔
      ∃ target w others, Pointer.follow root r = .ok target ∧
        Quiet (inlineValue root (pending.filter (· ≠ r)) target) w ∧
        Quiet (inlineEntries root pending es) others ∧ merge r w (siblings others) = v := by
  rw [inlineValue_reference hr hp]
  simp only [quiet_bind_iff, quiet_ofExcept_iff, quiet_pure_iff]
  cases Pointer.follow root r <;> simp [Except.mapError]

theorem not_quiet_cycle {es : Entries} {r : String} (hr : es.reference? = some r)
    (hp : r ∉ pending) {v : Value} : ¬ Quiet (inlineValue root pending (.object es)) v := by
  rw [inlineValue_cycle hr hp, quiet_bind_iff]
  rintro ⟨_, h, -⟩
  cases h

/-- **More pending references do not change a quiet answer**: no reference was met that was not
pending, and so none is met now. -/
theorem quiet_mono {more : List String} {node v : Value} (hsub : pending ⊆ more)
    (h : Quiet (inlineValue root pending node) v) : Quiet (inlineValue root more node) v := by
  induction pending, node using inline_induction generalizing more v with
  | plain pending es hr ih =>
    rw [inlineValue_plain hr, quiet_bind_iff] at h ⊢
    obtain ⟨fs, hfs, h⟩ := h
    refine ⟨fs, ?_, h⟩
    rw [eq_map_of_quiet_entries hfs]
    exact quiet_inlineEntries fun k v hv => ih k v hv hsub (quiet_entries hfs hv)
  | reference pending es r hr hp iht ihe =>
    obtain ⟨target, w, others, ht, hw, ho, h⟩ := (quiet_reference_iff hr hp).1 h
    have hsub' : pending.filter (· ≠ r) ⊆ more.filter (· ≠ r) := by
      intro x hx
      obtain ⟨hx, hne⟩ := List.mem_filter.1 hx
      exact List.mem_filter.2 ⟨hsub hx, hne⟩
    refine (quiet_reference_iff hr (hsub hp)).2 ⟨target, w, others, ht, iht target hsub' hw, ?_, h⟩
    rw [eq_map_of_quiet_entries ho]
    exact quiet_inlineEntries fun k v hv => ihe k v hv hsub (quiet_entries ho hv)
  | cycle pending es r hr hp => exact absurd h (not_quiet_cycle hr hp)
  | list pending xs ih =>
    rw [inlineValue_list, quiet_bind_iff] at h ⊢
    obtain ⟨ys, hys, h⟩ := h
    refine ⟨ys, ?_, h⟩
    rw [eq_map_of_quiet_items hys]
    exact quiet_inlineItems fun v hv => ih v hv hsub (quiet_items hys hv)
  | leaf pending v ho hl =>
    rw [inlineValue_leaf ho hl] at h ⊢
    exact h

/-- Inlining a document that resolves quietly is quiet at every node that is entered. -/
theorem quiet_of_reached {result : Value} (hres : Quiet (resolve document) result) {node : Value}
    (h : Reached document stack node) :
    ∃ w, Quiet (inlineValue document (openReferences document stack) node) w := by
  induction h with
  | document =>
    rw [openReferences_nil]
    exact ⟨result, hres⟩
  | item _ hv ih =>
    obtain ⟨w, hw⟩ := ih
    rw [inlineValue_list, quiet_bind_iff] at hw
    obtain ⟨ys, hys, -⟩ := hw
    exact ⟨_, quiet_items hys hv⟩
  | @entry stack es k v h hc hv ih =>
    obtain ⟨w, hw⟩ := ih
    cases hr : es.reference? with
    | none =>
      rw [inlineValue_plain hr, quiet_bind_iff] at hw
      obtain ⟨fs, hfs, -⟩ := hw
      exact ⟨_, quiet_entries hfs hv⟩
    | some r =>
      have hp := (mem_openReferences_of_reached h hr).2 (hc r hr)
      obtain ⟨_, _, fs, -, -, hfs, -⟩ := (quiet_reference_iff hr hp).1 hw
      exact ⟨_, quiet_entries hfs hv⟩
  | @target stack es r v h hr hc hv ih =>
    obtain ⟨w, hw⟩ := ih
    have hp := (mem_openReferences_of_reached h hr).2 hc
    obtain ⟨target, w', _, ht, hw', -, -⟩ := (quiet_reference_iff hr hp).1 hw
    rw [hv] at ht
    cases ht
    rw [openReferences_cons]
    exact ⟨w', hw'⟩

/-! ## Resolved forms -/

/-- What a node of the document resolves to with an empty stack. -/
def resolvedForm (document node : Value) : Value := answer document document.references node

/-- The stack that a node is reached with does not change what it resolves to. -/
theorem quiet_resolvedForm {result : Value} (hres : Quiet (resolve document) result) {node : Value}
    (h : Reached document stack node) :
    Quiet (inlineValue document (openReferences document stack) node)
      (resolvedForm document node) := by
  obtain ⟨w, hw⟩ := quiet_of_reached hres h
  have hsub : openReferences document stack ⊆ document.references :=
    fun _ h => (List.mem_filter.1 h).1
  rw [resolvedForm, answer_eq_of_quiet (quiet_mono hsub hw)]
  exact hw

theorem siblings_map (es : Entries) (form : Value → Value) :
    siblings (es.map fun e => (e.1, form e.2)) = (siblings es).map fun e => (e.1, form e.2) := by
  unfold siblings
  rw [List.filter_map]
  rfl

/-- The equation that the resolved form of a node satisfies when nothing guards against cycles: it
is made from the resolved forms of the parts, and for a reference of the target and the siblings. -/
def Unfolds (document : Value) (form : Value → Value) : Value → Prop
  | .list xs => form (.list xs) = .list (xs.map form)
  | .object es =>
    match Entries.reference? es with
    | none => form (.object es) = .object (es.map fun e => (e.1, form e.2))
    | some r => ∃ target, Pointer.follow document r = .ok target ∧
        form (.object es) = merge r (form target) ((siblings es).map fun e => (e.1, form e.2))
  | v => form v = v

/-- The resolved forms of a document that resolves quietly satisfy the unguarded equations. -/
theorem unfolds_resolvedForm {result : Value} (hres : Quiet (resolve document) result)
    {node : Value} (hnode : Value.Holds node document) :
    Unfolds document (resolvedForm document) node := by
  have hreach := reached_of_holds hnode
  have hq := quiet_resolvedForm hres hreach
  cases node with
  | list xs =>
    rw [inlineValue_list, quiet_bind_iff] at hq
    obtain ⟨ys, hys, hq⟩ := hq
    have hitems := quiet_inlineItems fun v hv => quiet_resolvedForm hres (.item hreach hv)
    rw [hys.unique hitems] at hq
    exact (quiet_pure_iff.1 hq).symm
  | object es =>
    cases hr : Entries.reference? es with
    | none =>
      simp only [Unfolds, hr]
      have hentries := quiet_inlineEntries fun k v hv => quiet_resolvedForm hres
        (.entry (k := k) hreach (fun _ _ => List.not_mem_nil) hv)
      rw [inlineValue_plain hr, quiet_bind_iff] at hq
      obtain ⟨fs, hfs, hq⟩ := hq
      rw [hfs.unique hentries] at hq
      exact (quiet_pure_iff.1 hq).symm
    | some r =>
      simp only [Unfolds, hr]
      have hentries := quiet_inlineEntries fun k v hv => quiet_resolvedForm hres
        (.entry (k := k) hreach (fun _ _ => List.not_mem_nil) hv)
      have hp := (mem_openReferences_of_reached hreach hr).2 List.not_mem_nil
      obtain ⟨target, w, others, ht, hw, ho, hq⟩ := (quiet_reference_iff hr hp).1 hq
      have htarget := quiet_resolvedForm hres (.target hreach hr List.not_mem_nil ht)
      rw [openReferences_cons] at htarget
      rw [ho.unique hentries, hw.unique htarget, siblings_map] at hq
      exact ⟨target, ht, hq.symm⟩
  | _ =>
    rw [inlineValue_leaf (by simp) (by simp), quiet_pure_iff] at hq
    exact hq.symm

/-- A document that resolves without a warning on a cycle resolves quietly. -/
theorem quiet_resolve {result : Value} (hres : (resolve document).outcome = .ok result)
    (hlog : ∀ r, ⟨.warning, cycleWarning r⟩ ∉ (resolve document).log) :
    Quiet (resolve document) result := by
  refine quiet_iff.2 ⟨List.eq_nil_iff_forall_not_mem.2 fun record h => ?_, hres⟩
  obtain ⟨r, rfl⟩ := cycle_of_mem_log h
  exact hlog r h

/-- An object that another one overlays, with the reference kept: the reference answers for its own
key, then the last of the other entries, then the object. -/
theorem merge_object (r : String) (base others : Entries) :
    ∃ fs, merge r (.object base) others = .object fs ∧
      ∀ k, Entries.get? fs k = if (Key.text referenceKey).same k then some (.text r)
        else (Entries.get? others.reverse k).or (Entries.get? base k) := by
  refine ⟨_, rfl, fun k => ?_⟩
  rw [Entries.get?_put, Entries.get?_overlay]

/-- **The guard is transparent on documents without cycles.** When a document resolves and no cycle
is logged, each of its nodes has one resolved form: the result is that of the document, the forms
satisfy the unguarded equations at every node, whatever stack a node is reached with it resolves to
its form, and two references to one target with the same siblings have forms that differ in the kept
reference only. -/
theorem resolve_unguarded {document result : Value}
    (hres : (resolve document).outcome = .ok result)
    (hlog : ∀ r, ⟨.warning, cycleWarning r⟩ ∉ (resolve document).log) :
    ∃ form : Value → Value, form document = result ∧
      (∀ node, Value.Holds node document → Unfolds document form node) ∧
      (∀ stack node, Reached document stack node →
        Quiet (inlineValue document (openReferences document stack) node) (form node)) ∧
      ∀ es fs r s, Value.Holds (.object es) document → Value.Holds (.object fs) document →
        Entries.reference? es = some r → Entries.reference? fs = some s →
        Pointer.follow document r = Pointer.follow document s → siblings es = siblings fs →
        ∃ target others, form (.object es) = merge r target others ∧
          form (.object fs) = merge s target others := by
  have hq := quiet_resolve hres hlog
  have hunfolds : ∀ node, Value.Holds node document →
      Unfolds document (resolvedForm document) node := fun _ => unfolds_resolvedForm hq
  refine ⟨resolvedForm document, answer_eq_of_quiet hq, hunfolds,
    fun stack node h => quiet_resolvedForm hq h, ?_⟩
  intro es fs r s hes hfs hr hs hsame hsib
  have he := hunfolds _ hes
  have hf := hunfolds _ hfs
  simp only [Unfolds, hr] at he
  simp only [Unfolds, hs] at hf
  obtain ⟨target, ht, he⟩ := he
  obtain ⟨target', ht', hf⟩ := hf
  rw [hsame, ht'] at ht
  cases ht
  exact ⟨_, _, he, by rw [hf, hsib]⟩

/-- A document in which two entries refer to one target. -/
def parallelBranches : Value :=
  .object [(.text "x", .object [(.text "$ref", .text "#/b")]),
    (.text "y", .object [(.text "$ref", .text "#/b")]),
    (.text "b", .object [(.text "k", .null)])]

theorem quiet_parallelBranches : Quiet (resolve parallelBranches)
    (.object [(.text "x", .object [(.text "k", .null), (.text "$ref", .text "#/b")]),
      (.text "y", .object [(.text "k", .null), (.text "$ref", .text "#/b")]),
      (.text "b", .object [(.text "k", .null)])]) := by
  unfold Quiet
  cbv

/-- Both branches get the target, and neither is taken for a cycle. -/
theorem resolve_unguarded_parallelBranches :
    ∃ form : Value → Value,
      form parallelBranches =
        .object [(.text "x", .object [(.text "k", .null), (.text "$ref", .text "#/b")]),
          (.text "y", .object [(.text "k", .null), (.text "$ref", .text "#/b")]),
          (.text "b", .object [(.text "k", .null)])] ∧
      ∀ node, Value.Holds node parallelBranches → Unfolds parallelBranches form node := by
  obtain ⟨hlog, hres⟩ := quiet_iff.1 quiet_parallelBranches
  obtain ⟨form, hform, hunfolds, -⟩ := resolve_unguarded hres (by simp [hlog])
  exact ⟨form, hform, hunfolds⟩

end SdkModel.Reference
