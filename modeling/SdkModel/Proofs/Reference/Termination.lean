import Mathlib.Data.Finset.Card
import Mathlib.Logic.Function.Iterate
import SdkModel.Proofs.Reference.Rejection

/-!
# Inlining ends

Inlining is a recursion over nodes and stacks of references: `inlineCall` is the body of one call,
with an argument that stands for the calls it makes itself (`Calls`), and inlining is its fixed
point (`inlineCall_inlineUnder`). That the recursion ends is said without its definition: unfolding
the body often enough leaves nothing of what stands at the bottom (`inlining_terminates`).

A target may be larger than the node that refers to it, so the size of the node is no measure. What
falls is the pair of the references that are not on the stack and the size of the node, weighed so
that one reference is worth the whole document (`callDepth`). Siblings are entered with the stack of
their node, which loses nothing: the pair is compared along a branch, not across branches.
-/

namespace SdkModel.Reference

variable {document node v w : Value} {stack stack' : List String}

/-! ## One call -/

/-- What a node resolves to while the references of `stack` are being inlined. -/
def inlineUnder (document : Value) (stack : List String) (node : Value) : Build Value :=
  inlineValue document (openReferences document stack) node

/-- The entries of a node with `answer` taken of their values. -/
def entriesBy (answer : Value → Build Value) (es : Entries) : Build Entries :=
  Logged.each (fun e => (fun v => (e.1, v)) <$> answer e.2) es

/-- One call of inlining; `answer` stands for what it calls itself on. -/
def inlineCall (document : Value) (answer : List String → Value → Build Value)
    (stack : List String) : Value → Build Value
  | .object es =>
    match Entries.reference? es with
    | none => do return .object (← entriesBy (answer stack) es)
    | some r =>
      if r ∈ stack then do
        .write .warning (cycleWarning r)
        return .object es
      else do
        let target ← Logged.ofExcept ((Pointer.follow document r).mapError .document)
        let target ← answer (r :: stack) target
        let others ← entriesBy (answer stack) es
        return merge r target (siblings others)
  | .list xs => do return .list (← Logged.each (answer stack) xs)
  | v => return v

/-- Inlining is a fixed point of its body at every node of the document, with any stack. -/
theorem inlineCall_inlineUnder (hnode : Value.Holds node document) (stack : List String) :
    inlineCall document (inlineUnder document) stack node = inlineUnder document stack node := by
  have hentries (es : Entries) : entriesBy (inlineUnder document stack) es =
      inlineEntries document (openReferences document stack) es := (inlineEntries_eq es).symm
  cases node with
  | object es =>
    cases hr : Entries.reference? es with
    | none =>
      rw [inlineUnder, inlineValue_plain hr, inlineCall, hr]
      simp only [hentries]
    | some r =>
      have hopen : r ∈ openReferences document stack ↔ r ∉ stack := by
        have hd := reference_mem_of_holds hnode hr
        simp [openReferences, hd]
      by_cases hc : r ∈ stack
      · rw [inlineUnder, inlineValue_cycle hr fun h => hopen.1 h hc, inlineCall, hr]
        simp only [if_pos hc]
      · rw [inlineUnder, inlineValue_reference hr (hopen.2 hc), inlineCall, hr,
          ← openReferences_cons]
        simp only [if_neg hc, hentries]
        rfl
  | list xs =>
    rw [inlineUnder, inlineValue_list, inlineItems_eq]
    rfl
  | _ => rw [inlineUnder, inlineValue_leaf (by simp) (by simp), inlineCall] <;> simp

/-- The calls that a call of inlining makes itself. -/
inductive Calls (document : Value) : List String → Value → List String → Value → Prop
  | item {stack : List String} {xs : List Value} {v : Value} (hv : v ∈ xs) :
      Calls document stack (.list xs) stack v
  | entry {stack : List String} {es : Entries} {k : Key} {v : Value} (hv : (k, v) ∈ es) :
      Calls document stack (.object es) stack v
  | target {stack : List String} {es : Entries} {r : String} {v : Value}
      (hr : es.reference? = some r) (hc : r ∉ stack) (hv : Pointer.follow document r = .ok v) :
      Calls document stack (.object es) (r :: stack) v

theorem holds_of_calls (hnode : Value.Holds node document)
    (h : Calls document stack node stack' v) : Value.Holds v document := by
  cases h with
  | item hv => exact (holds_item hv).trans hnode
  | entry hv => exact (holds_entry hv).trans hnode
  | target _ _ hv => exact Pointer.holds_of_follow hv

/-- A call reads what it calls itself on, and no other answers. -/
theorem inlineCall_congr {f g : List String → Value → Build Value}
    (h : ∀ stack' v, Calls document stack node stack' v → f stack' v = g stack' v) :
    inlineCall document f stack node = inlineCall document g stack node := by
  cases node with
  | object es =>
    have hentries : entriesBy (f stack) es = entriesBy (g stack) es :=
      Logged.each_congr fun e he => by rw [h stack e.2 (.entry (k := e.1) he)]
    cases hr : Entries.reference? es with
    | none =>
      rw [inlineCall, inlineCall, hr]
      simp only [hentries]
    | some r =>
      rw [inlineCall, inlineCall, hr]
      by_cases hc : r ∈ stack
      · simp only [if_pos hc]
      · simp only [if_neg hc, hentries]
        refine Logged.bind_congr_ok fun target ht => ?_
        rw [h (r :: stack) target (.target hr hc (follow_outcome_iff.1 ht))]
  | list xs =>
    rw [inlineCall, inlineCall, Logged.each_congr fun x hx => h stack x (.item hx)]
  | _ => rfl

/-! ## The measure -/

theorem sizeOf_le_of_holds (h : Value.Holds node document) : sizeOf node ≤ sizeOf document := by
  induction h with
  | self => exact Nat.le_refl _
  | item hv _ ih => exact Nat.le_trans ih (Nat.le_of_lt (Value.sizeOf_lt_of_mem_list hv))
  | entry hv _ ih => exact Nat.le_trans ih (Nat.le_of_lt (Value.sizeOf_lt_of_mem_object hv))

/-- The distinct references of the document that are not on the stack. -/
def openCount (document : Value) (stack : List String) : Nat :=
  (openReferences document stack).toFinset.card

/-- Enough nested calls for a node: a reference that can still be followed is worth as many as the
size of the document. -/
noncomputable def callDepth (document : Value) (stack : List String) (node : Value) : Nat :=
  openCount document stack * sizeOf document + sizeOf node

theorem openCount_cons_lt {es : Entries} {r : String}
    (hnode : Value.Holds (.object es) document) (hr : Entries.reference? es = some r)
    (hc : r ∉ stack) : openCount document (r :: stack) < openCount document stack := by
  have hmem : r ∈ openReferences document stack := by
    simp [openReferences, hc, reference_mem_of_holds hnode hr]
  have herase : (openReferences document (r :: stack)).toFinset =
      (openReferences document stack).toFinset.erase r := by
    ext x
    simp only [openReferences_cons, List.mem_toFinset, List.mem_filter, decide_eq_true_eq,
      Finset.mem_erase]
    exact and_comm
  rw [openCount, herase]
  exact Finset.card_erase_lt_of_mem (List.mem_toFinset.2 hmem)

/-- Every call that a call makes itself needs less depth. -/
theorem callDepth_lt (hnode : Value.Holds node document)
    (h : Calls document stack node stack' v) :
    callDepth document stack' v < callDepth document stack node := by
  unfold callDepth
  cases h with
  | item hv => exact Nat.add_lt_add_left (Value.sizeOf_lt_of_mem_list hv) _
  | entry hv => exact Nat.add_lt_add_left (Value.sizeOf_lt_of_mem_object hv) _
  | @target es r _ hr hc hv =>
    have hlt := openCount_cons_lt hnode hr hc
    have hsize := sizeOf_le_of_holds (Pointer.holds_of_follow hv)
    have hpos : 0 < sizeOf (Value.object es) := by
      simp only [Value.object.sizeOf_spec]
      omega
    calc openCount document (r :: stack) * sizeOf document + sizeOf v
      _ ≤ openCount document (r :: stack) * sizeOf document + sizeOf document :=
        Nat.add_le_add_left hsize _
      _ = (openCount document (r :: stack) + 1) * sizeOf document := (Nat.succ_mul _ _).symm
      _ ≤ openCount document stack * sizeOf document := Nat.mul_le_mul_right _ hlt
      _ < openCount document stack * sizeOf document + sizeOf (Value.object es) :=
        Nat.lt_add_of_pos_right hpos

/-- Induction along the calls: a node follows from what its call calls itself on. -/
theorem calls_induction {motive : List String → Value → Prop}
    (step : ∀ stack node, Value.Holds node document →
      (∀ stack' v, Calls document stack node stack' v → motive stack' v) → motive stack node)
    (stack : List String) (hnode : Value.Holds node document) : motive stack node := by
  induction h : callDepth document stack node using Nat.strongRecOn generalizing stack node with
  | ind n ih =>
    refine step stack node hnode fun stack' v hcall => ?_
    have hlt := callDepth_lt hnode hcall
    exact ih _ (h ▸ hlt) stack' (holds_of_calls hnode hcall) rfl

/-- Unfolding the body as often as the depth says leaves nothing of what it is applied to. -/
theorem iterate_inlineCall (bottom : List String → Value → Build Value)
    (hnode : Value.Holds node document) {n : Nat} (hn : callDepth document stack node ≤ n) :
    (inlineCall document)^[n] bottom stack node = inlineUnder document stack node := by
  induction n generalizing stack node with
  | zero =>
    have hpos : 0 < sizeOf node := by cases node <;> simp +arith
    unfold callDepth at hn
    omega
  | succ n ih =>
    rw [Function.iterate_succ_apply', ← inlineCall_inlineUnder hnode]
    refine inlineCall_congr fun stack' v hcall => ?_
    have hlt := callDepth_lt hnode hcall
    exact ih (holds_of_calls hnode hcall) (by omega)

/-! ## Branches -/

/-- A chain of nested calls from `node` under `stack`: the references that were expanded along it,
the last one first, and the node that it has come to. -/
inductive Branch (document : Value) (stack : List String) (node : Value) :
    List String → Value → Prop
  | start : Branch document stack node [] node
  | call {expanded expanded' : List String} {v w : Value}
      (h : Branch document stack node expanded v)
      (hcall : Calls document (expanded ++ stack) v (expanded' ++ stack) w) :
      Branch document stack node expanded' w

theorem holds_of_branch {expanded : List String} (hnode : Value.Holds node document)
    (h : Branch document stack node expanded v) : Value.Holds v document := by
  induction h with
  | start => exact hnode
  | call _ hcall ih => exact holds_of_calls ih hcall

/-- A call keeps the stack, or puts a reference of the document on it that was not there. -/
theorem stack_of_calls (hnode : Value.Holds node document)
    (h : Calls document stack node stack' v) :
    stack' = stack ∨ ∃ r ∈ document.references, r ∉ stack ∧ stack' = r :: stack := by
  cases h with
  | item => exact .inl rfl
  | entry => exact .inl rfl
  | target hr hc => exact .inr ⟨_, reference_mem_of_holds hnode hr, hc, rfl⟩

/-- A branch expands references of the document, none of them twice. -/
theorem nodup_of_branch {expanded : List String} (hnode : Value.Holds node document)
    (h : Branch document stack node expanded v) :
    expanded.Nodup ∧ expanded ⊆ document.references := by
  induction h with
  | start => exact ⟨List.nodup_nil, List.nil_subset _⟩
  | @call expanded expanded' v w hbranch hcall ih =>
    obtain ⟨hnodup, hsub⟩ := ih
    obtain hkeep | ⟨r, hr, hnew, hput⟩ := stack_of_calls (holds_of_branch hnode hbranch) hcall
    · cases List.append_cancel_right hkeep
      exact ⟨hnodup, hsub⟩
    · have hcons : expanded' = r :: expanded := by
        rw [← List.cons_append] at hput
        exact List.append_cancel_right hput
      subst hcons
      have hfree : r ∉ expanded := fun h => hnew (List.mem_append_left _ h)
      exact ⟨List.nodup_cons.2 ⟨hfree, hnodup⟩, List.cons_subset.2 ⟨hr, hsub⟩⟩

/-- The distinct references of a document. -/
def referenceCount (document : Value) : Nat := document.references.toFinset.card

theorem length_le_of_branch {expanded : List String} (hnode : Value.Holds node document)
    (h : Branch document stack node expanded v) : expanded.length ≤ referenceCount document := by
  obtain ⟨hnodup, hsub⟩ := nodup_of_branch hnode h
  rw [← List.toFinset_card_of_nodup hnodup]
  refine Finset.card_le_card fun r hr => ?_
  exact List.mem_toFinset.2 (hsub (List.mem_toFinset.1 hr))

/-- **Inlining ends on every document.** From any node of a document and with any stack: unfolding
the calls often enough gives the answer of inlining, whatever stands in place of the calls below;
the answer is a value or the error of a document; and no branch of the recursion expands more
references than the document has distinct ones. -/
theorem inlining_terminates {document node : Value} (hnode : Value.Holds node document)
    (stack : List String) :
    (∃ depth, ∀ n, depth ≤ n → ∀ bottom : List String → Value → Build Value,
      (inlineCall document)^[n] bottom stack node = inlineUnder document stack node) ∧
    ((∃ v, (inlineUnder document stack node).outcome = .ok v) ∨
      ∃ e, (inlineUnder document stack node).outcome = .error (.document e)) ∧
    ∀ expanded v, Branch document stack node expanded v →
      expanded.length ≤ referenceCount document := by
  refine ⟨⟨callDepth document stack node, fun n hn bottom => iterate_inlineCall bottom hnode hn⟩,
    ?_, fun expanded v => length_le_of_branch hnode⟩
  cases h : (inlineUnder document stack node).outcome with
  | ok v => exact .inl ⟨v, rfl⟩
  | error f =>
    obtain ⟨_, _, e, -, -, -, rfl⟩ := error_cause hnode h
    exact .inr ⟨e, rfl⟩

/-- A document whose two schemas refer to each other. -/
def mutualDocument : Value :=
  .object [(.text "a", .object [(.text "$ref", .text "#/b")]),
    (.text "b", .object [(.text "of", .object [(.text "$ref", .text "#/a")])])]

/-- From either schema's reference, and with the other one's already on the stack. -/
theorem inlining_terminates_mutual :
    Value.Holds mutualDocument mutualDocument ∧
    (∃ depth, ∀ n, depth ≤ n → ∀ bottom : List String → Value → Build Value,
      (inlineCall mutualDocument)^[n] bottom ["#/a"] mutualDocument =
        inlineUnder mutualDocument ["#/a"] mutualDocument) ∧
    referenceCount mutualDocument = 2 ∧
    ∀ expanded v, Branch mutualDocument ["#/a"] mutualDocument expanded v →
      expanded.length ≤ 2 := by
  have hself : Value.Holds mutualDocument mutualDocument := .self
  have hcount : referenceCount mutualDocument = 2 := by decide +kernel
  obtain ⟨hdepth, -, hbranch⟩ := inlining_terminates hself ["#/a"]
  refine ⟨hself, hdepth, hcount, fun expanded v h => ?_⟩
  rw [← hcount]
  exact hbranch expanded v h

end SdkModel.Reference
