import SdkModel.Proofs.Reference.Termination
import SdkModel.Proofs.Reference.Unguarded

/-!
# Where the parts of a resolved document come from

Every object of a resolved document was made on one branch of inlining: either a call answered it,
or a cycle copied it with the node that it stands in (`Made`). On such a branch an object with a
reference is settled when it has the keys of the object that the reference names, or when the
reference was being expanded there.

Objects that a call answers for a node with a textual reference are settled. Two kinds of objects
need not be: those that a cycle copies, since the other entries of a cyclic node are not inlined,
and those whose textual reference is itself what a reference resolved to.
-/

namespace SdkModel

/-! ## Places -/

/-- A way one level down: to an entry of an object or to an item of a list. -/
inductive Part where
  | entry (k : Key)
  | item (i : Nat)
deriving DecidableEq, Repr

namespace Value

def part? : Part → Value → Option Value
  | .entry k, .object es => Entries.get? es k
  | .item i, .list xs => xs[i]?
  | _, _ => none

/-- What stands at a place of a value. -/
def nodeAt? : List Part → Value → Option Value
  | [], v => some v
  | p :: place, v => (part? p v).bind (nodeAt? place)

end Value

theorem nodeAt?_cons (p : Part) (place : List Part) (v : Value) :
    v.nodeAt? (p :: place) = (v.part? p).bind (Value.nodeAt? place) := rfl

theorem nodeAt?_cons_of_part? {p : Part} {place : List Part} {v w : Value}
    (h : v.part? p = some w) : v.nodeAt? (p :: place) = w.nodeAt? place := by
  rw [nodeAt?_cons, h]
  rfl

theorem part?_object (k : Key) (es : Entries) :
    (Value.object es).part? (.entry k) = es.get? k := rfl

theorem part?_list (i : Nat) (xs : List Value) : (Value.list xs).part? (.item i) = xs[i]? := rfl

/-- What is neither an object nor a list has no parts. -/
theorem part?_leaf {v : Value} (ho : ∀ es, v ≠ .object es) (hl : ∀ xs, v ≠ .list xs) (p : Part) :
    v.part? p = none := by
  cases v with
  | object es => exact absurd rfl (ho es)
  | list xs => exact absurd rfl (hl xs)
  | _ => cases p <;> rfl

/-- No object stands inside a text. -/
theorem nodeAt?_text_ne_object (place : List Part) (s : String) (es : Entries) :
    (Value.text s).nodeAt? place ≠ some (.object es) := by
  cases place with
  | nil => simp [Value.nodeAt?]
  | cons p place =>
    rw [nodeAt?_cons, part?_leaf (by simp) (by simp)]
    simp

section Rel

variable {rel : Value → Value → Prop} {a b : Option Value} {x y : Value}

/-- A part on the left has its counterpart on the right. -/
theorem exists_right_of_rel (h : Option.Rel rel a b) (ha : a = some x) :
    ∃ y, b = some y ∧ rel x y := by
  subst ha
  cases h with
  | some h => exact ⟨_, rfl, h⟩

theorem exists_left_of_rel (h : Option.Rel rel a b) (hb : b = some y) :
    ∃ x, a = some x ∧ rel x y := by
  subst hb
  cases h with
  | some h => exact ⟨_, rfl, h⟩

theorem rel_getElem? {xs ys : List Value} (h : List.Forall₂ rel xs ys) (i : Nat) :
    Option.Rel rel xs[i]? ys[i]? := by
  induction h generalizing i with
  | nil => exact .none
  | cons hxy _ ih =>
    cases i with
    | zero => exact .some hxy
    | succ i => exact ih i

end Rel

namespace Reference

variable {document node v w : Value} {stack branch : List String} {es fs : Entries} {r : String}
variable {part : Part} {place : List Part}

/-! ## Answers -/

/-- The node resolves to `v` while the references of `stack` are being inlined. -/
def Answers (document : Value) (stack : List String) (node v : Value) : Prop :=
  (inlineUnder document stack node).outcome = .ok v

/-- A node is answered in one way under a stack. -/
theorem Answers.unique (hv : Answers document stack node v) (hw : Answers document stack node w) :
    v = w := by
  have h : Except.ok v = Except.ok w := hv.symm.trans hw
  cases h
  rfl

/-- A node of the document is answered by the call that resolves it. -/
theorem answers_iff (hnode : Value.Holds node document) : Answers document stack node v ↔
    (inlineCall document (inlineUnder document) stack node).outcome = .ok v := by
  rw [inlineCall_inlineUnder hnode]
  rfl

/-- Entries are answered one by one, each under its own key. -/
theorem entriesBy_ok_iff : (entriesBy (inlineUnder document stack) es).outcome = .ok fs ↔
    Entries.Aligned (Answers document stack) es fs := by
  rw [entriesBy, Logged.each_ok_iff]
  refine ⟨fun h => h.imp fun e f hef => ?_, fun h => h.imp fun e f hef => ?_⟩
  · obtain ⟨w, hw, rfl⟩ := Logged.map_ok_iff.1 hef
    exact ⟨rfl, hw⟩
  · exact Logged.map_ok_iff.2 ⟨f.2, hef.2, Prod.ext hef.1 rfl⟩

/-- A list is answered item by item. -/
theorem answers_list_iff {xs : List Value} (hnode : Value.Holds (.list xs) document) :
    Answers document stack (.list xs) v ↔
      ∃ ys, List.Forall₂ (Answers document stack) xs ys ∧ .list ys = v := by
  rw [answers_iff hnode, inlineCall, Logged.bind_ok_iff]
  simp only [Logged.each_ok_iff, Logged.outcome_pure, Except.ok.injEq]
  rfl

/-- An object without a reference is answered entry by entry. -/
theorem answers_plain_iff (hnode : Value.Holds (.object es) document)
    (hr : es.reference? = none) : Answers document stack (.object es) v ↔
      ∃ fs, Entries.Aligned (Answers document stack) es fs ∧ .object fs = v := by
  rw [answers_iff hnode, inlineCall, hr]
  simp only [Logged.bind_ok_iff, entriesBy_ok_iff, Logged.outcome_pure, Except.ok.injEq]

/-- A reference that is being followed is left as it stands. -/
theorem answers_cycle_iff (hnode : Value.Holds (.object es) document)
    (hr : es.reference? = some r) (hc : r ∈ stack) :
    Answers document stack (.object es) v ↔ .object es = v := by
  rw [answers_iff hnode, inlineCall, hr]
  simp only [if_pos hc, Logged.bind_ok_iff, Logged.outcome_pure, Except.ok.injEq]
  constructor
  · rintro ⟨_, -, h⟩
    exact h
  · intro h
    exact ⟨(), rfl, h⟩

/-- Any other reference is answered by its target with what stands next to it laid over. -/
theorem answers_reference_iff (hnode : Value.Holds (.object es) document)
    (hr : es.reference? = some r) (hc : r ∉ stack) : Answers document stack (.object es) v ↔
      ∃ target w others, Pointer.follow document r = .ok target ∧
        Answers document (r :: stack) target w ∧
        Entries.Aligned (Answers document stack) es others ∧
        merge r w (siblings others) = v := by
  rw [answers_iff hnode, inlineCall, hr]
  simp only [if_neg hc, Logged.bind_ok_iff, entriesBy_ok_iff, follow_outcome_iff,
    Logged.outcome_pure, Except.ok.injEq, exists_and_left]
  rfl

/-- A value that is neither an object nor a list stands for itself. -/
theorem answers_leaf_iff (hnode : Value.Holds node document) (ho : ∀ es, node ≠ .object es)
    (hl : ∀ xs, node ≠ .list xs) : Answers document stack node v ↔ node = v := by
  rw [answers_iff hnode]
  cases node with
  | object es => exact absurd rfl (ho es)
  | list xs => exact absurd rfl (hl xs)
  | _ => simp [inlineCall]

/-! ## Siblings -/

/-- What stands next to a reference is answered as it would be elsewhere. -/
theorem aligned_siblings {others : Entries}
    (h : Entries.Aligned (Answers document stack) es others) :
    Entries.Aligned (Answers document stack) (siblings es).reverse (siblings others).reverse :=
  Entries.aligned_reverse (Entries.aligned_filter (fun k => !k.same (.text referenceKey)) h)

/-- Siblings stand under other keys than the reference. -/
theorem not_same_of_sibling {k : Key} (h : (Entries.get? (siblings es).reverse k).isSome) :
    ¬ (Key.text referenceKey).same k = true := by
  rw [Entries.isSome_get?_reverse, Entries.isSome_get?_iff] at h
  obtain ⟨e, he, hk⟩ := h
  obtain ⟨-, hne⟩ := List.mem_filter.1 he
  intro hsame
  rw [Key.same_congr hk, Key.same_iff.2 (Key.same_iff.1 hsame).symm] at hne
  cases hne

/-- Every other key than that of the reference is a sibling's. -/
theorem isSome_siblings {k : Key} (h : (es.get? k).isSome)
    (hk : ¬ (Key.text referenceKey).same k = true) :
    (Entries.get? (siblings es).reverse k).isSome := by
  rw [Entries.isSome_get?_iff] at h
  obtain ⟨e, he, hek⟩ := h
  rw [Entries.isSome_get?_reverse, Entries.isSome_get?_iff]
  refine ⟨e, List.mem_filter.2 ⟨he, ?_⟩, hek⟩
  rw [Bool.not_eq_true', Bool.eq_false_iff]
  intro hsame
  refine hk (Key.same_iff.2 ?_)
  exact (Key.same_iff.1 hsame).symm.trans (Key.same_iff.1 hek)

/-- No entry next to the reference takes the place of this part of the target. -/
def Kept (es : Entries) (part : Part) : Prop :=
  ∀ k, part = .entry k →
    Entries.get? (siblings es).reverse k = none ∧ ¬ (Key.text referenceKey).same k = true

/-- Only an object can have anything laid over it. -/
theorem object_of_merge {others : Entries} (h : merge r w others = .object fs) :
    ∃ base, w = .object base := by
  cases w with
  | object base => exact ⟨base, rfl⟩
  | _ => cases h

/-- A sibling shows in the merged object under its key. -/
theorem part?_merge_sibling {base others : Entries} {k : Key}
    (hk : ¬ (Key.text referenceKey).same k = true)
    (h : Entries.get? others.reverse k = some v) :
    (merge r (.object base) others).part? (.entry k) = some v := by
  obtain ⟨fs, hfs, hget⟩ := merge_object r base others
  rw [hfs, Value.part?, hget, if_neg hk, h]
  rfl

/-- A part of the target that no sibling replaces shows in the merged value. -/
theorem part?_merge_target {others : Entries}
    (hk : ∀ k, part = .entry k →
      Entries.get? others.reverse k = none ∧ ¬ (Key.text referenceKey).same k = true) :
    (merge r w others).part? part = w.part? part := by
  cases w with
  | object base =>
    cases part with
    | entry k =>
      obtain ⟨hnone, hsame⟩ := hk k rfl
      obtain ⟨fs, hfs, hget⟩ := merge_object r base others
      rw [hfs, Value.part?, hget, if_neg hsame, hnone]
      rfl
    | item i => rfl
  | _ => rfl

/-- A part of the target that the siblings leave is left by what they resolve to. -/
theorem kept_aligned {others : Entries}
    (h : Entries.Aligned (Answers document stack) es others) (hk : Kept es part) :
    ∀ k, part = .entry k → Entries.get? (siblings others).reverse k = none ∧
      ¬ (Key.text referenceKey).same k = true := by
  intro k hpart
  obtain ⟨hnone, hsame⟩ := hk k hpart
  have hrel := Entries.get?_aligned (aligned_siblings h) k
  rw [hnone] at hrel
  generalize hget : Entries.get? (siblings others).reverse k = found at hrel ⊢
  cases hrel
  exact ⟨rfl, hsame⟩

/-- A part of a resolved reference is one of its target unless something next to the reference
replaced it. -/
theorem kept_or_entry (es : Entries) (part : Part) :
    Kept es part ∨ ∃ k, part = .entry k ∧
      ¬ (Entries.get? (siblings es).reverse k = none ∧
        ¬ (Key.text referenceKey).same k = true) := by
  by_cases h : Kept es part
  · exact .inl h
  · unfold Kept at h
    push Not at h
    obtain ⟨k, hk, hnot⟩ := h
    exact .inr ⟨k, hk, fun hkept => hkept.2 (hnot hkept.1)⟩

/-- Only a merged object has entries. -/
theorem object_of_part?_merge {others : Entries} {k : Key}
    (h : (merge r w others).part? (.entry k) = some v) : ∃ base, w = .object base := by
  cases w with
  | object base => exact ⟨base, rfl⟩
  | _ => cases h

/-- What stands at a place that the siblings take is the answer of one of them. -/
theorem sibling_of_part?_merge {base others : Entries} {k : Key}
    (ho : Entries.Aligned (Answers document stack) es others)
    (hk : ¬ (Entries.get? (siblings es).reverse k = none ∧ ¬ (Key.text referenceKey).same k = true))
    (h : (merge r (.object base) (siblings others)).part? (.entry k) = some v)
    (hv : v ≠ .text r) :
    ∃ x, Entries.get? (siblings es).reverse k = some x ∧ Answers document stack x v := by
  obtain ⟨fs, hfs, hget⟩ := merge_object r base (siblings others)
  rw [hfs, part?_object, hget] at h
  by_cases hsame : (Key.text referenceKey).same k = true
  · rw [if_pos hsame] at h
    cases h
    exact absurd rfl hv
  · rw [if_neg hsame] at h
    have hrel := Entries.get?_aligned (aligned_siblings ho) k
    cases hx : Entries.get? (siblings es).reverse k with
    | none => exact absurd ⟨hx, hsame⟩ hk
    | some x =>
      obtain ⟨y, hy, hxy⟩ := exists_right_of_rel hrel hx
      rw [hy] at h
      cases h
      exact ⟨x, rfl, hxy⟩

/-! ## Origins -/

/-- What an object of the resolved document is: the answer of a call on a node, or a copy of a node
below a cycle. -/
inductive Origin where
  | answered (node : Value)
  | copied (node : Value)

def Origin.Shows (document : Value) (branch : List String) : Origin → Value → Prop
  | .answered node, v => Answers document branch node v
  | .copied node, v => v = node

/-- What stands at a place of the answer on a node was made on the branch, in the way that the
origin says. -/
inductive Made (document : Value) :
    List String → Value → List Part → List String → Origin → Prop
  | here {stack : List String} {node : Value} :
      Made document stack node [] stack (.answered node)
  | item {stack branch : List String} {xs : List Value} {i : Nat} {v : Value}
      {place : List Part} {origin : Origin} (hv : xs[i]? = some v)
      (h : Made document stack v place branch origin) :
      Made document stack (.list xs) (.item i :: place) branch origin
  | entry {stack branch : List String} {es : Entries} {k : Key} {v : Value}
      {place : List Part} {origin : Origin} (hr : es.reference? = none) (hv : es.get? k = some v)
      (h : Made document stack v place branch origin) :
      Made document stack (.object es) (.entry k :: place) branch origin
  | copy {stack : List String} {es : Entries} {r : String} {part : Part} {place : List Part}
      {v : Value} (hr : es.reference? = some r) (hc : r ∈ stack)
      (hv : (Value.object es).nodeAt? (part :: place) = some v) :
      Made document stack (.object es) (part :: place) stack (.copied v)
  | sibling {stack branch : List String} {es base : Entries} {r : String} {k : Key}
      {target v : Value} {place : List Part} {origin : Origin} (hr : es.reference? = some r)
      (hc : r ∉ stack) (ht : Pointer.follow document r = .ok target)
      (hb : Answers document (r :: stack) target (.object base))
      (hv : Entries.get? (siblings es).reverse k = some v)
      (h : Made document stack v place branch origin) :
      Made document stack (.object es) (.entry k :: place) branch origin
  | target {stack branch : List String} {es : Entries} {r : String} {target : Value} {part : Part}
      {place : List Part} {origin : Origin} (hr : es.reference? = some r) (hc : r ∉ stack)
      (ht : Pointer.follow document r = .ok target) (hk : Kept es part)
      (h : Made document (r :: stack) target (part :: place) branch origin) :
      Made document stack (.object es) (part :: place) branch origin

/-- An entry of a plain object is resolved under the stack of the object. -/
theorem calls_of_get? {k : Key} (h : es.get? k = some v) :
    Calls document stack (.object es) stack v := by
  obtain ⟨e, he, rfl⟩ := Option.map_eq_some_iff.1 h
  exact .entry (List.mem_of_find?_eq_some he)

/-- So is an entry next to a reference. -/
theorem calls_of_sibling {k : Key} (h : Entries.get? (siblings es).reverse k = some v) :
    Calls document stack (.object es) stack v := by
  obtain ⟨e, he, rfl⟩ := Option.map_eq_some_iff.1 h
  have hmem := List.mem_reverse.1 (List.mem_of_find?_eq_some he)
  exact .entry (List.mem_filter.1 hmem).1

/-- What is made at a place does stand there. -/
theorem shows_of_made {origin : Origin} (h : Made document stack node place branch origin)
    (hnode : Value.Holds node document) (hv : Answers document stack node v) :
    ∃ w, v.nodeAt? place = some w ∧ origin.Shows document branch w := by
  induction h generalizing v with
  | here => exact ⟨v, rfl, hv⟩
  | @item stack _ xs i x _ _ hx _ ih =>
    obtain ⟨ys, hys, rfl⟩ := (answers_list_iff hnode).1 hv
    obtain ⟨y, hy, hxy⟩ := exists_right_of_rel (rel_getElem? hys i) hx
    obtain ⟨w, hw, hshows⟩ := ih ((holds_item (List.mem_of_getElem? hx)).trans hnode) hxy
    rw [← part?_list] at hy
    exact ⟨w, (nodeAt?_cons_of_part? hy).trans hw, hshows⟩
  | @entry stack _ es k x _ _ hr hx _ ih =>
    obtain ⟨fs, hfs, rfl⟩ := (answers_plain_iff hnode hr).1 hv
    obtain ⟨y, hy, hxy⟩ := exists_right_of_rel (Entries.get?_aligned hfs k) hx
    obtain ⟨w, hw, hshows⟩ := ih ((holds_of_get? hx).trans hnode) hxy
    rw [← part?_object] at hy
    exact ⟨w, (nodeAt?_cons_of_part? hy).trans hw, hshows⟩
  | copy hr hc hx =>
    cases (answers_cycle_iff hnode hr hc).1 hv
    exact ⟨_, hx, rfl⟩
  | @sibling stack _ es base r k target x _ _ hr hc ht hb hx _ ih =>
    obtain ⟨target', t, others, ht', hanswer, hothers, rfl⟩ :=
      (answers_reference_iff hnode hr hc).1 hv
    cases ht.symm.trans ht'
    cases hb.unique hanswer
    have hrel := Entries.get?_aligned (aligned_siblings hothers) k
    obtain ⟨y, hy, hxy⟩ := exists_right_of_rel hrel hx
    have hsame := not_same_of_sibling (Option.isSome_of_mem hx)
    have hcall : Calls document stack (.object es) stack x := calls_of_sibling hx
    obtain ⟨w, hw, hshows⟩ := ih (holds_of_calls hnode hcall) hxy
    exact ⟨w, (nodeAt?_cons_of_part? (part?_merge_sibling hsame hy)).trans hw, hshows⟩
  | @target stack _ es r target part place _ hr hc ht hk _ ih =>
    obtain ⟨target', t, others, ht', hanswer, hothers, rfl⟩ :=
      (answers_reference_iff hnode hr hc).1 hv
    cases ht.symm.trans ht'
    obtain ⟨w, hw, hshows⟩ := ih (Pointer.holds_of_follow ht) hanswer
    refine ⟨w, ?_, hshows⟩
    rw [nodeAt?_cons, part?_merge_target (kept_aligned hothers hk), ← nodeAt?_cons, hw]

/-- Every object of an answer is made somewhere. -/
theorem made_of_nodeAt? (hnode : Value.Holds node document) (hv : Answers document stack node v)
    (hw : v.nodeAt? place = some (.object fs)) :
    ∃ branch origin, Made document stack node place branch origin := by
  refine calls_induction (motive := fun stack node =>
    ∀ v place, Answers document stack node v → v.nodeAt? place = some (.object fs) →
      ∃ branch origin, Made document stack node place branch origin) ?_ stack hnode v place hv hw
  intro stack node hnode ih v place hv hw
  cases place with
  | nil => exact ⟨stack, _, .here⟩
  | cons part place =>
    rw [nodeAt?_cons] at hw
    obtain ⟨y, hy, hyw⟩ := Option.bind_eq_some_iff.1 hw
    cases node with
    | object es =>
      cases hr : Entries.reference? es with
      | none =>
        obtain ⟨gs, hgs, rfl⟩ := (answers_plain_iff hnode hr).1 hv
        cases part with
        | item i => cases hy
        | entry k =>
          obtain ⟨x, hx, hxy⟩ := exists_left_of_rel (Entries.get?_aligned hgs k) hy
          obtain ⟨branch, origin, h⟩ := ih stack x (calls_of_get? hx) y place hxy hyw
          exact ⟨branch, origin, .entry hr hx h⟩
      | some r =>
        by_cases hc : r ∈ stack
        · cases (answers_cycle_iff hnode hr hc).1 hv
          exact ⟨stack, _, .copy hr hc hw⟩
        · obtain ⟨target, t, others, ht, hanswer, hothers, rfl⟩ :=
            (answers_reference_iff hnode hr hc).1 hv
          obtain hkept | ⟨k, rfl, hnot⟩ := kept_or_entry es part
          · rw [part?_merge_target (kept_aligned hothers hkept)] at hy
            obtain ⟨branch, origin, h⟩ := ih (r :: stack) target (.target hr hc ht) t
              (part :: place) hanswer ((nodeAt?_cons_of_part? hy).trans hyw)
            exact ⟨branch, origin, .target hr hc ht hkept h⟩
          · obtain ⟨base, rfl⟩ := object_of_part?_merge hy
            obtain ⟨x, hx, hxy⟩ := sibling_of_part?_merge hothers hnot hy fun hs =>
              nodeAt?_text_ne_object place r fs (hs ▸ hyw)
            obtain ⟨branch, origin, h⟩ := ih stack x (calls_of_sibling hx) y place hxy hyw
            exact ⟨branch, origin, .sibling hr hc ht hanswer hx h⟩
    | list xs =>
      obtain ⟨ys, hys, rfl⟩ := (answers_list_iff hnode).1 hv
      cases part with
      | entry k => cases hy
      | item i =>
        obtain ⟨x, hx, hxy⟩ := exists_left_of_rel (rel_getElem? hys i) hy
        obtain ⟨branch, origin, h⟩ := ih stack x (.item (List.mem_of_getElem? hx)) y place hxy hyw
        exact ⟨branch, origin, .item hx h⟩
    | _ =>
      cases (answers_leaf_iff hnode (by simp) (by simp)).1 hv
      rw [part?_leaf (by simp) (by simp)] at hy
      cases hy

/-- The place says on which branch an object was made, and from what. -/
theorem made_unique {branch' : List String} {origin origin' : Origin}
    (h : Made document stack node place branch origin)
    (h' : Made document stack node place branch' origin') :
    branch = branch' ∧ origin = origin' := by
  induction h with
  | here =>
    cases h'
    exact ⟨rfl, rfl⟩
  | item hv _ ih =>
    cases h' with
    | item hv' h' =>
      cases hv.symm.trans hv'
      exact ih h'
  | entry hr hv _ ih =>
    cases h' with
    | entry _ hv' h' =>
      cases hv.symm.trans hv'
      exact ih h'
    | copy hr' => cases hr.symm.trans hr'
    | sibling hr' => cases hr.symm.trans hr'
    | target hr' => cases hr.symm.trans hr'
  | copy hr hc hv =>
    cases h' with
    | entry hr' => cases hr.symm.trans hr'
    | copy _ _ hv' =>
      cases hv.symm.trans hv'
      exact ⟨rfl, rfl⟩
    | sibling hr' hc' =>
      cases hr.symm.trans hr'
      exact absurd hc hc'
    | target hr' hc' =>
      cases hr.symm.trans hr'
      exact absurd hc hc'
  | sibling hr hc _ _ hv _ ih =>
    cases h' with
    | entry hr' => cases hr.symm.trans hr'
    | copy hr' hc' =>
      cases hr.symm.trans hr'
      exact absurd hc' hc
    | sibling _ _ _ _ hv' h' =>
      cases hv.symm.trans hv'
      exact ih h'
    | target _ _ _ hk => cases (hk _ rfl).1.symm.trans hv
  | target hr hc ht hk _ ih =>
    cases h' with
    | entry hr' => cases hr.symm.trans hr'
    | copy hr' hc' =>
      cases hr.symm.trans hr'
      exact absurd hc' hc
    | sibling _ _ _ _ hv' => cases (hk _ rfl).1.symm.trans hv'
    | target hr' _ ht' _ h' =>
      cases hr.symm.trans hr'
      cases ht.symm.trans ht'
      exact ih h'

/-- Only nodes of the document are answered. -/
theorem holds_of_made {v : Value} (h : Made document stack node place branch (.answered v))
    (hnode : Value.Holds node document) : Value.Holds v document := by
  generalize horigin : Origin.answered v = origin at h
  induction h with
  | here =>
    cases horigin
    exact hnode
  | item hx _ ih => exact ih ((holds_item (List.mem_of_getElem? hx)).trans hnode) horigin
  | entry _ hx _ ih => exact ih ((holds_of_get? hx).trans hnode) horigin
  | copy => cases horigin
  | @sibling stack _ _ _ _ _ _ _ _ _ _ _ _ _ hx _ ih =>
    have hcall : Calls document stack _ stack _ := calls_of_sibling hx
    exact ih (holds_of_calls hnode hcall) horigin
  | target _ _ ht _ _ ih => exact ih (Pointer.holds_of_follow ht) horigin

/-! ## Settled objects -/

/-- When the reference of the object names an object, then all keys of that one are there, or the
reference was being expanded on the branch. -/
def Settled (document : Value) (branch : List String) (es : Entries) : Prop :=
  ∀ r base, es.reference? = some r → Pointer.follow document r = .ok (.object base) →
    es.Covers base ∨ r ∈ branch

/-- A reference is a text under the key of references. -/
theorem reference?_eq_some_iff :
    es.reference? = some r ↔ es.get? (.text referenceKey) = some (.text r) := by
  unfold Entries.reference? Entries.get Value.text?
  cases es.get? (.text referenceKey) with
  | none => simp
  | some v => cases v <;> simp

/-- Inlining an object loses no key of it, if it answers an object. -/
theorem covers_of_answers (hnode : Value.Holds (.object es) document)
    (h : Answers document stack (.object es) (.object fs)) : fs.Covers es := by
  intro k hk
  cases hr : es.reference? with
  | none =>
    obtain ⟨gs, haligned, hgs⟩ := (answers_plain_iff hnode hr).1 h
    cases hgs
    obtain ⟨x, hx⟩ := Option.isSome_iff_exists.1 hk
    obtain ⟨y, hy, -⟩ := exists_right_of_rel (Entries.get?_aligned haligned k) hx
    exact Option.isSome_of_mem hy
  | some r =>
    by_cases hc : r ∈ stack
    · cases (answers_cycle_iff hnode hr hc).1 h
      exact hk
    · obtain ⟨target, w, others, -, -, hothers, hfs⟩ := (answers_reference_iff hnode hr hc).1 h
      obtain ⟨base, rfl⟩ := object_of_merge hfs
      obtain ⟨gs, hgs, hget⟩ := merge_object r base (siblings others)
      cases hfs.symm.trans hgs
      rw [hget]
      by_cases hsame : (Key.text referenceKey).same k = true
      · rw [if_pos hsame]
        rfl
      · rw [if_neg hsame]
        obtain ⟨x, hx⟩ := Option.isSome_iff_exists.1 (isSome_siblings hk hsame)
        have hrel := Entries.get?_aligned (aligned_siblings hothers) k
        obtain ⟨y, hy, -⟩ := exists_right_of_rel hrel hx
        rw [hy]
        rfl

/-- What a call answers for a node with a reference is settled. -/
theorem settled_of_reference (hnode : Value.Holds (.object es) document)
    (hr : es.reference? = some r) (h : Answers document branch (.object es) (.object fs)) :
    Settled document branch fs := by
  intro r' base hr' hbase
  by_cases hc : r ∈ branch
  · cases (answers_cycle_iff hnode hr hc).1 h
    cases hr.symm.trans hr'
    exact .inr hc
  · obtain ⟨target, w, others, ht, hw, -, hfs⟩ := (answers_reference_iff hnode hr hc).1 h
    obtain ⟨top, rfl⟩ := object_of_merge hfs
    obtain ⟨gs, hgs, hget⟩ := merge_object r top (siblings others)
    cases hfs.symm.trans hgs
    rw [reference?_eq_some_iff, hget, if_pos (Key.same_iff.2 rfl)] at hr'
    cases hr'
    cases ht.symm.trans hbase
    refine .inl fun k hk => ?_
    have hcovers := covers_of_answers (Pointer.holds_of_follow ht) hw k hk
    rw [hget]
    split
    · rfl
    · rw [Option.isSome_or, hcovers, Bool.or_true]

/-- What a call answers for an object without a textual reference has none either, unless an object
stands in its place. -/
theorem settled_of_plain (hnode : Value.Holds (.object es) document)
    (hr : es.reference? = none)
    (hspelled : ∀ inner, es.get? (.text referenceKey) ≠ some (.object inner))
    (h : Answers document branch (.object es) (.object fs)) : Settled document branch fs := by
  intro r base hfs hbase
  obtain ⟨gs, haligned, hgs⟩ := (answers_plain_iff hnode hr).1 h
  cases hgs
  rw [reference?_eq_some_iff] at hfs
  have hrel := Entries.get?_aligned haligned (.text referenceKey)
  obtain ⟨x, hx, hanswer⟩ := exists_left_of_rel hrel hfs
  have hhold := (holds_of_get? hx).trans hnode
  cases x with
  | object inner => exact absurd hx (hspelled inner)
  | list xs =>
    obtain ⟨ys, -, hys⟩ := (answers_list_iff hhold).1 hanswer
    cases hys
  | text s =>
    rw [← reference?_eq_some_iff, hr] at hx
    cases hx
  | _ => cases (answers_leaf_iff hhold (by simp) (by simp)).1 hanswer

/-- Every object of the result that refers to an object has all keys of that one, or the reference
was being expanded on the branch that made it. -/
def OnlyCyclesUnresolved (document result : Value) : Prop :=
  ∀ place es r base, result.nodeAt? place = some (.object es) → Entries.reference? es = some r →
    Pointer.follow document r = .ok (.object base) →
    Entries.Covers es base ∨ ∃ branch origin,
      Made document [] document place branch origin ∧ r ∈ branch

/-- The branch of an object is known from its place, so it may be fixed beforehand. -/
theorem settled_of_onlyCyclesUnresolved {result : Value} {origin : Origin}
    (h : OnlyCyclesUnresolved document result)
    (hmade : Made document [] document place branch origin)
    (hes : result.nodeAt? place = some (.object es)) : Settled document branch es := by
  intro r base hr hbase
  obtain hcovers | ⟨branch', origin', hmade', hc⟩ := h place es r base hes hr hbase
  · exact .inl hcovers
  · obtain ⟨rfl, -⟩ := made_unique hmade hmade'
    exact .inr hc

/-- The document is answered by what it is resolved to. -/
theorem answers_resolve : Answers document [] document v ↔ (resolve document).outcome = .ok v := by
  unfold Answers inlineUnder resolve
  rw [openReferences_nil]

/-- What is copied with a cyclic node is settled as it stands in the document. -/
def CopiesSettled (document : Value) : Prop :=
  ∀ place branch es, Made document [] document place branch (.copied (.object es)) →
    Settled document branch es

/-- What is answered for an object whose `$ref` is an object is settled. -/
def SpelledSettled (document result : Value) : Prop :=
  ∀ place branch es inner fs, Made document [] document place branch (.answered (.object es)) →
    Entries.get? es (.text referenceKey) = some (.object inner) →
    result.nodeAt? place = some (.object fs) → Settled document branch fs

/-- Whatever the origin of an object of the result is, the object is settled. -/
theorem settled_of_made {result : Value} {origin : Origin}
    (hanswer : Answers document [] document result) (hcopied : CopiesSettled document)
    (hspelled : SpelledSettled document result)
    (hmade : Made document [] document place branch origin)
    (hfs : result.nodeAt? place = some (.object fs)) : Settled document branch fs := by
  obtain ⟨w, hw, hshows⟩ := shows_of_made hmade .self hanswer
  cases hw.symm.trans hfs
  cases origin with
  | copied node =>
    cases hshows
    exact hcopied place branch fs hmade
  | answered node =>
    have hnode := holds_of_made hmade .self
    cases node with
    | object es =>
      cases hr : Entries.reference? es with
      | some r => exact settled_of_reference hnode hr hshows
      | none =>
        by_cases hinner : ∃ inner, Entries.get? es (.text referenceKey) = some (.object inner)
        · obtain ⟨inner, hinner⟩ := hinner
          exact hspelled place branch es inner fs hmade hinner hfs
        · exact settled_of_plain hnode hr (fun inner h => hinner ⟨inner, h⟩) hshows
    | list xs =>
      obtain ⟨ys, -, hys⟩ := (answers_list_iff hnode).1 hshows
      cases hys
    | _ => cases (answers_leaf_iff hnode (by simp) (by simp)).1 hshows

/-- **What a cycle copies, and what gets its reference from a reference, is all that can be left
unresolved.** Only cycles stay unresolved in the result exactly when every object that is copied
with a cyclic node has the keys of the object that it refers to, or refers to one that is being
expanded there, and so does every object that is made from one whose `$ref` is an object. -/
theorem onlyCyclesUnresolved_iff {document result : Value}
    (hres : (resolve document).outcome = .ok result) :
    OnlyCyclesUnresolved document result ↔
      CopiesSettled document ∧ SpelledSettled document result := by
  have hanswer : Answers document [] document result := answers_resolve.2 hres
  constructor
  · intro h
    refine ⟨fun place branch es hmade => ?_, fun place branch es inner fs hmade _ hfs => ?_⟩
    · obtain ⟨w, hw, rfl⟩ := shows_of_made hmade .self hanswer
      exact settled_of_onlyCyclesUnresolved h hmade hw
    · exact settled_of_onlyCyclesUnresolved h hmade hfs
  · rintro ⟨hcopied, hspelled⟩ place fs r base hfs hr hbase
    obtain ⟨branch, origin, hmade⟩ := made_of_nodeAt? .self hanswer hfs
    have hsettled := settled_of_made hanswer hcopied hspelled hmade hfs
    exact (hsettled r base hr hbase).imp_right fun hc => ⟨branch, origin, hmade, hc⟩

/-- A reference to the schema that it stands in, with another schema next to it. -/
def cyclicNode (next : Value) : Value :=
  .object [(.text "$ref", .text "#/a"), (.text "x", next)]

/-- A schema with such a reference, and one without any. -/
def nextToCycle (next : Value) : Value :=
  .object [(.text "a", .object [(.text "of", cyclicNode next)]),
    (.text "b", .object [(.text "k", .null)])]

/-- What the document resolves to when the schema next to the reference resolves to `answer`. -/
def resolvedNextToCycle (next answer : Value) : Value :=
  .object [(.text "a", .object [(.text "of", .object [(.text "of", cyclicNode next),
      (.text "x", answer), (.text "$ref", .text "#/a")])]),
    (.text "b", .object [(.text "k", .null)])]

theorem answers_text {s : String} (h : Value.Holds (.text s) document) :
    Answers document stack (.text s) (.text s) :=
  (answers_leaf_iff h (by simp) (by simp)).2 rfl

theorem answers_nextToCycle {next answer : Value}
    (h : Answers (nextToCycle next) [] next answer) :
    Answers (nextToCycle next) [] (nextToCycle next) (resolvedNextToCycle next answer) := by
  have hdocument : Value.Holds (nextToCycle next) (nextToCycle next) := .self
  have ha := (holds_entry (k := .text "a") (.head _)).trans hdocument
  have hb := (holds_entry (k := .text "b") (.tail _ (.head _))).trans hdocument
  have hnull := (holds_entry (k := .text "k") (.head _)).trans hb
  have hof := (holds_entry (k := .text "of") (.head _)).trans ha
  have href := (holds_entry (k := .text "$ref") (.head _)).trans hof
  have hcycle : Answers (nextToCycle next) ["#/a"] (cyclicNode next) (cyclicNode next) :=
    (answers_cycle_iff hof rfl (.head _)).2 rfl
  have htarget := (answers_plain_iff ha rfl).2 ⟨_, Entries.aligned_cons hcycle .nil, rfl⟩
  have hentries := Entries.aligned_cons (k := .text "$ref") (answers_text href)
    (Entries.aligned_cons (k := .text "x") h .nil)
  have hnode := (answers_reference_iff hof rfl List.not_mem_nil).2
    ⟨_, _, _, rfl, htarget, hentries, rfl⟩
  have hleaf : Answers (nextToCycle next) [] .null .null :=
    (answers_leaf_iff hnull (by simp) (by simp)).2 rfl
  have hfirst := (answers_plain_iff ha rfl).2 ⟨_, Entries.aligned_cons hnode .nil, rfl⟩
  have hsecond := (answers_plain_iff hb rfl).2 ⟨_, Entries.aligned_cons hleaf .nil, rfl⟩
  exact (answers_plain_iff hdocument rfl).2
    ⟨_, Entries.aligned_cons hfirst (Entries.aligned_cons hsecond .nil), rfl⟩

/-- A cycle with an empty schema next to its reference. -/
theorem onlyCyclesUnresolved_iff_nextToCycle :
    (resolve (nextToCycle (.object []))).outcome =
        .ok (resolvedNextToCycle (.object []) (.object [])) ∧
      (OnlyCyclesUnresolved (nextToCycle (.object []))
          (resolvedNextToCycle (.object []) (.object [])) ↔
        CopiesSettled (nextToCycle (.object [])) ∧ SpelledSettled (nextToCycle (.object []))
          (resolvedNextToCycle (.object []) (.object []))) := by
  have hnext : Value.Holds (.object []) (nextToCycle (.object [])) :=
    .entry (.head _) (.entry (.head _) (.entry (k := .text "x") (.tail _ (.head _)) .self))
  have hempty : Answers (nextToCycle (.object [])) [] (.object []) (.object []) :=
    (answers_plain_iff hnext rfl).2 ⟨[], .nil, rfl⟩
  have hres := answers_resolve.1 (answers_nextToCycle hempty)
  exact ⟨hres, onlyCyclesUnresolved_iff hres⟩

/-- A reference to the other schema. -/
def leafNode : Value := .object [(.text "$ref", .text "#/b")]

/-- The copy of a cyclic node keeps the references next to the cycle as they are. -/
theorem not_forall_onlyCyclesUnresolved : ¬ ∀ document result,
    (resolve document).outcome = .ok result → OnlyCyclesUnresolved document result := by
  intro h
  have hnext : Value.Holds leafNode (nextToCycle leafNode) :=
    .entry (.head _) (.entry (.head _) (.entry (k := .text "x") (.tail _ (.head _)) .self))
  have hleaf : Answers (nextToCycle leafNode) [] leafNode
      (.object [(.text "k", .null), (.text "$ref", .text "#/b")]) := by
    unfold Answers
    cbv
  have hres := answers_resolve.1 (answers_nextToCycle hleaf)
  have hmade : Made (nextToCycle leafNode) [] (nextToCycle leafNode)
      [.entry (.text "a"), .entry (.text "of"), .entry (.text "of"), .entry (.text "x")]
      ["#/a"] (.copied leafNode) := by
    have hkept : Kept [(.text "$ref", .text "#/a"), (.text "x", leafNode)]
        (.entry (.text "of")) := by
      rintro k hk
      cases hk
      exact ⟨by cbv, by decide +kernel⟩
    refine .entry (by cbv) (by cbv) (.entry (by cbv) (by cbv) ?_)
    refine .target (by cbv) List.not_mem_nil (by cbv) hkept (.entry (by cbv) (by cbv) ?_)
    exact .copy (by cbv) List.mem_cons_self (by cbv)
  have hsettled : Settled (nextToCycle leafNode) ["#/a"] [(.text "$ref", .text "#/b")] :=
    settled_of_onlyCyclesUnresolved (h _ _ hres) hmade (by cbv)
  obtain hcovers | hcycle := hsettled "#/b" [(.text "k", .null)] (by cbv) (by cbv)
  · have hk := hcovers (.text "k") (by cbv)
    revert hk
    decide +kernel
  · revert hcycle
    decide

end Reference

end SdkModel
