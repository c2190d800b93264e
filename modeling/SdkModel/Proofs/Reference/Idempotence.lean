import SdkModel.Proofs.Reference.Provenance
import SdkModel.Proofs.Value.DistinctKeys

/-!
# Resolving twice

What a quiet resolution answers is resolved already. A resolved node keeps its reference, so it is
inlined once more by a second pass; but the pointer leads to the resolved form of what it led to
(`follow_resolvedForm`), and overlaying that form with what it was overlaid with makes the same
object, with its keys in the same order (`merge_siblings`). The second pass is quiet under the
references that the first one was quiet under (`quiet_again`).
-/

namespace SdkModel

variable {document result node v w : Value} {pending : List String}
variable {es fs base others : Entries} {r : String} {k : Key} {form : Value → Value}

namespace Entries

theorem keys_map : keys (es.map fun e => (e.1, form e.2)) = keys es := by
  unfold keys
  rw [List.map_map]
  rfl

theorem get?_map : get? (es.map fun e => (e.1, form e.2)) k = (es.get? k).map form := by
  induction es with
  | nil => rfl
  | cons e es ih =>
    rw [List.map_cons, get?_cons, get?_cons, ih]
    split <;> rfl

/-- Changing the values of entries leaves their keys distinct. -/
theorem distinctKeys_map (h : es.DistinctKeys) :
    DistinctKeys (es.map fun e => (e.1, form e.2)) := by
  unfold DistinctKeys
  rw [keys_map]
  exact h

end Entries

/-- Items are taken by their place, whatever is made of them. -/
theorem Pointer.itemAt?_map (xs : List Value) (i : Int) :
    Pointer.itemAt? (xs.map form) i = (Pointer.itemAt? xs i).map form := by
  unfold Pointer.itemAt?
  rw [List.length_map, List.getElem?_map, List.getElem?_map]
  split
  · rfl
  · split <;> rfl

namespace Reference

open Logged (Quiet quiet_iff quiet_pure_iff quiet_bind_iff)
open Entries (keys)

/-! ## Overlaying with what was overlaid -/

theorem get?_siblings (hk : ¬ (Key.text referenceKey).same k = true) :
    Entries.get? (siblings es) k = es.get? k := by
  induction es with
  | nil => rfl
  | cons e es ih =>
    unfold siblings at ih ⊢
    rw [List.filter_cons, Entries.get?_cons]
    by_cases he : e.1.same k = true
    · have hne : (!e.1.same (.text referenceKey)) = true := by
        rw [Key.same_congr he, Key.same_comm, Bool.not_eq_true', Bool.eq_false_iff]
        exact hk
      rw [if_pos hne, Entries.get?_cons, if_pos he, if_pos he]
    · rw [if_neg he]
      split
      · rw [Entries.get?_cons, if_neg he, ih]
      · exact ih

/-- What stands next to a reference has all keys but that of the reference. -/
theorem keys_siblings (es : Entries) :
    keys (siblings es) = (keys es).filter fun k => !k.same (.text referenceKey) :=
  Entries.keys_filter fun k => !k.same (.text referenceKey)

theorem distinctKeys_siblings (h : es.DistinctKeys) : Entries.DistinctKeys (siblings es) := by
  unfold Entries.DistinctKeys
  rw [keys_siblings]
  exact List.Pairwise.filter _ h

/-- No sibling stands under the key of the reference. -/
theorem get?_siblings_reference (es : Entries) :
    Entries.get? (siblings es) (.text referenceKey) = none := by
  rw [Entries.get?_eq_none_iff, keys_siblings]
  intro k hk
  obtain ⟨-, hne⟩ := List.mem_filter.1 hk
  rwa [Bool.not_eq_true'] at hne

/-- The keys of a merged object: those of the base, the new ones among the siblings, and that of
the reference unless it stands in the base. -/
theorem keys_merge (hothers : others.DistinctKeys)
    (hfree : others.get? (.text referenceKey) = none)
    (hfs : merge r (.object base) others = .object fs) :
    keys fs = keys base ++
      (keys others ++ [Key.text referenceKey]).filter fun k => (base.get? k).isNone := by
  have htop : Entries.DistinctKeys (others ++ [(.text referenceKey, .text r)]) := by
    refine List.pairwise_map.2 (List.pairwise_append.2
      ⟨List.pairwise_map.1 hothers, List.pairwise_singleton _ _, ?_⟩)
    intro e he f hf
    rw [List.mem_singleton.1 hf]
    exact Entries.get?_eq_none_iff.1 hfree e.1 (List.mem_map_of_mem he)
  have hfs' : fs = Entries.overlay base (others ++ [(.text referenceKey, .text r)]) := by
    cases hfs
    unfold Entries.overlay
    rw [List.foldl_append]
    rfl
  rw [hfs', Entries.keys_overlay htop, Entries.keys_append]
  rfl

/-- The siblings of a merged object bring no new keys but those that the others brought. -/
theorem new_keys_siblings_merge (hothers : others.DistinctKeys)
    (hfree : others.get? (.text referenceKey) = none)
    (hfs : merge r (.object base) others = .object fs) :
    (keys (siblings fs)).filter (fun k => (base.get? k).isNone) =
      (keys others).filter fun k => (base.get? k).isNone := by
  have hold : (keys base).filter (fun k => (base.get? k).isNone) = [] := by
    refine List.filter_eq_nil_iff.2 fun k hk => ?_
    rw [Option.isNone_iff_eq_none, Entries.get?_eq_none_iff]
    intro h
    have hself := h k hk
    rw [Key.same_self] at hself
    cases hself
  have hkept : ((keys others).filter fun k => !k.same (.text referenceKey)) = keys others := by
    refine List.filter_eq_self.2 fun k hk => ?_
    rw [Entries.get?_eq_none_iff.1 hfree k hk]
    rfl
  have hreference :
      [Key.text referenceKey].filter (fun k => !k.same (.text referenceKey)) = [] := by
    rw [List.filter_singleton, Key.same_self]
    rfl
  have htwice (ks : List Key) : (ks.filter fun k => (base.get? k).isNone).filter
      (fun k => (base.get? k).isNone) = ks.filter fun k => (base.get? k).isNone := by
    rw [List.filter_filter]
    simp only [Bool.and_self]
  rw [keys_siblings, List.filter_comm, keys_merge hothers hfree hfs, List.filter_append, hold,
    List.nil_append, htwice, List.filter_comm, List.filter_append, hkept, hreference,
    List.append_nil]

/-- **Overlaying once more changes nothing**: the siblings of a merged object override the entries
of its base with what stands there. -/
theorem merge_siblings (hbase : base.DistinctKeys) (hothers : others.DistinctKeys)
    (hfree : others.get? (.text referenceKey) = none)
    (hfs : merge r (.object base) others = .object fs) :
    merge r (.object base) (siblings fs) = .object fs := by
  obtain ⟨gs, hgs, hget'⟩ := merge_object r base (siblings fs)
  obtain ⟨_, hfs', hget⟩ := merge_object r base others
  cases hfs.symm.trans hfs'
  have hdistinct : fs.DistinctKeys := by
    cases hfs
    exact Entries.distinctKeys_put (Entries.distinctKeys_overlay hbase others) _ _
  have hsib := distinctKeys_siblings hdistinct
  rw [hgs]
  congr 1
  refine (Entries.eq_of_keys_of_get? hdistinct ?_ ?_).symm
  · rw [keys_merge hsib (get?_siblings_reference fs) hgs, keys_merge hothers hfree hfs,
      List.filter_append, List.filter_append, new_keys_siblings_merge hothers hfree hfs]
  · intro k
    rw [hget']
    by_cases hk : (Key.text referenceKey).same k = true
    · rw [hget, if_pos hk, if_pos hk]
    · rw [if_neg hk, Entries.get?_reverse hsib, get?_siblings hk, hget, if_neg hk]
      cases Entries.get? others.reverse k <;> cases base.get? k <;> rfl

/-! ## References that lead to objects -/

/-- Every reference of the document names an object. -/
def LeadsToObjects (document : Value) : Prop :=
  ∀ r ∈ document.references, ∃ base, Pointer.follow document r = .ok (.object base)

/-- When references lead to objects, an object resolves to an object. -/
theorem object_of_quiet (hobjects : LeadsToObjects document)
    (hnode : Value.Holds (.object es) document)
    (h : Quiet (inlineValue document pending (.object es)) w) : ∃ fs, w = .object fs := by
  generalize hes : Value.object es = node at hnode h
  induction pending, node using inline_induction generalizing es w with
  | plain pending es' hr _ =>
    rw [inlineValue_plain hr, quiet_bind_iff] at h
    obtain ⟨fs, -, h⟩ := h
    exact ⟨fs, (quiet_pure_iff.1 h).symm⟩
  | reference pending es' r hr hp iht _ =>
    obtain ⟨target, u, others, ht, hu, -, rfl⟩ := (quiet_reference_iff hr hp).1 h
    obtain ⟨base, hbase⟩ := hobjects r (reference_mem_of_holds hnode hr)
    obtain rfl := Except.ok.inj (ht.symm.trans hbase)
    obtain ⟨fs, rfl⟩ := iht _ rfl (Pointer.holds_of_follow ht) hu
    exact ⟨_, rfl⟩
  | cycle pending es' r hr hp => exact absurd h (not_quiet_cycle hr hp)
  | list => cases hes
  | leaf pending v ho => exact absurd hes.symm (ho es)

/-- Where references lead to objects, a text comes from nothing but a text. -/
theorem eq_text_of_quiet (hobjects : LeadsToObjects document) {s : String}
    (hnode : Value.Holds v document) (h : Quiet (inlineValue document pending v) (.text s)) :
    v = .text s := by
  cases v with
  | object es =>
    obtain ⟨fs, hfs⟩ := object_of_quiet hobjects hnode h
    cases hfs
  | list xs =>
    rw [inlineValue_list, quiet_bind_iff] at h
    obtain ⟨ys, -, h⟩ := h
    cases quiet_pure_iff.1 h
  | _ =>
    rw [inlineValue_leaf (by simp) (by simp), quiet_pure_iff] at h
    exact h

/-! ## The forms of the parts -/

section Forms

variable (hq : Quiet (resolve document) result) (hkeys : document.HasDistinctKeys)
  (hobjects : LeadsToObjects document)

include hq

/-- The form of the document is what it is resolved to. -/
theorem resolvedForm_document : resolvedForm document document = result :=
  answer_eq_of_quiet hq

/-- The form of a list is made up of those of its items. -/
theorem resolvedForm_list {xs : List Value} (hnode : Value.Holds (.list xs) document) :
    resolvedForm document (.list xs) = .list (xs.map (resolvedForm document)) :=
  unfolds_resolvedForm hq hnode

theorem resolvedForm_text {s : String} (hnode : Value.Holds (.text s) document) :
    resolvedForm document (.text s) = .text s :=
  unfolds_resolvedForm hq hnode

/-- The form of a plain object is made up of those of its entries. -/
theorem resolvedForm_plain (hnode : Value.Holds (.object es) document)
    (hr : es.reference? = none) : resolvedForm document (.object es) =
      .object (es.map fun e => (e.1, resolvedForm document e.2)) := by
  have h := unfolds_resolvedForm hq hnode
  simp only [Unfolds, hr] at h
  exact h

include hkeys hobjects

/-- The resolved form of an object answers every key of the object with the form of its value. -/
theorem get?_resolvedForm (hnode : Value.Holds (.object es) document) :
    ∃ fs, resolvedForm document (.object es) = .object fs ∧
      ∀ k v, es.get? k = some v → Entries.get? fs k = some (resolvedForm document v) := by
  cases hr : es.reference? with
  | none =>
    refine ⟨_, resolvedForm_plain hq hnode hr, fun k v hv => ?_⟩
    rw [Entries.get?_map, hv]
    rfl
  | some r =>
    have h := unfolds_resolvedForm hq hnode
    simp only [Unfolds, hr] at h
    obtain ⟨target, ht, hform⟩ := h
    obtain ⟨tes, hbase⟩ := hobjects r (reference_mem_of_holds hnode hr)
    obtain rfl := Except.ok.inj (ht.symm.trans hbase)
    have hanswer := quiet_resolvedForm hq (reached_of_holds (Pointer.holds_of_follow ht))
    obtain ⟨base, hb⟩ := object_of_quiet hobjects (Pointer.holds_of_follow ht) hanswer
    rw [hb] at hform
    obtain ⟨fs, hfs, hget⟩ := merge_object r base
      ((siblings es).map fun e => (e.1, resolvedForm document e.2))
    refine ⟨fs, hform.trans hfs, fun k v hv => ?_⟩
    have hes := distinctKeys_siblings (hkeys es hnode)
    rw [hget]
    by_cases hk : (Key.text referenceKey).same k = true
    · rw [reference?_eq_some_iff, Entries.get?_congr_key hk, hv] at hr
      cases hr
      rw [if_pos hk, resolvedForm_text hq ((holds_of_get? hv).trans hnode)]
    · rw [if_neg hk, Entries.get?_reverse (Entries.distinctKeys_map hes), Entries.get?_map,
        get?_siblings hk, hv]
      rfl

/-- One step in the resolved document leads to the resolved form of where it leads. -/
theorem step_resolvedForm {reference segment : String} (hnode : Value.Holds v document)
    (h : Pointer.step reference segment v = .ok w) :
    Pointer.step reference segment (resolvedForm document v) = .ok (resolvedForm document w) := by
  cases v with
  | list xs =>
    rw [resolvedForm_list hq hnode, Pointer.step]
    rw [Pointer.step] at h
    cases hi : Pointer.wholeNumber? segment with
    | none =>
      rw [hi] at h
      cases h
    | some i =>
      rw [hi, Option.bind_some] at h
      rw [Option.bind_some, Pointer.itemAt?_map]
      cases hv : Pointer.itemAt? xs i with
      | none =>
        rw [hv] at h
        cases h
      | some u =>
        rw [hv] at h
        cases h
        rfl
  | object es =>
    obtain ⟨fs, hfs, hget⟩ := get?_resolvedForm hq hkeys hobjects hnode
    rw [Pointer.step] at h
    rw [hfs, Pointer.step]
    cases hv : Entries.get? es (.text segment) with
    | none =>
      rw [hv] at h
      cases h
    | some u =>
      rw [hv] at h
      cases h
      rw [hget _ _ hv]
  | _ => cases h

/-- A pointer leads in the form of a node to the form of where it leads in the node. -/
theorem steps_resolvedForm {reference : String} {segments : List String}
    (hnode : Value.Holds v document)
    (h : segments.foldlM (fun v segment => Pointer.step reference segment v) v = .ok w) :
    segments.foldlM (fun v segment => Pointer.step reference segment v)
      (resolvedForm document v) = .ok (resolvedForm document w) := by
  induction segments generalizing v with
  | nil =>
    cases h
    rfl
  | cons segment rest ih =>
    rw [List.foldlM_cons] at h ⊢
    cases hs : Pointer.step reference segment v with
    | error e =>
      rw [hs] at h
      cases h
    | ok u =>
      rw [hs] at h
      rw [step_resolvedForm hq hkeys hobjects hnode hs]
      exact ih ((Pointer.holds_of_step hs).trans hnode) h

/-- **A reference leads to the resolved form of what it led to.** -/
theorem follow_resolvedForm (h : Pointer.follow document r = .ok v) :
    Pointer.follow result r = .ok (resolvedForm document v) := by
  rw [← resolvedForm_document hq]
  unfold Pointer.follow at h ⊢
  cases hs : Pointer.segments? r with
  | none =>
    rw [hs] at h
    cases h
  | some segments =>
    rw [hs] at h
    exact steps_resolvedForm hq hkeys hobjects .self h

/-- What a node holds, its resolved form holds in resolved form. -/
theorem holds_resolvedForm (hw : Value.Holds w v) (hv : Value.Holds v document) :
    Value.Holds (resolvedForm document w) (resolvedForm document v) := by
  induction hw with
  | self => exact .self
  | @item u xs hu _ ih =>
    rw [resolvedForm_list hq hv]
    exact .item (List.mem_map_of_mem hu) (ih ((holds_item hu).trans hv))
  | @entry k u es hu _ ih =>
    obtain ⟨fs, hfs, hget⟩ := get?_resolvedForm hq hkeys hobjects hv
    have hfound := Entries.get?_of_mem (hkeys es hv) hu (Key.same_self k)
    rw [hfs]
    exact (ih ((holds_entry hu).trans hv)).trans (holds_of_get? (hget k u hfound))

/-- The references of the document are still there when it is resolved. -/
theorem references_subset_of_quiet : document.references ⊆ result.references := by
  intro r hr
  obtain ⟨es, hes, hr⟩ := holds_of_mem_references hr
  have hheld := holds_resolvedForm hq hkeys hobjects hes .self
  obtain ⟨fs, hfs, hget⟩ := get?_resolvedForm hq hkeys hobjects hes
  rw [hfs, resolvedForm_document hq] at hheld
  refine reference_mem_of_holds hheld (reference?_eq_some_iff.2 ?_)
  have htext := reference?_eq_some_iff.1 hr
  rw [hget _ _ htext, resolvedForm_text hq ((holds_of_get? htext).trans hes)]

end Forms

/-! ## The second pass -/

/-- Inlining gives the value back, and each of its entries when it is an object. -/
def Stable (document : Value) (pending : List String) (v : Value) : Prop :=
  Quiet (inlineValue document pending v) v ∧
    ∀ es : Entries, v = .object es → es.DistinctKeys ∧
      ∀ k w, (k, w) ∈ es → Quiet (inlineValue document pending w) w

/-- Entries that are left as they are stand for themselves. -/
theorem quiet_inlineEntries_self
    (h : ∀ k w, (k, w) ∈ es → Quiet (inlineValue document pending w) w) :
    Quiet (inlineEntries document pending es) es := by
  have hentries := quiet_inlineEntries h
  rwa [show (es.map fun e => (e.1, e.2)) = es from List.map_id es] at hentries

theorem stable_leaf (ho : ∀ es, v ≠ .object es) (hl : ∀ xs, v ≠ .list xs) :
    Stable document pending v := by
  refine ⟨?_, fun es hes => absurd hes (ho es)⟩
  rw [inlineValue_leaf ho hl]
  rfl

/-- An object that keeps no textual reference. -/
theorem stable_plain (hr : es.reference? = none) (hes : es.DistinctKeys)
    (h : ∀ k w, (k, w) ∈ es → Quiet (inlineValue document pending w) w) :
    Stable document pending (.object es) := by
  refine ⟨?_, fun fs hfs => ?_⟩
  · rw [inlineValue_plain hr]
    exact quiet_bind_iff.2 ⟨es, quiet_inlineEntries_self h, rfl⟩
  · cases hfs
    exact ⟨hes, h⟩

theorem stable_list {xs : List Value}
    (h : ∀ w ∈ xs, Quiet (inlineValue document pending w) w) :
    Stable document pending (.list xs) := by
  refine ⟨?_, fun es hes => by cases hes⟩
  have hitems := quiet_inlineItems h
  rw [List.map_id'] at hitems
  rw [inlineValue_list]
  exact quiet_bind_iff.2 ⟨xs, hitems, rfl⟩

/-- An object that was merged over what its reference leads to now. -/
theorem stable_merge (hp : r ∈ pending) (ht : Pointer.follow document r = .ok (.object base))
    (hbase : Stable document (pending.filter (· ≠ r)) (.object base))
    (hothers : others.DistinctKeys) (hfree : others.get? (.text referenceKey) = none)
    (h : ∀ k w, (k, w) ∈ others → Quiet (inlineValue document pending w) w)
    (hfs : merge r (.object base) others = .object fs) :
    Stable document pending (.object fs) := by
  obtain ⟨hqbase, hparts⟩ := hbase
  obtain ⟨hkeys, hentries⟩ := hparts base rfl
  obtain ⟨_, hfs', hget⟩ := merge_object r base others
  cases hfs.symm.trans hfs'
  have hdistinct : fs.DistinctKeys := by
    cases hfs
    exact Entries.distinctKeys_put (Entries.distinctKeys_overlay hkeys others) _ _
  have hr : fs.reference? = some r := by
    rw [reference?_eq_some_iff, hget, if_pos (Key.same_self _)]
  -- an entry is the reference, a sibling's, or one of the base, which is stable with `r` taken off
  have hall : ∀ k w, (k, w) ∈ fs → Quiet (inlineValue document pending w) w := by
    intro k w hw
    have hfound := Entries.get?_of_mem hdistinct hw (Key.same_self k)
    rw [hget] at hfound
    split at hfound
    · cases hfound
      exact (stable_leaf (by simp) (by simp)).1
    · rw [Entries.get?_reverse hothers, Option.or_eq_some_iff] at hfound
      obtain hfound | ⟨-, hfound⟩ := hfound
      · obtain ⟨e, he, rfl⟩ := Option.map_eq_some_iff.1 hfound
        exact h e.1 e.2 (List.mem_of_find?_eq_some he)
      · obtain ⟨e, he, rfl⟩ := Option.map_eq_some_iff.1 hfound
        exact quiet_mono (List.filter_subset_self _)
          (hentries e.1 e.2 (List.mem_of_find?_eq_some he))
  refine ⟨?_, fun gs hgs => ?_⟩
  · exact (quiet_reference_iff hr hp).2 ⟨_, _, fs, ht, hqbase, quiet_inlineEntries_self hall,
      merge_siblings hkeys hothers hfree hfs⟩
  · cases hgs
    exact ⟨hdistinct, hall⟩

/-- **What a node resolved to quietly is stable under the references that were pending.** -/
theorem stable_of_quiet (hq : Quiet (resolve document) result)
    (hkeys : document.HasDistinctKeys) (hobjects : LeadsToObjects document)
    (hnode : Value.Holds v document) (hsub : pending ⊆ document.references)
    (h : Quiet (inlineValue document pending v) w) : Stable result pending w := by
  induction pending, v using inline_induction generalizing w with
  | plain pending es hr ih =>
    rw [inlineValue_plain hr, quiet_bind_iff] at h
    obtain ⟨fs, hfs, h⟩ := h
    cases quiet_pure_iff.1 h
    obtain rfl := eq_map_of_quiet_entries hfs
    refine stable_plain ?_ (Entries.distinctKeys_map (hkeys es hnode)) fun k w hw => ?_
    · -- only a text could have become one
      refine Option.eq_none_iff_forall_ne_some.2 fun r hr' => ?_
      rw [reference?_eq_some_iff, Entries.get?_map] at hr'
      obtain ⟨u, hu, hanswer⟩ := Option.map_eq_some_iff.1 hr'
      obtain ⟨e, he, rfl⟩ := Option.map_eq_some_iff.1 hu
      have hentry := quiet_entries hfs (List.mem_of_find?_eq_some he)
      rw [hanswer] at hentry
      rw [eq_text_of_quiet hobjects ((holds_of_get? hu).trans hnode) hentry,
        ← reference?_eq_some_iff, hr] at hu
      cases hu
    · obtain ⟨⟨j, u⟩, hu, heq⟩ := List.mem_map.1 hw
      cases heq
      exact (ih j u hu ((holds_entry hu).trans hnode) hsub (quiet_entries hfs hu)).1
  | reference pending es r hr hp iht ihe =>
    obtain ⟨target, u, others, ht, hu, ho, hw⟩ := (quiet_reference_iff hr hp).1 h
    obtain ⟨tes, htes⟩ := hobjects r (reference_mem_of_holds hnode hr)
    obtain rfl := Except.ok.inj (ht.symm.trans htes)
    have htarget := Pointer.holds_of_follow ht
    obtain ⟨base, rfl⟩ := object_of_quiet hobjects htarget hu
    obtain ⟨fs, rfl⟩ := object_of_quiet hobjects hnode h
    have hform : resolvedForm document (.object tes) = .object base :=
      answer_eq_of_quiet (quiet_mono (List.Subset.trans (List.filter_subset_self _) hsub) hu)
    have hlead := follow_resolvedForm hq hkeys hobjects ht
    rw [hform] at hlead
    have hbase := iht _ htarget (List.Subset.trans (List.filter_subset_self _) hsub) hu
    obtain rfl := eq_map_of_quiet_entries ho
    rw [siblings_map] at hw
    refine stable_merge hp hlead hbase
      (Entries.distinctKeys_map (distinctKeys_siblings (hkeys es hnode))) ?_ ?_ hw
    · rw [Entries.get?_map, get?_siblings_reference]
      rfl
    · intro k x hx
      obtain ⟨⟨j, y⟩, hy, heq⟩ := List.mem_map.1 hx
      cases heq
      have hmem := List.mem_of_mem_filter hy
      exact (ihe j y hmem ((holds_entry hmem).trans hnode) hsub (quiet_entries ho hmem)).1
  | cycle pending es r hr hp => exact absurd h (not_quiet_cycle hr hp)
  | list pending xs ih =>
    rw [inlineValue_list, quiet_bind_iff] at h
    obtain ⟨ys, hys, h⟩ := h
    cases quiet_pure_iff.1 h
    obtain rfl := eq_map_of_quiet_items hys
    refine stable_list fun w hw => ?_
    obtain ⟨u, hu, rfl⟩ := List.mem_map.1 hw
    exact (ih u hu ((holds_item hu).trans hnode) hsub (quiet_items hys hu)).1
  | leaf pending v ho hl =>
    rw [inlineValue_leaf ho hl, quiet_pure_iff] at h
    rw [← h]
    exact stable_leaf ho hl

/-- **Resolving twice changes nothing on documents without cycles.** When a document resolves, no
cycle is logged and each of its references leads to an object, then what it resolves to resolves to
itself, keys in their order, and nothing is logged. A document that was loaded has distinct keys
(`Document.hasDistinctKeys_of_load`). -/
theorem resolve_idempotent (hkeys : document.HasDistinctKeys)
    (hobjects : LeadsToObjects document) (hres : (resolve document).outcome = .ok result)
    (hlog : ∀ r, ⟨.warning, cycleWarning r⟩ ∉ (resolve document).log) :
    (resolve result).outcome = .ok result ∧ (resolve result).log = [] := by
  have hq := quiet_resolve hres hlog
  have hstable := stable_of_quiet hq hkeys hobjects .self (List.Subset.refl _) hq
  have hagain := quiet_mono (references_subset_of_quiet hq hkeys hobjects) hstable.1
  obtain ⟨hlog', hres'⟩ := quiet_iff.1 hagain
  exact ⟨hres', hlog'⟩

/-- A chain of two references. The first node overrides an entry that stands at its end and adds
one of its own. -/
def chainDocument : Value :=
  .object [
    (.text "a", .object [(.text "$ref", .text "#/b"), (.text "x", .int 1), (.text "y", .int 2)]),
    (.text "b", .object [(.text "z", .int 3), (.text "$ref", .text "#/c")]),
    (.text "c", .object [(.text "y", .list [.object [(.text "$ref", .text "#/d")]])]),
    (.text "d", .object [])]

def resolvedChain : Value :=
  .object [
    (.text "a", .object [(.text "y", .int 2), (.text "z", .int 3), (.text "$ref", .text "#/b"),
      (.text "x", .int 1)]),
    (.text "b", .object [(.text "y", .list [.object [(.text "$ref", .text "#/d")]]),
      (.text "z", .int 3), (.text "$ref", .text "#/c")]),
    (.text "c", .object [(.text "y", .list [.object [(.text "$ref", .text "#/d")]])]),
    (.text "d", .object [])]

theorem quiet_chainDocument : Quiet (resolve chainDocument) resolvedChain := by
  unfold Quiet
  cbv

/-- The second pass inlines the chain once more and ends where it began. -/
theorem resolve_idempotent_chainDocument :
    (resolve resolvedChain).outcome = .ok resolvedChain ∧ (resolve resolvedChain).log = [] := by
  obtain ⟨hlog, hres⟩ := quiet_iff.1 quiet_chainDocument
  have hkeys : chainDocument.HasDistinctKeys := by
    simp [chainDocument, Value.hasDistinctKeys_object_iff, Value.hasDistinctKeys_list_iff,
      Value.hasDistinctKeys_leaf, Entries.DistinctKeys, keys]
  have hobjects : LeadsToObjects chainDocument := by
    have hreferences : chainDocument.references = ["#/b", "#/c", "#/d"] := by decide
    intro r hr
    rw [hreferences, List.mem_cons, List.mem_cons, List.mem_singleton] at hr
    rcases hr with rfl | rfl | rfl
    · exact ⟨_, by cbv⟩
    · exact ⟨_, by cbv⟩
    · exact ⟨_, by cbv⟩
  exact resolve_idempotent hkeys hobjects hres (by simp [hlog])

end Reference

end SdkModel
