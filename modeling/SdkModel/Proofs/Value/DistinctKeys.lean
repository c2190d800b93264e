import SdkModel.Proofs.Reference.Node
import SdkModel.Proofs.Value.Entries

/-!
# Objects without repeated keys

An object lists each of its keys once (`Entries.DistinctKeys`). Putting a value and overlaying keep
that, and an overlay has the keys of its base first and the new keys behind them. Such an object is
known by its keys in order and by what it answers (`Entries.eq_of_keys_of_get?`), so two ways of
building one can be compared key by key.
-/

namespace SdkModel

namespace Key

theorem same_self (k : Key) : k.same k = true := same_iff.2 rfl

theorem same_comm (j k : Key) : j.same k = k.same j := by
  unfold same
  exact decide_eq_decide.2 eq_comm

end Key

namespace Entries

variable {es fs base top : Entries} {e : Key × Value} {j k : Key} {v : Value}

def keys (es : Entries) : List Key := es.map (·.1)

@[simp] theorem keys_cons : keys (e :: es) = e.1 :: keys es := rfl

@[simp] theorem keys_append : keys (es ++ fs) = keys es ++ keys fs := List.map_append

/-- Entries are left out by their keys before or after the values are dropped. -/
theorem keys_filter (p : Key → Bool) : keys (es.filter fun e => p e.1) = (keys es).filter p := by
  unfold keys
  rw [List.filter_map]
  rfl

/-- No key stands twice in the object. -/
def DistinctKeys (es : Entries) : Prop := (keys es).Pairwise fun j k => j.same k = false

/-- A key that is not found is that of no entry. -/
theorem get?_eq_none_iff : es.get? k = none ↔ ∀ j ∈ keys es, j.same k = false := by
  simp only [get?, keys, Option.map_eq_none_iff, List.find?_eq_none, List.forall_mem_map,
    Bool.not_eq_true]

theorem distinctKeys_cons_iff : DistinctKeys (e :: es) ↔ es.get? e.1 = none ∧ es.DistinctKeys := by
  unfold DistinctKeys
  rw [keys_cons, List.pairwise_cons, get?_eq_none_iff]
  simp only [Key.same_comm e.1]

/-- Keys that are the same are looked up alike. -/
theorem get?_congr_key (h : j.same k = true) : es.get? j = es.get? k := by
  unfold get?
  simp only [Key.same_comm _ j, Key.same_congr h, Key.same_comm k]

theorem get?_of_mem (h : es.DistinctKeys) (he : e ∈ es) (hk : e.1.same k = true) :
    es.get? k = some e.2 := by
  induction es with
  | nil => cases he
  | cons f es ih =>
    obtain ⟨hfresh, hrest⟩ := distinctKeys_cons_iff.1 h
    rw [get?_cons]
    rcases List.mem_cons.1 he with rfl | he
    · rw [if_pos hk]
    · have hget := ih hrest he
      by_cases hf : f.1.same k = true
      · rw [get?_congr_key hf, hget] at hfresh
        cases hfresh
      · rw [if_neg hf, hget]

/-- With distinct keys it does not matter from which end an object is searched. -/
theorem get?_reverse (h : es.DistinctKeys) (k : Key) : get? es.reverse k = es.get? k := by
  cases hget : es.get? k with
  | none =>
    rw [get?_eq_none_iff] at hget ⊢
    intro j hj
    rw [keys, List.map_reverse, List.mem_reverse] at hj
    exact hget j hj
  | some v =>
    have hsome : (get? es.reverse k).isSome := by
      rw [isSome_get?_reverse, hget]
      rfl
    obtain ⟨w, hw⟩ := Option.isSome_iff_exists.1 hsome
    obtain ⟨e, he, rfl⟩ := Option.map_eq_some_iff.1 hw
    have hmem := List.mem_reverse.1 (List.mem_of_find?_eq_some he)
    have hk : e.1.same k = true := List.find?_some (p := fun e : Key × Value => e.1.same k) he
    rw [hw, ← hget, get?_of_mem h hmem hk]

/-- An overlay whose top has distinct keys answers with the top first. -/
theorem get?_overlay_of_distinctKeys (htop : top.DistinctKeys) (k : Key) :
    (overlay base top).get? k = (top.get? k).or (base.get? k) := by
  rw [get?_overlay, get?_reverse htop]

/-- **An object with distinct keys is known by its keys and its answers.** -/
theorem eq_of_keys_of_get? (h : es.DistinctKeys) (hkeys : keys es = keys fs)
    (hget : ∀ k, es.get? k = fs.get? k) : es = fs := by
  induction es generalizing fs with
  | nil => exact (List.map_eq_nil_iff.1 hkeys.symm).symm
  | cons e es ih =>
    cases fs with
    | nil => cases hkeys
    | cons f fs =>
      obtain ⟨k, v⟩ := e
      obtain ⟨j, w⟩ := f
      obtain ⟨hkey, hrest⟩ := List.cons.inj hkeys
      change k = j at hkey
      change keys es = keys fs at hrest
      subst hkey
      obtain ⟨hfresh, hes⟩ := distinctKeys_cons_iff.1 h
      have hfresh' : get? fs k = none := by
        rw [get?_eq_none_iff, ← hrest, ← get?_eq_none_iff]
        exact hfresh
      have hvalue := hget k
      rw [get?_cons, get?_cons, if_pos (Key.same_self k), if_pos (Key.same_self k)] at hvalue
      have htail : ∀ i, get? es i = get? fs i := by
        intro i
        by_cases hi : k.same i = true
        · rw [← get?_congr_key hi, ← get?_congr_key hi, hfresh, hfresh']
        · have hboth := hget i
          rw [get?_cons, get?_cons, if_neg hi, if_neg hi] at hboth
          exact hboth
      obtain rfl : v = w := Option.some.inj hvalue
      rw [ih hes hrest htail]

/-! ## Putting and overlaying -/

/-- Putting a value keeps the keys and may add one at the end. -/
theorem keys_put (es : Entries) (k : Key) (v : Value) :
    keys (es.put k v) = if (es.get? k).isSome then keys es else keys es ++ [k] := by
  induction es with
  | nil => rfl
  | cons e es ih =>
    rw [put, get?_cons]
    by_cases hk : e.1.same k = true
    · rw [if_pos hk, if_pos hk]
      rfl
    · rw [if_neg hk, if_neg hk, keys_cons, ih, keys_cons]
      split <;> rfl

theorem distinctKeys_nil : DistinctKeys [] := List.Pairwise.nil

theorem distinctKeys_put (h : es.DistinctKeys) (k : Key) (v : Value) :
    (es.put k v).DistinctKeys := by
  unfold DistinctKeys
  rw [keys_put]
  split
  · exact h
  · rename_i hfresh
    rw [Bool.not_eq_true, Option.isSome_eq_false_iff, Option.isNone_iff_eq_none,
      get?_eq_none_iff] at hfresh
    refine List.pairwise_append.2 ⟨h, List.pairwise_singleton _ _, ?_⟩
    intro j hj i hi
    rw [List.mem_singleton.1 hi]
    exact hfresh j hj

/-- An overlay has distinct keys when its base has. -/
theorem distinctKeys_overlay (h : base.DistinctKeys) (top : Entries) :
    (overlay base top).DistinctKeys := by
  induction top generalizing base with
  | nil => exact h
  | cons t top ih => exact ih (distinctKeys_put h t.1 t.2)

/-- Pairs that are put one after the other make an object with distinct keys. -/
theorem distinctKeys_ofList (pairs : List (Key × Value)) : (ofList pairs).DistinctKeys :=
  distinctKeys_overlay distinctKeys_nil pairs

/-- An overlay has the keys of its base, and behind them those keys of the top that are new. -/
theorem keys_overlay (htop : top.DistinctKeys) :
    keys (overlay base top) = keys base ++ (keys top).filter fun k => (base.get? k).isNone := by
  induction top generalizing base with
  | nil => simp [overlay, keys]
  | cons t top ih =>
    obtain ⟨hfresh, hrest⟩ := distinctKeys_cons_iff.1 htop
    -- what is put first is no key of what follows, so it makes none of that old
    have hnew : (keys top).filter (fun k => ((base.put t.1 t.2).get? k).isNone) =
        (keys top).filter fun k => (base.get? k).isNone := by
      refine List.filter_congr fun k hk => ?_
      have hne : ¬ t.1.same k = true := by
        rw [Key.same_comm, get?_eq_none_iff.1 hfresh k hk]
        exact Bool.false_ne_true
      rw [get?_put, if_neg hne]
    change keys (overlay (base.put t.1 t.2) top) = _
    rw [ih hrest, hnew, keys_put, keys_cons, List.filter_cons]
    cases base.get? t.1 <;> simp

end Entries

namespace Value

/-- Every object in the value has distinct keys. -/
def HasDistinctKeys (v : Value) : Prop :=
  ∀ es : Entries, Holds (.object es) v → es.DistinctKeys

theorem hasDistinctKeys_object_iff {es : Entries} : (object es).HasDistinctKeys ↔
    es.DistinctKeys ∧ ∀ e ∈ es, e.2.HasDistinctKeys := by
  constructor
  · intro h
    exact ⟨h es .self, fun e he fs hfs => h fs (hfs.trans (holds_entry he))⟩
  · rintro ⟨hes, hparts⟩ fs hfs
    rcases holds_object_iff.1 hfs with hself | ⟨e, he, hfs⟩
    · cases hself
      exact hes
    · exact hparts e he fs hfs

theorem hasDistinctKeys_list_iff {xs : List Value} :
    (list xs).HasDistinctKeys ↔ ∀ v ∈ xs, v.HasDistinctKeys := by
  constructor
  · intro h v hv fs hfs
    exact h fs (hfs.trans (holds_item hv))
  · intro h fs hfs
    rcases holds_list_iff.1 hfs with hself | ⟨v, hv, hfs⟩
    · cases hself
    · exact h v hv fs hfs

theorem hasDistinctKeys_leaf {v : Value} (ho : ∀ es, v ≠ .object es) (hl : ∀ xs, v ≠ .list xs) :
    v.HasDistinctKeys := by
  intro es hes
  exact absurd ((holds_leaf_iff ho hl).1 hes).symm (ho es)

end Value

end SdkModel
