import Mathlib.Data.List.Forall2
import SdkModel.Value.Basic

/-!
# Looking up entries

The look-up laws of `Entries`: putting a value under a key changes what that key names and nothing
else, and an overlay answers with its own last entry of a key before that of its base.
-/

namespace SdkModel

namespace Key

theorem same_iff {j k : Key} : j.same k = true ↔ j.normal = k.normal := by simp [same]

theorem same_congr {i j : Key} (h : i.same j = true) (k : Key) : i.same k = j.same k := by
  simp only [same, same_iff.1 h]

end Key

namespace Entries

theorem get?_cons (e : Key × Value) (es : Entries) (k : Key) :
    get? (e :: es) k = if e.1.same k then some e.2 else get? es k := by
  unfold get?
  rw [List.find?_cons]
  split <;> simp_all

theorem get?_append (es fs : Entries) (k : Key) :
    get? (es ++ fs) k = (get? es k).or (get? fs k) := by
  unfold get?
  rw [List.find?_append]
  cases es.find? fun e => e.1.same k <;> simp

/-- A value that is put is found under its key, and nothing else changes. -/
theorem get?_put (es : Entries) (j k : Key) (v : Value) :
    (es.put j v).get? k = if j.same k then some v else es.get? k := by
  induction es with
  | nil => rw [put, get?_cons]
  | cons e es ih =>
    unfold put
    split
    · rename_i he
      rw [get?_cons, get?_cons, Key.same_congr he k]
      split <;> rfl
    · rename_i he
      rw [get?_cons, get?_cons, ih]
      by_cases hk : e.1.same k = true
      · -- a key that is the same as both would make the two the same
        have hj : ¬ j.same k = true := by
          rw [Key.same_iff] at *
          exact fun hjk => he (hk.trans hjk.symm)
        rw [if_pos hk, if_neg hj, if_pos hk]
      · rw [if_neg hk, if_neg hk]

/-- The last value on top is found first. -/
theorem get?_overlay (base top : Entries) (k : Key) :
    (overlay base top).get? k = (get? top.reverse k).or (base.get? k) := by
  unfold overlay
  induction top generalizing base with
  | nil => simp [get?]
  | cons e top ih =>
    rw [List.foldl_cons, ih, List.reverse_cons, get?_append, get?_put, get?_cons]
    cases get? top.reverse k with
    | some v => rfl
    | none => split <;> simp [get?]

/-- Two objects with the same keys in the same order, and related values under them. -/
abbrev Aligned (rel : Value → Value → Prop) : Entries → Entries → Prop :=
  List.Forall₂ fun e f => e.1 = f.1 ∧ rel e.2 f.2

section Aligned

variable {rel : Value → Value → Prop} {es fs : Entries}

theorem aligned_cons {k : Key} {v w : Value} (hvw : rel v w) (h : Aligned rel es fs) :
    Aligned rel ((k, v) :: es) ((k, w) :: fs) :=
  .cons ⟨rfl, hvw⟩ h

/-- Aligned entries have related values under each key. -/
theorem get?_aligned (h : Aligned rel es fs) (k : Key) :
    Option.Rel rel (es.get? k) (fs.get? k) := by
  induction h with
  | nil => exact .none
  | @cons e f es fs hef _ ih =>
    obtain ⟨hkey, hrel⟩ := hef
    rw [get?_cons, get?_cons, ← hkey]
    by_cases hk : e.1.same k = true
    · rw [if_pos hk, if_pos hk]
      exact .some hrel
    · rw [if_neg hk, if_neg hk]
      exact ih

theorem aligned_reverse (h : Aligned rel es fs) : Aligned rel es.reverse fs.reverse :=
  List.rel_reverse h

/-- Leaving out entries by their keys keeps two objects aligned. -/
theorem aligned_filter (p : Key → Bool) (h : Aligned rel es fs) :
    Aligned rel (es.filter fun e => p e.1) (fs.filter fun f => p f.1) :=
  List.rel_filter (fun {e f} hef => by
    change p e.1 = true ↔ p f.1 = true
    rw [hef.1]) h

end Aligned

/-- Every key of `base` is a key of the object. -/
def Covers (es base : Entries) : Prop := ∀ k, (base.get? k).isSome → (es.get? k).isSome

theorem isSome_get?_iff {es : Entries} {k : Key} :
    (es.get? k).isSome ↔ ∃ e ∈ es, e.1.same k = true := by
  rw [get?, Option.isSome_map, List.find?_isSome]

theorem isSome_get?_reverse {es : Entries} {k : Key} :
    (get? es.reverse k).isSome ↔ (es.get? k).isSome := by
  simp only [isSome_get?_iff, List.mem_reverse]

end Entries

end SdkModel
