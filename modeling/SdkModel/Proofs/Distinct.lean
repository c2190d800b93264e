import Mathlib.Data.List.Nodup
import SdkModel.Order

/-!
# Distinct members

Lists without repetitions: the distinct numbers of a list, the members of a list that are the first
of their key, and lists that are joined from parts of one list.
-/

namespace SdkModel

/-! ## First of a key -/

section FirstOf

variable {α κ : Type} [DecidableEq κ] {key : α → κ} {seen : List κ} {xs : List α} {k : κ}

/-- The members that are the first of their key, those with a key that was seen left out. -/
def firstOf (key : α → κ) (seen : List κ) : List α → List α
  | [] => []
  | a :: rest =>
    if key a ∈ seen then firstOf key seen rest else a :: firstOf key (key a :: seen) rest

/-- No key is lost but for those that were seen. -/
theorem mem_keys_firstOf :
    k ∈ (firstOf key seen xs).map key ↔ k ∉ seen ∧ k ∈ xs.map key := by
  induction xs generalizing seen with
  | nil => simp [firstOf]
  | cons a xs ih =>
    rw [firstOf, List.map_cons, List.mem_cons]
    split
    · rename_i hseen
      rw [ih]
      refine and_congr_right fun hk => (or_iff_right ?_).symm
      rintro rfl
      exact hk hseen
    · rename_i hnew
      rw [List.map_cons, List.mem_cons, ih, List.mem_cons, not_or]
      constructor
      · rintro (rfl | ⟨⟨-, hk⟩, hxs⟩)
        · exact ⟨hnew, .inl rfl⟩
        · exact ⟨hk, .inr hxs⟩
      · rintro ⟨hk, hxs⟩
        by_cases heq : k = key a
        · exact .inl heq
        · exact .inr ⟨⟨heq, hk⟩, hxs.resolve_left heq⟩

theorem mem_keys_firstOf_nil : k ∈ (firstOf key [] xs).map key ↔ k ∈ xs.map key := by
  rw [mem_keys_firstOf]
  exact and_iff_right List.not_mem_nil

theorem firstOf_sublist : (firstOf key seen xs).Sublist xs := by
  induction xs generalizing seen with
  | nil => exact List.Sublist.slnil
  | cons a xs ih =>
    rw [firstOf]
    split
    · exact ih.cons a
    · exact ih.cons_cons a

theorem nodup_keys_firstOf : ((firstOf key seen xs).map key).Nodup := by
  induction xs generalizing seen with
  | nil => exact List.nodup_nil
  | cons x xs ih =>
    rw [firstOf]
    split
    · exact ih
    · rw [List.map_cons, List.nodup_cons, mem_keys_firstOf]
      exact ⟨fun h => h.1 List.mem_cons_self, ih⟩

/-- The first of a key is the one that is found by it. -/
theorem mem_firstOf_iff {a : α} : a ∈ firstOf key seen xs ↔
    key a ∉ seen ∧ xs.find? (fun x => key x = key a) = some a := by
  induction xs generalizing seen with
  | nil => simp [firstOf]
  | cons x xs ih =>
    rw [firstOf, List.find?_cons]
    by_cases hkey : key x = key a
    · rw [decide_eq_true hkey]
      split
      · rename_i hseen
        rw [ih, ← hkey]
        exact iff_of_false (fun h => h.1 hseen) fun h => h.1 hseen
      · rename_i hnew
        rw [List.mem_cons, ih, ← hkey]
        constructor
        · rintro (rfl | ⟨hnot, -⟩)
          · exact ⟨hnew, rfl⟩
          · exact absurd List.mem_cons_self hnot
        · rintro ⟨-, h⟩
          exact .inl (Option.some.inj h).symm
    · rw [decide_eq_false hkey]
      split
      · exact ih
      · rw [List.mem_cons, ih, List.mem_cons, not_or]
        constructor
        · rintro (rfl | ⟨⟨-, hnot⟩, h⟩)
          · exact absurd rfl hkey
          · exact ⟨hnot, h⟩
        · rintro ⟨hnot, h⟩
          exact .inr ⟨⟨fun h => hkey h.symm, hnot⟩, h⟩

/-- Members of distinct keys are all the first of theirs. -/
theorem firstOf_eq_self (hnodup : (xs.map key).Nodup) (hseen : ∀ x ∈ xs, key x ∉ seen) :
    firstOf key seen xs = xs := by
  induction xs generalizing seen with
  | nil => rfl
  | cons x xs ih =>
    rw [List.map_cons, List.nodup_cons] at hnodup
    rw [firstOf, if_neg (hseen x List.mem_cons_self)]
    refine congrArg (x :: ·) (ih hnodup.2 fun y hy => ?_)
    rw [List.mem_cons, not_or]
    exact ⟨fun h => hnodup.1 (h ▸ List.mem_map_of_mem hy), hseen y (List.mem_cons_of_mem x hy)⟩

/-- Of members of distinct keys one has the key. -/
theorem filter_key_of_nodup {a : α} (hnodup : (xs.map key).Nodup) (h : a ∈ xs) :
    xs.filter (fun x => key x = key a) = [a] := by
  induction xs with
  | nil => cases h
  | cons x xs ih =>
    rw [List.map_cons, List.nodup_cons] at hnodup
    rcases List.mem_cons.1 h with rfl | h
    · rw [List.filter_cons, if_pos (decide_eq_true rfl)]
      refine congrArg (a :: ·) (List.filter_eq_nil_iff.2 fun y hy hkey => ?_)
      rw [decide_eq_true_eq] at hkey
      exact hnodup.1 (hkey ▸ List.mem_map_of_mem hy)
    · have hne : ¬ decide (key x = key a) = true := by
        rw [decide_eq_true_eq]
        intro hkey
        exact hnodup.1 (hkey ▸ List.mem_map_of_mem h)
      rw [List.filter_cons, if_neg hne]
      exact ih hnodup.2 h

/-- Members of distinct keys are found by their keys. -/
theorem flatMap_filter_key_of_nodup {ys : List α} (hnodup : (xs.map key).Nodup) (hys : ys ⊆ xs) :
    (ys.map key).flatMap (fun k => xs.filter (key · = k)) = ys := by
  rw [List.flatMap_map]
  calc
    ys.flatMap (fun y => xs.filter (key · = key y)) = ys.flatMap fun y => [y] :=
      List.flatMap_congr fun y hy => filter_key_of_nodup hnodup (hys hy)
    _ = ys := List.flatMap_singleton' ys

theorem firstOf_map {β : Type} (f : β → α) (ys : List β) :
    firstOf key seen (ys.map f) = (firstOf (key ∘ f) seen ys).map f := by
  induction ys generalizing seen with
  | nil => rfl
  | cons y ys ih =>
    rw [List.map_cons, firstOf, firstOf]
    by_cases h : key (f y) ∈ seen
    · simp [h, ih]
    · simp [h, ih]

/-- A member that is left out has an earlier one of its key. -/
theorem mem_firstOf_or_earlier (key : α → κ) (seen : List κ) {a : α} (h : a ∈ xs) :
    key a ∈ seen ∨ a ∈ firstOf key seen xs ∨
      ∃ b ∈ firstOf key seen xs, key b = key a ∧ [b, a].Sublist xs := by
  induction xs generalizing seen with
  | nil => cases h
  | cons x xs ih =>
    rw [firstOf]
    by_cases hx : key x ∈ seen
    · rw [if_pos hx]
      rcases List.mem_cons.1 h with rfl | h
      · exact .inl hx
      · rcases ih seen h with hseen | hkept | ⟨b, hb, hkey, hsub⟩
        · exact .inl hseen
        · exact .inr (.inl hkept)
        · exact .inr (.inr ⟨b, hb, hkey, hsub.cons x⟩)
    · rw [if_neg hx]
      rcases List.mem_cons.1 h with rfl | h
      · exact .inr (.inl List.mem_cons_self)
      · rcases ih (key x :: seen) h with hseen | hkept | ⟨b, hb, hkey, hsub⟩
        · rcases List.mem_cons.1 hseen with hkey | hseen
          · exact .inr (.inr ⟨x, List.mem_cons_self, hkey.symm,
              (List.singleton_sublist.2 h).cons_cons x⟩)
          · exact .inl hseen
        · exact .inr (.inl (List.mem_cons_of_mem _ hkept))
        · exact .inr (.inr ⟨b, List.mem_cons_of_mem _ hb, hkey, hsub.cons x⟩)

/-- Of members that are all different, the first of a key has no earlier one beside it. -/
theorem mem_firstOf_iff_of_nodup {a : α} (hnodup : xs.Nodup) (ha : a ∈ xs) :
    a ∈ firstOf key [] xs ↔ ∀ b, [b, a].Sublist xs → key b ≠ key a := by
  constructor
  · intro hfirst b hba hkey
    obtain ⟨-, before, after, rfl, hbefore⟩ :=
      List.find?_eq_some_iff_append.1 (mem_firstOf_iff.1 hfirst).2
    have hafter := (List.nodup_append.1 hnodup).2.1
    obtain ⟨us, vs, hsplit, hus, hvs⟩ := List.sublist_append_iff.1 hba
    cases us with
    | nil =>
      have hvs : [b, a].Sublist (a :: after) := hsplit ▸ hvs
      exact (List.nodup_cons.1 hafter).1 (List.singleton_sublist.1 hvs.tail)
    | cons u us =>
      obtain ⟨rfl, hrest⟩ := List.cons.inj hsplit
      have hb : b ∈ before := hus.subset List.mem_cons_self
      simpa [hkey] using hbefore b hb
  · intro hearlier
    rcases mem_firstOf_or_earlier key [] ha with hseen | hfirst | ⟨b, -, hkey, hsub⟩
    · cases hseen
    · exact hfirst
    · exact absurd hkey (hearlier b hsub)

section Finer

variable {κ' : Type} [DecidableEq κ'] {fine : α → κ'} {taken : List κ'} {ys : List α}

/-- Leaving out what repeats a finer key first changes nothing, in front of further members. -/
theorem firstOf_append_left (hfine : ∀ x y, fine x = fine y → key x = key y)
    (htaken : ∀ x, fine x ∈ taken → key x ∈ seen) :
    firstOf key seen (firstOf fine taken xs ++ ys) = firstOf key seen (xs ++ ys) := by
  induction xs generalizing seen taken with
  | nil => rfl
  | cons a xs ih =>
    -- the keys of what the finer pass has met are seen, also once `a` is among them
    have hstep {seen : List κ} (htaken : ∀ x, fine x ∈ taken → key x ∈ seen)
        (ha : key a ∈ seen) : ∀ x, fine x ∈ fine a :: taken → key x ∈ seen := by
      intro x hx
      rcases List.mem_cons.1 hx with heq | hx
      · exact hfine x a heq ▸ ha
      · exact htaken x hx
    rw [firstOf, List.cons_append, firstOf]
    by_cases htwice : fine a ∈ taken
    · rw [if_pos htwice, if_pos (htaken a htwice), ih htaken]
    · rw [if_neg htwice, List.cons_append, firstOf]
      by_cases hseen : key a ∈ seen
      · rw [if_pos hseen, if_pos hseen, ih (hstep htaken hseen)]
      · rw [if_neg hseen, if_neg hseen]
        have hgrown : ∀ x, fine x ∈ taken → key x ∈ key a :: seen :=
          fun x hx => List.mem_cons_of_mem _ (htaken x hx)
        rw [ih (hstep hgrown List.mem_cons_self)]

theorem firstOf_append_right (hfine : ∀ x y, fine x = fine y → key x = key y)
    (htaken : ∀ x, fine x ∈ taken → key x ∈ seen) :
    firstOf key seen (xs ++ firstOf fine taken ys) = firstOf key seen (xs ++ ys) := by
  induction xs generalizing seen with
  | nil =>
    have h : firstOf key seen (firstOf fine taken ys ++ []) = firstOf key seen (ys ++ []) :=
      firstOf_append_left hfine htaken
    rwa [List.append_nil, List.append_nil] at h
  | cons a xs ih =>
    have hgrown : ∀ x, fine x ∈ taken → key x ∈ key a :: seen :=
      fun x hx => List.mem_cons_of_mem _ (htaken x hx)
    rw [List.cons_append, List.cons_append, firstOf, firstOf, ih htaken, ih hgrown]

end Finer

end FirstOf

/-! ## Repetitions -/

section Repetitions

variable {α : Type} [DecidableEq α]

/-- Dropping repetitions keeps the first of each member. -/
theorem eraseDups_eq_firstOf {xs : List α} : xs.eraseDups = firstOf id [] xs := by
  have hseen (seen : List α) : firstOf id seen xs = (xs.filter (· ∉ seen)).eraseDups := by
    induction xs generalizing seen with
    | nil => rfl
    | cons x xs ih =>
      rw [firstOf, List.filter_cons]
      by_cases hx : x ∈ seen
      · simp [hx, ih]
      · have hrest : (xs.filter (· ∉ seen)).filter (fun y => !y == x) =
            xs.filter (· ∉ x :: seen) := by
          rw [List.filter_filter]
          refine List.filter_congr fun y _ => ?_
          simp [beq_eq_decide]
        simp only [id_eq, hx, not_false_eq_true, decide_true, if_true, if_false]
        rw [List.eraseDups_cons, hrest, ih]
  rw [hseen, List.filter_eq_self.2 (by simp)]

theorem nodup_eraseDups (xs : List α) : xs.eraseDups.Nodup := by
  rw [eraseDups_eq_firstOf, ← List.map_id (firstOf id [] xs)]
  exact nodup_keys_firstOf

theorem eraseDups_of_nodup {xs : List α} (h : xs.Nodup) : xs.eraseDups = xs := by
  rw [eraseDups_eq_firstOf]
  exact firstOf_eq_self (by rwa [List.map_id]) fun _ _ => List.not_mem_nil

end Repetitions

@[simp] theorem mem_distinctOrders {xs : List Int} {x : Int} : x ∈ distinctOrders xs ↔ x ∈ xs := by
  rw [distinctOrders, mem_sortByOrder, List.mem_eraseDups]

theorem nodup_distinctOrders (xs : List Int) : (distinctOrders xs).Nodup :=
  (sortByOrder_perm id _).nodup_iff.2 (nodup_eraseDups xs)

/-- A list without repetitions has one member when it has any and all of them are equal. -/
theorem length_eq_one_iff_of_nodup {α : Type} {xs : List α} (h : xs.Nodup) (hne : xs ≠ []) :
    xs.length = 1 ↔ ∀ x ∈ xs, ∀ y ∈ xs, x = y := by
  constructor
  · rw [List.length_eq_one_iff]
    rintro ⟨z, rfl⟩ x hx y hy
    rw [List.mem_singleton.1 hx, List.mem_singleton.1 hy]
  · intro heq
    cases xs with
    | nil => exact absurd rfl hne
    | cons x xs =>
      cases xs with
      | nil => rfl
      | cons y ys =>
        have hxy := heq x List.mem_cons_self y (List.mem_cons_of_mem _ List.mem_cons_self)
        rw [hxy] at h
        exact absurd List.mem_cons_self (List.nodup_cons.1 h).1

/-! ## Joined parts -/

section Joined

variable {α κ : Type} {key : α → κ} {xs ys zs : List α}

theorem flatMap_eq_of_unique {β : Type} {x : α} {f : α → List β} (h : xs.Nodup) (hx : x ∈ xs)
    (hf : ∀ y ∈ xs, y ≠ x → f y = []) : xs.flatMap f = f x := by
  induction xs with
  | nil => cases hx
  | cons y ys ih =>
    rw [List.nodup_cons] at h
    rw [List.flatMap_cons]
    rcases List.mem_cons.1 hx with rfl | hx
    · have hrest : ys.flatMap f = [] := by
        refine List.flatMap_eq_nil_iff.2 fun z hz => hf z (List.mem_cons_of_mem _ hz) ?_
        rintro rfl
        exact h.1 hz
      rw [hrest, List.append_nil]
    · have hy : f y = [] := by
        refine hf y List.mem_cons_self ?_
        rintro rfl
        exact h.1 hx
      rw [hy, List.nil_append, ih h.2 hx fun z hz => hf z (List.mem_cons_of_mem _ hz)]

/-- Two parts of a list of distinct keys share no key when they share no member. -/
theorem nodup_keys_filter_append_iff {p q : α → Bool} (h : (xs.map key).Nodup) :
    ((xs.filter p ++ xs.filter q).map key).Nodup ↔ ∀ x ∈ xs, p x = true → q x = false := by
  have hpart (p : α → Bool) : ((xs.filter p).map key).Nodup :=
    h.sublist (List.filter_sublist.map key)
  rw [List.map_append, List.nodup_append, and_iff_right (hpart p), and_iff_right (hpart q)]
  constructor
  · intro hne x hx hp
    by_contra hq
    rw [Bool.not_eq_false] at hq
    exact hne _ (List.mem_map_of_mem (List.mem_filter.2 ⟨hx, hp⟩)) _
      (List.mem_map_of_mem (List.mem_filter.2 ⟨hx, hq⟩)) rfl
  · intro hdisjoint k hk k' hk' heq
    obtain ⟨x, hx, rfl⟩ := List.mem_map.1 hk
    obtain ⟨y, hy, rfl⟩ := List.mem_map.1 hk'
    obtain ⟨hx, hp⟩ := List.mem_filter.1 hx
    obtain ⟨hy, hq⟩ := List.mem_filter.1 hy
    obtain rfl := List.inj_on_of_nodup_map h hx hy heq
    rw [hdisjoint x hx hp] at hq
    cases hq

/-- A part of a list that is listed again repeats keys unless it is empty. -/
theorem nodup_keys_repeated_iff (h : ((xs ++ zs).map key).Nodup) (hys : ys ⊆ xs) :
    ((xs ++ ys ++ zs).map key).Nodup ↔ ys = [] := by
  constructor
  · intro hnodup
    refine List.eq_nil_iff_forall_not_mem.2 fun y hy => ?_
    rw [List.append_assoc, List.map_append, List.nodup_append] at hnodup
    exact hnodup.2.2 _ (List.mem_map_of_mem (hys hy)) _
      (List.mem_map_of_mem (List.mem_append_left _ hy)) rfl
  · rintro rfl
    rwa [List.append_nil]

end Joined

end SdkModel
