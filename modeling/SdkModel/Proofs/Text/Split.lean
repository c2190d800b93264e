import SdkModel.Text.Split

/-!
# Cutting and joining

Cutting a text at a character and joining pieces by it are inverse to one another where no piece
holds the character (`split_intercalate`).
-/

namespace SdkModel.Text

variable {sep x : Char} {cs p between : List Char} {ps : List (List Char)}

/-! ## Cutting -/

/-- A text without the separator is in one piece. -/
theorem split_of_not_mem (h : sep ∉ cs) : split sep cs = [cs] := by
  induction cs with
  | nil => rfl
  | cons c cs ih =>
    rw [List.mem_cons, not_or] at h
    rw [split, ih h.2]
    exact if_neg (Ne.symm h.1)

theorem split_append_sep (h : sep ∉ p) :
    split sep (p ++ sep :: cs) = p :: split sep cs := by
  induction p with
  | nil =>
    rw [List.nil_append, split]
    cases hcut : split sep cs with
    | nil => exact absurd hcut (split_ne_nil sep cs)
    | cons p pieces => exact if_pos rfl
  | cons c p ih =>
    rw [List.mem_cons, not_or] at h
    rw [List.cons_append, split, ih h.2]
    exact if_neg (Ne.symm h.1)

/-- No piece has the character that the text was cut at. -/
theorem not_mem_of_mem_split (h : p ∈ split sep cs) : sep ∉ p := by
  induction cs generalizing p with
  | nil =>
    rw [split, List.mem_singleton] at h
    rw [h]
    exact List.not_mem_nil
  | cons c cs ih =>
    rw [split] at h
    cases hcut : split sep cs with
    | nil => exact absurd hcut (split_ne_nil sep cs)
    | cons q pieces =>
      simp only [hcut] at h ih
      split at h
      · rcases List.mem_cons.1 h with rfl | h
        · exact List.not_mem_nil
        · exact ih h
      · rename_i hc
        rcases List.mem_cons.1 h with rfl | h
        · rw [List.mem_cons, not_or]
          exact ⟨Ne.symm hc, ih List.mem_cons_self⟩
        · exact ih (List.mem_cons_of_mem q h)

/-! ## Joining -/

/-- Joining adds nothing but what is put between the pieces. -/
theorem mem_intercalate_iff (h : x ∉ between) :
    x ∈ List.intercalate between ps ↔ ∃ p ∈ ps, x ∈ p := by
  induction ps with
  | nil => simp
  | cons p ps ih =>
    cases ps with
    | nil => simp
    | cons q qs =>
      rw [List.intercalate_cons_cons, List.mem_append, List.mem_append, ih, or_iff_left h]
      simp

/-- Joined pieces are the first one and the others with the separator before each. -/
theorem intercalate_cons (sep : Char) (p : List Char) (ps : List (List Char)) :
    List.intercalate [sep] (p :: ps) = p ++ ps.flatMap (sep :: ·) := by
  induction ps generalizing p with
  | nil =>
    rw [List.intercalate_singleton]
    exact (List.append_nil p).symm
  | cons q ps ih =>
    rw [List.intercalate_cons_cons, ih, List.flatMap_cons, List.append_assoc,
      List.singleton_append, List.cons_append]

/-- Cutting gives back what was joined by the separator. -/
theorem split_intercalate (h : ∀ p ∈ ps, sep ∉ p) (hne : ps ≠ []) :
    split sep (List.intercalate [sep] ps) = ps := by
  induction ps with
  | nil => exact absurd rfl hne
  | cons p ps ih =>
    rw [List.forall_mem_cons] at h
    cases ps with
    | nil =>
      rw [List.intercalate_singleton]
      exact split_of_not_mem h.1
    | cons q qs =>
      rw [List.intercalate_cons_cons, List.append_assoc, List.singleton_append,
        split_append_sep h.1, ih h.2 (List.cons_ne_nil q qs)]

/-- The pieces of a text hold no other characters than the text. -/
theorem mem_of_mem_split (hp : p ∈ split sep cs) (hx : x ∈ p) : x ∈ cs := by
  have hne : x ∉ [sep] := by
    rw [List.mem_singleton]
    rintro rfl
    exact not_mem_of_mem_split hp hx
  rw [← intercalate_split sep cs, mem_intercalate_iff hne]
  exact ⟨p, hp, hx⟩

/-- Cutting gives back the texts that are each ended by the separator. -/
theorem split_flatMap (h : ∀ p ∈ ps, sep ∉ p) :
    split sep (ps.flatMap (· ++ [sep])) = ps ++ [[]] := by
  induction ps with
  | nil => rfl
  | cons p ps ih =>
    rw [List.forall_mem_cons] at h
    rw [List.flatMap_cons, List.append_assoc, List.singleton_append, split_append_sep h.1, ih h.2,
      List.cons_append]

end SdkModel.Text
