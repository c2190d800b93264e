import SdkModel.Text.Case

/-!
# Letters and digits of ASCII

Capitals, small letters and digits are ranges of characters that do not meet. A change of case takes
each of the 26 letters to its other form and back, and leaves every other character as it is.
-/

namespace SdkModel.Text

variable {c : Char}

/-! ## Ranges -/

/-- Each of the ranges by the numbers of its first and its last character. -/
theorem isUpper_iff : c.isUpper = true ↔ 65 ≤ c.toNat ∧ c.toNat ≤ 90 := decide_eq_true_iff

theorem isLower_iff : c.isLower = true ↔ 97 ≤ c.toNat ∧ c.toNat ≤ 122 :=
  Bool.and_eq_true_iff.trans (and_congr decide_eq_true_iff decide_eq_true_iff)

theorem isDigit_iff : c.isDigit = true ↔ 48 ≤ c.toNat ∧ c.toNat ≤ 57 := Char.isDigit_iff_toNat

/-- No character is in two of the ranges. -/
theorem isUpper_of_isLower (h : c.isLower = true) : c.isUpper = false := by
  rw [← Bool.not_eq_true, isUpper_iff]
  rw [isLower_iff] at h
  omega

theorem isLower_of_isUpper (h : c.isUpper = true) : c.isLower = false := by
  rw [← Bool.not_eq_true, isLower_iff]
  rw [isUpper_iff] at h
  omega

theorem isUpper_of_isDigit (h : c.isDigit = true) : c.isUpper = false := by
  rw [← Bool.not_eq_true, isUpper_iff]
  rw [isDigit_iff] at h
  omega

theorem isLower_of_isDigit (h : c.isDigit = true) : c.isLower = false := by
  rw [← Bool.not_eq_true, isLower_iff]
  rw [isDigit_iff] at h
  omega

theorem isAlphanum_eq (c : Char) : c.isAlphanum = (c.isUpper || c.isLower || c.isDigit) := rfl

theorem isAlphanum_iff :
    c.isAlphanum = true ↔ (c.isUpper = true ∨ c.isLower = true) ∨ c.isDigit = true := by
  rw [isAlphanum_eq, Bool.or_eq_true, Bool.or_eq_true]

theorem isAlphanum_of_isUpper (h : c.isUpper = true) : c.isAlphanum = true :=
  isAlphanum_iff.2 (.inl (.inl h))

theorem isAlphanum_of_isLower (h : c.isLower = true) : c.isAlphanum = true :=
  isAlphanum_iff.2 (.inl (.inr h))

theorem isAlphanum_of_isDigit (h : c.isDigit = true) : c.isAlphanum = true :=
  isAlphanum_iff.2 (.inr h)

theorem isAscii_of_isAlphanum (h : c.isAlphanum = true) : isAscii c = true := by
  rw [isAlphanum_iff, isUpper_iff, isLower_iff, isDigit_iff] at h
  rw [isAscii, decide_eq_true_eq]
  omega

/-! ## Changes of case -/

/-- The capitals are 26, so that what holds of each of them can be checked. -/
theorem exists_of_isUpper (h : c.isUpper = true) : ∃ i : Fin 26, c = Char.ofNat (65 + i) := by
  rw [isUpper_iff] at h
  refine ⟨⟨c.toNat - 65, by omega⟩, ?_⟩
  rw [Nat.add_sub_cancel' h.1, Char.ofNat_toNat]

theorem exists_of_isLower (h : c.isLower = true) : ∃ i : Fin 26, c = Char.ofNat (97 + i) := by
  rw [isLower_iff] at h
  refine ⟨⟨c.toNat - 97, by omega⟩, ?_⟩
  rw [Nat.add_sub_cancel' h.1, Char.ofNat_toNat]

/-- What is no small letter has no other capital form. -/
theorem toUpper_eq_self (h : c.isLower = false) : c.toUpper = c :=
  dif_neg fun hc => Bool.false_ne_true (h.symm.trans (isLower_iff.2 hc))

theorem toLower_eq_self (h : c.isUpper = false) : c.toLower = c :=
  dif_neg fun hc => Bool.false_ne_true (h.symm.trans (isUpper_iff.2 hc))

/-- A change of case gives a letter of the other case. -/
theorem isUpper_toUpper (h : c.isLower = true) : c.toUpper.isUpper = true := by
  obtain ⟨i, rfl⟩ := exists_of_isLower h
  revert i
  decide

theorem isLower_toLower (h : c.isUpper = true) : c.toLower.isLower = true := by
  obtain ⟨i, rfl⟩ := exists_of_isUpper h
  revert i
  decide

/-- The other form of a letter leads back to it. -/
theorem toLower_toUpper (h : c.isLower = true) : c.toUpper.toLower = c := by
  obtain ⟨i, rfl⟩ := exists_of_isLower h
  revert i
  decide

theorem toUpper_toLower (h : c.isUpper = true) : c.toLower.toUpper = c := by
  obtain ⟨i, rfl⟩ := exists_of_isUpper h
  revert i
  decide

/-- A change to small letters undoes one to capitals, and so the other way around. -/
theorem toLower_toUpper_eq_toLower (c : Char) : c.toUpper.toLower = c.toLower := by
  cases h : c.isLower with
  | true => rw [toLower_toUpper h, toLower_eq_self (isUpper_of_isLower h)]
  | false => rw [toUpper_eq_self h]

theorem toUpper_toLower_eq_toUpper (c : Char) : c.toLower.toUpper = c.toUpper := by
  cases h : c.isUpper with
  | true => rw [toUpper_toLower h, toUpper_eq_self (isLower_of_isUpper h)]
  | false => rw [toLower_eq_self h]

/-- The capital form of an ASCII character is one. -/
theorem isAscii_toUpper (h : isAscii c = true) : isAscii c.toUpper = true := by
  cases hc : c.isLower with
  | true => exact isAscii_of_isAlphanum (isAlphanum_of_isUpper (isUpper_toUpper hc))
  | false => rwa [toUpper_eq_self hc]

theorem isAlphanum_toLower (c : Char) : c.toLower.isAlphanum = c.isAlphanum := by
  cases h : c.isUpper with
  | true => rw [isAlphanum_of_isLower (isLower_toLower h), isAlphanum_of_isUpper h]
  | false => rw [toLower_eq_self h]

/-- The capital form of a letter or a digit is a capital or a digit. -/
theorem isUpper_or_isDigit_toUpper (h : c.isAlphanum = true) :
    c.toUpper.isUpper = true ∨ c.toUpper.isDigit = true := by
  obtain (hc | hc) | hc := isAlphanum_iff.1 h
  · rw [toUpper_eq_self (isLower_of_isUpper hc)]
    exact .inl hc
  · exact .inl (isUpper_toUpper hc)
  · rw [toUpper_eq_self (isLower_of_isDigit hc)]
    exact .inr hc

end SdkModel.Text
