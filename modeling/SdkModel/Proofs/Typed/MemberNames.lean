import SdkModel.Proofs.Naming.CamelCase
import SdkModel.Proofs.Typed.GlobalEnums

/-!
# Names of enum members

The name of an enum member keeps the letters and digits of its value, with a capital at the start of
each word (`Naming.spelling`). A value without any is called `Empty`, and a digit at the start is
led by `N`. What comes out is a name in camel case, and any such name does
(`Naming.range_enumMember`).

What parts the words is lost, and no name is held back for the target language. So the members of an
enum have distinct names that are no reserved words just when its values are spelled apart and none
of them is spelled like such a word (`Typed.legalMembers_iff`).
-/

namespace SdkModel

namespace Text

/-! ## Letters and digits of ASCII -/

/-- The ranges of letters and digits by their first and their last character. -/
theorem isUpper_eq (c : Char) : c.isUpper = ('A' ≤ c && c ≤ 'Z') := Bool.decide_and _ _

theorem isLower_eq (c : Char) : c.isLower = ('a' ≤ c && c ≤ 'z') := rfl

theorem isDigit_eq (c : Char) : c.isDigit = ('0' ≤ c && c ≤ '9') := rfl

end Text

namespace Naming

variable {cs ds : List Char} {v w k : String}

/-! ## Spelling -/

/-- The letters and digits of a text, with a capital at the start of each word. Whether a word
starts at the first character is told by `start`, and whether all other letters are made small by
`small`. -/
def spell (small : Bool) : Bool → List Char → List Char
  | _, [] => []
  | start, c :: cs =>
    if c.isAlphanum then
      (if start then c.toUpper else if small then c.toLower else c) :: spell small false cs
    else spell small true cs

/-- Capitals and no small letters. -/
def isAllCapitals (cs : List Char) : Bool := cs.any Char.isUpper && !cs.any Char.isLower

/-- What the name of a member keeps of its value. -/
def spelling (value : String) : List Char :=
  spell (isAllCapitals value.toList) true value.toList

/-- The name for a spelling. -/
def spelled : List Char → List Char
  | [] => "Empty".toList
  | c :: cs => if c.isDigit then 'N' :: c :: cs else c :: cs

/-! ## Camel case -/

/-- Letters, digits and underscores of ASCII. -/
def IsIdentifier (cs : List Char) : Prop := ∀ c ∈ cs, c.isAlphanum = true ∨ c = '_'

/-- The text with an underscore for each character that cannot stand in an identifier. -/
def clean (cs : List Char) : List Char := cs.map fun c => if isIdentifierChar c then c else '_'

/-- An identifier consists of letters, digits and underscores. -/
theorem isIdentifierChar_eq (c : Char) : isIdentifierChar c = (c.isAlphanum || c = '_') := by
  rw [isIdentifierChar, Text.isAlphanum_eq, Text.isUpper_eq, Text.isLower_eq, Text.isDigit_eq]
  simp only [Bool.or_assoc, Bool.or_comm]

/-- Cleaning a value leaves an identifier. -/
theorem isIdentifier_clean (cs : List Char) : IsIdentifier (clean cs) := by
  refine List.forall_mem_map.2 fun c _ => ?_
  split
  · rename_i h
    rw [isIdentifierChar_eq] at h
    simpa using h
  · exact .inr rfl

theorem IsIdentifier.toLower (h : IsIdentifier cs) : IsIdentifier (cs.map Char.toLower) := by
  refine List.forall_mem_map.2 fun c hc => ?_
  rcases h c hc with h | rfl
  · rw [Text.isAlphanum_toLower]
    exact .inl h
  · exact .inr rfl

/-- The letters of an identifier are made small one by one. -/
theorem IsIdentifier.lowerAll (h : IsIdentifier cs) : Text.lowerAll cs = cs.map Char.toLower := by
  refine Text.lowerAfter_ascii (fun c hc => ?_) []
  rcases h c hc with h | rfl
  · exact Text.isAscii_of_isAlphanum h
  · rfl

/-- The humps of an identifier are its spelling. -/
theorem flatten_humps_identifier (h : IsIdentifier cs) (start : Bool) :
    (humps start cs).flatten = spell false start cs := by
  induction cs generalizing start with
  | nil => rfl
  | cons c cs ih =>
    rw [IsIdentifier, List.forall_mem_cons] at h
    rcases h.1 with hc | rfl
    · have hne : c ≠ '_' := by
        rintro rfl
        cases hc
      rw [humps_cons_of_ne hne, List.flatten_cons, ih h.2, spell, if_pos hc,
        Text.upper_ascii (Text.isAscii_of_isAlphanum hc)]
      cases start <;> rfl
    · exact ih h.2 true

/-- Camel case spells an identifier. -/
theorem camelChars_identifier (h : IsIdentifier cs) : camelChars [cs] = spell false true cs := by
  rw [camelChars_eq_flatten_humps, flatten_humps_identifier h]

/-! ## Names and spellings -/

/-- Making letters small first makes no difference to a spelling with small letters. -/
theorem spell_map_toLower (start : Bool) (cs : List Char) :
    spell false start (cs.map Char.toLower) = spell true start cs := by
  induction cs generalizing start with
  | nil => rfl
  | cons c cs ih =>
    simp only [List.map_cons, spell, Text.isAlphanum_toLower, Text.toUpper_toLower_eq_toUpper, ih,
      Bool.false_eq_true, if_false, if_true]

/-- What cleaning takes out is spelled as a border between words, like what it leaves. -/
theorem spell_clean (small start : Bool) (cs : List Char) :
    spell small start (clean cs) = spell small start cs := by
  induction cs generalizing start with
  | nil => rfl
  | cons c cs ih =>
    have hcons : clean (c :: cs) = (if isIdentifierChar c then c else '_') :: clean cs := rfl
    rw [hcons, spell, spell, ih, ih]
    split
    · rfl
    · rename_i h
      rw [isIdentifierChar_eq, Bool.or_eq_true, not_or, Bool.not_eq_true] at h
      rw [h.1]
      rfl

/-- A value is all capitals before cleaning when it is after it. -/
theorem isShouting_clean (cs : List Char) : isShouting (clean cs) = isAllCapitals cs := by
  have hchar (c : Char) : (if isIdentifierChar c then c else '_').isUpper = c.isUpper ∧
      (if isIdentifierChar c then c else '_').isLower = c.isLower := by
    split
    · exact ⟨rfl, rfl⟩
    · rename_i h
      simp only [isIdentifierChar_eq, Text.isAlphanum_eq, Bool.or_eq_true, not_or,
        Bool.not_eq_true] at h
      obtain ⟨⟨⟨hupper, hlower⟩, -⟩, -⟩ := h
      rw [hupper, hlower]
      decide
  simp only [isShouting, isAllCapitals, ← Text.isUpper_eq, ← Text.isLower_eq, clean, List.any_map,
    Function.comp_def, hchar]

/-- A value in capitals is spelled with small letters, and any other one as it is. -/
theorem enumMemberChars_eq (cs : List Char) :
    enumMemberChars cs = spelled (spell (isAllCapitals cs) true cs) := by
  have hcamel : camelChars [if isShouting (clean cs) then Text.lowerAll (clean cs) else clean cs] =
      spell (isAllCapitals cs) true cs := by
    have hclean := isIdentifier_clean cs
    rw [isShouting_clean]
    cases isAllCapitals cs with
    | true =>
      rw [if_pos rfl, hclean.lowerAll, camelChars_identifier hclean.toLower, spell_map_toLower,
        spell_clean]
    | false =>
      rw [if_neg Bool.false_ne_true, camelChars_identifier hclean, spell_clean]
  have hclean : (cs.map fun c => if isIdentifierChar c then c else '_') = clean cs := rfl
  unfold enumMemberChars
  simp only [hclean, hcamel]
  cases spell (isAllCapitals cs) true cs with
  | nil => rfl
  | cons c rest => simp only [spelled, Text.isDigit_eq, Bool.and_eq_true, decide_eq_true_eq]

theorem toList_enumMember (v : String) : (enumMember v).toList = spelled (spelling v) := by
  rw [enumMember, String.toList_ofList, enumMemberChars_eq]
  rfl

/-! ## The form of a name -/

/-- A spelling holds letters and digits only. -/
theorem isAlphanum_of_mem_spell {small start : Bool} :
    ∀ d ∈ spell small start cs, d.isAlphanum = true := by
  induction cs generalizing start with
  | nil => nofun
  | cons c cs ih =>
    rw [spell]
    split
    · rename_i hc
      refine List.forall_mem_cons.2 ⟨?_, ih⟩
      split
      · rcases Text.isUpper_or_isDigit_toUpper hc with hc | hc
        · exact Text.isAlphanum_of_isUpper hc
        · exact Text.isAlphanum_of_isDigit hc
      · split
        · rwa [Text.isAlphanum_toLower]
        · exact hc
    · exact ih

/-- A spelling that begins a word does not begin with a small letter. -/
theorem isUpper_or_isDigit_of_spell_eq {small : Bool} {c : Char} {rest : List Char}
    (h : spell small true cs = c :: rest) : c.isUpper = true ∨ c.isDigit = true := by
  induction cs with
  | nil => cases h
  | cons d cs ih =>
    rw [spell] at h
    split at h
    · rename_i hd
      cases h
      exact Text.isUpper_or_isDigit_toUpper hd
    · exact ih h

/-- Every value has a name in camel case. -/
theorem isCamelChars_spelling (v : String) : IsCamelChars (spelled (spelling v)) := by
  have halphanum : ∀ d ∈ spelling v, d.isAlphanum = true := isAlphanum_of_mem_spell
  cases hspelling : spelling v with
  | nil => exact .name rfl (List.all_eq_true.1 rfl)
  | cons c cs =>
    rw [hspelling] at halphanum
    rw [spelled]
    split
    · exact .name rfl halphanum
    · rename_i hdigit
      rw [List.forall_mem_cons] at halphanum
      exact .name ((isUpper_or_isDigit_of_spell_eq hspelling).resolve_right hdigit) halphanum.2

/-- **The name of a member is an identifier** whatever the value is: a capital with letters and
digits of ASCII behind it. -/
theorem isCamelName_enumMember (v : String) : IsCamelName (enumMember v) := by
  rw [IsCamelName, toList_enumMember]
  exact isCamelChars_spelling v

/-- A name in camel case is spelled as it is. -/
theorem spelled_of_isCamelChars (h : IsCamelChars cs) : spelled cs = cs := by
  obtain ⟨hfirst, -⟩ := h
  refine if_neg fun hdigit => ?_
  rw [Text.isUpper_of_isDigit hdigit] at hfirst
  cases hfirst

/-- A value in snake case loses nothing but its underscores. -/
theorem enumMember_of_isSnakeName {s : String} (h : IsSnakeName s) : enumMember s = camel s := by
  have hidentifier : IsIdentifier s.toList := fun c hc =>
    (h.isSmallOrDigit c hc).imp_left isAlphanum_of_isSmallOrDigit
  have hcapitals : isAllCapitals s.toList = false := by
    have hnone : s.toList.any Char.isUpper = false := by
      rw [List.any_eq_false]
      intro c hc
      rcases h.isSmallOrDigit c hc with hc | rfl
      · simp [isUpper_of_isSmallOrDigit hc]
      · decide
    rw [isAllCapitals, hnone, Bool.false_and]
  have hspelling : spelling s = (camel s).toList := by
    rw [spelling, hcapitals, toList_camel, camelChars_identifier hidentifier]
  rw [← String.toList_inj, toList_enumMember, hspelling]
  exact spelled_of_isCamelChars (isCamelName_camel h)

/-- Every name in camel case is that of a member. -/
theorem range_enumMember : Set.range enumMember = {n | IsCamelName n} := by
  refine Set.Subset.antisymm ?_ ?_
  · rintro _ ⟨v, rfl⟩
    rw [Set.mem_ofPred_eq, IsCamelName, toList_enumMember]
    exact isCamelChars_spelling v
  · intro n hn
    obtain ⟨s, hs, rfl⟩ := exists_camel_eq hn
    exact ⟨s, enumMember_of_isSnakeName hs⟩

/-! ## Values of one name -/

/-- The name for the first spelling is spelled like the second one, since the first has no letters
and digits or begins with a digit. -/
inductive StandsFor : List Char → List Char → Prop
  | empty : StandsFor [] "Empty".toList
  | digit {c : Char} {cs : List Char} (hc : c.isDigit = true) : StandsFor (c :: cs) ('N' :: c :: cs)

/-- The values are spelled alike, or one of them is spelled like the name that stands for the
other. -/
def SpelledAlike (v w : String) : Prop :=
  spelling v = spelling w ∨ StandsFor (spelling v) (spelling w) ∨
    StandsFor (spelling w) (spelling v)

theorem spelled_eq_of_standsFor (h : StandsFor cs ds) : spelled cs = spelled ds := by
  cases h with
  | empty => rfl
  | digit hc => exact if_pos hc

/-- A spelling is a name, or a name stands for it. -/
theorem spelled_eq_self_or_standsFor (cs : List Char) :
    spelled cs = cs ∨ StandsFor cs (spelled cs) := by
  cases cs with
  | nil => exact .inr .empty
  | cons c cs =>
    by_cases hc : c.isDigit = true
    · have hname : spelled (c :: cs) = 'N' :: c :: cs := if_pos hc
      rw [hname]
      exact .inr (.digit hc)
    · exact .inl (if_neg hc)

/-- A name stands for one spelling at most. -/
theorem StandsFor.left_unique {name : List Char} (hcs : StandsFor cs name)
    (hds : StandsFor ds name) : cs = ds := by
  cases hcs with
  | empty =>
    cases hds
    rfl
  | digit =>
    cases hds
    rfl

/-- Two spellings have one name when they are the same or one stands for the other. -/
theorem spelled_eq_iff :
    spelled cs = spelled ds ↔ cs = ds ∨ StandsFor cs ds ∨ StandsFor ds cs := by
  constructor
  · intro h
    rcases spelled_eq_self_or_standsFor cs with hcs | hcs
    · rcases spelled_eq_self_or_standsFor ds with hds | hds
      · exact .inl (hcs.symm.trans (h.trans hds))
      · rw [← h, hcs] at hds
        exact .inr (.inr hds)
    · rw [h] at hcs
      rcases spelled_eq_self_or_standsFor ds with hds | hds
      · rw [hds] at hcs
        exact .inr (.inl hcs)
      · exact .inl (hcs.left_unique hds)
  · rintro (rfl | h | h)
    · rfl
    · exact spelled_eq_of_standsFor h
    · exact (spelled_eq_of_standsFor h).symm

/-- Two values have one member name just when they are spelled alike. -/
theorem enumMember_eq_iff : enumMember v = enumMember w ↔ SpelledAlike v w := by
  rw [← String.toList_inj, toList_enumMember, toList_enumMember, spelled_eq_iff]
  rfl

/-- The words that a name in camel case can be and that no member may be called. -/
def reservedWords : List String := ["None", "True", "False"]

/-- No reserved word stands for another spelling. -/
theorem spelled_eq_reserved_iff (hk : k ∈ reservedWords) :
    spelled cs = k.toList ↔ cs = k.toList := by
  have hself : spelled k.toList = k.toList := by
    revert k
    decide
  have hnone : ¬ StandsFor cs k.toList := by
    intro h
    simp only [reservedWords, List.mem_cons, List.not_mem_nil, or_false] at hk
    rcases hk with rfl | rfl | rfl <;> cases h
    rename_i hdigit
    exact absurd hdigit (by decide)
  constructor
  · intro h
    rcases spelled_eq_self_or_standsFor cs with hcs | hcs
    · exact hcs.symm.trans h
    · rw [h] at hcs
      exact absurd hcs hnone
  · rintro rfl
    exact hself

/-- A member has the name of a reserved word when its value is spelled like the word. -/
theorem enumMember_eq_reserved_iff (hk : k ∈ reservedWords) :
    enumMember v = k ↔ spelling v = k.toList := by
  rw [← String.toList_inj, toList_enumMember, spelled_eq_reserved_iff hk]

end Naming

namespace Typed

open Naming (SpelledAlike enumMember reservedWords spelling)

/-! ## Members of a shaped enum -/

/-- The names of the members of a shaped enum. -/
def memberNames (shape : Value) : List String :=
  (shape.field "members").items.filterMap fun m => (m.field "name").text?

/-- The members of a shaped enum can be declared in one class. -/
structure LegalMembers (shape : Value) : Prop where
  distinct : (memberNames shape).Nodup
  notReserved : ∀ n ∈ memberNames shape, n ∉ reservedWords

/-- The members of a class are named by the values that are not deprecated. -/
theorem memberNames_enumClassOf (classCase : String → String) (e : Enum) :
    memberNames (enumClassOf classCase e).toValue = e.validValues.map enumMember := by
  have hmembers : ((enumClassOf classCase e).toValue.field "members").items =
      e.validValues.map fun v =>
        .record [("name", .text (enumMember v)), ("value", .text v)] := List.map_map
  rw [memberNames, hmembers]
  induction e.validValues with
  | nil => rfl
  | cons v vs ih => exact congrArg (enumMember v :: ·) ih

/-- **When the members of a shaped enum can be declared**: no two of its values are spelled alike,
and none is spelled like a reserved word. -/
theorem legalMembers_iff (classCase : String → String) (e : Enum) :
    LegalMembers (enumClassOf classCase e).toValue ↔
      e.validValues.Pairwise (fun v w => ¬ SpelledAlike v w) ∧
        ∀ v ∈ e.validValues, ∀ k ∈ reservedWords, spelling v ≠ k.toList := by
  have hnames := memberNames_enumClassOf classCase e
  have hdistinct : (memberNames (enumClassOf classCase e).toValue).Nodup ↔
      e.validValues.Pairwise fun v w => ¬ SpelledAlike v w := by
    rw [hnames, List.Nodup, List.pairwise_map]
    simp only [ne_eq, Naming.enumMember_eq_iff]
  have hreserved : (∀ n ∈ memberNames (enumClassOf classCase e).toValue, n ∉ reservedWords) ↔
      ∀ v ∈ e.validValues, ∀ k ∈ reservedWords, spelling v ≠ k.toList := by
    rw [hnames, List.forall_mem_map]
    refine forall₂_congr fun v _ => ?_
    constructor
    · intro h k hk hv
      rw [← Naming.enumMember_eq_reserved_iff hk] at hv
      exact h (hv ▸ hk)
    · intro h hmem
      exact h _ hmem ((Naming.enumMember_eq_reserved_iff hmem).1 rfl)
  rw [← hdistinct, ← hreserved]
  exact ⟨fun h => ⟨h.distinct, h.notReserved⟩, fun h => ⟨h.1, h.2⟩⟩

/-- A string with two values. -/
def twoValues (v w : String) : Enum where
  name := "Plan"
  schema := { type := some "string", enum := some [.text v, .text w] }

/-- Distinct values are not enough: `no_card` and `no-card` have one name, and the name of `none` is
reserved. -/
theorem not_forall_legalMembers :
    (¬ ∀ (classCase : String → String) (e : Enum), e.validValues.Nodup →
        (memberNames (enumClassOf classCase e).toValue).Nodup) ∧
      ¬ ∀ (classCase : String → String) (e : Enum), e.validValues.Nodup →
        ∀ n ∈ memberNames (enumClassOf classCase e).toValue, n ∉ reservedWords := by
  constructor
  · intro h
    have hcards := h camelCase (twoValues "no_card" "no-card") (by decide)
    rw [memberNames_enumClassOf] at hcards
    exact absurd hcards (by decide)
  · intro h
    have hnames := h camelCase (twoValues "none" "some") (by decide)
    rw [memberNames_enumClassOf] at hnames
    exact absurd (hnames "None" (by decide)) (by decide)

end Typed

end SdkModel
