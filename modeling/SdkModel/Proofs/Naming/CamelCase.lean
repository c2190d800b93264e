import Mathlib.Data.List.Basic
import Mathlib.Data.Set.Function
import SdkModel.Naming.Convention
import SdkModel.Proofs.Text.Ascii
import SdkModel.Proofs.Text.Split

/-!
# Camel case and snake case

Camel case keeps of the underscores of a name only the capitals behind them. Where the words are in
small letters and begin with one, that is enough: names in snake case and names in camel case
correspond one to one (`bijOn_camel`), and `snake` is the way back (`leftInvOn_snake_camel`).

Lower camel case is written in two ways. One cuts the name into words, the other one walks along its
letters (`humps`). On names in ASCII they agree (`normalizedLowerCamel_eq_lowerCamel`).
-/

namespace SdkModel

namespace Text

variable {cs : List Char}

/-! ## Case maps on ASCII -/

/-- On ASCII the small form of a text is that of each character, since there is no sigma. -/
theorem lowerAfter_ascii (h : ∀ c ∈ cs, isAscii c = true) (before : List Char) :
    lowerAfter before cs = cs.map Char.toLower := by
  induction cs generalizing before with
  | nil => rfl
  | cons c cs ih =>
    rw [List.forall_mem_cons] at h
    have hsigma : c ≠ 'Σ' := by
      rintro rfl
      exact absurd h.1 (by decide)
    rw [lowerAfter, if_neg hsigma, lower_ascii h.1, ih h.2]
    rfl

end Text

namespace Naming

open Text (split isAscii)

variable {c : Char} {cs w p : List Char} {ws ps : List (List Char)} {s n : String}

/-! ## Words and humps -/

/-- Empty words leave no trace in camel case. -/
theorem camelChars_singleton (cs : List Char) :
    camelChars [cs] = (split '_' cs).flatMap capitalizeChars := by
  rw [camelChars, List.flatMap_singleton, words]
  induction split '_' cs with
  | nil => rfl
  | cons p ps ih =>
    cases p with
    | nil => exact ih
    | cons c p => exact congrArg (capitalizeChars (c :: p) ++ ·) ih

theorem humps_cons_of_ne (hc : c ≠ '_') (start : Bool) (cs : List Char) :
    humps start (c :: cs) = (if start then Text.upper c else [c]) :: humps false cs := by
  rw [humps, if_neg hc]
  cases start <;> rfl

/-- The humps of a name are its words with a capital at the start of each. The first word keeps its
first letter where the name is read from inside of it. -/
theorem flatten_humps (hsplit : split '_' cs = p :: ps) :
    (humps true cs).flatten = capitalizeChars p ++ ps.flatMap capitalizeChars ∧
      (humps false cs).flatten = p ++ ps.flatMap capitalizeChars := by
  induction cs generalizing p ps with
  | nil =>
    cases hsplit
    exact ⟨rfl, rfl⟩
  | cons c cs ih =>
    obtain ⟨q, qs, hrest⟩ := List.exists_cons_of_ne_nil (Text.split_ne_nil '_' cs)
    obtain ⟨hstart, hinside⟩ := ih hrest
    rw [split, hrest] at hsplit
    by_cases hc : c = '_'
    · simp only [if_pos hc] at hsplit
      cases hsplit
      rw [humps, humps, if_pos hc, if_pos hc]
      exact ⟨hstart, hstart⟩
    · simp only [if_neg hc] at hsplit
      cases hsplit
      rw [humps_cons_of_ne hc, humps_cons_of_ne hc, List.flatten_cons, List.flatten_cons, hinside,
        capitalizeChars, List.append_assoc]
      exact ⟨rfl, rfl⟩

/-- Camel case is the humps of a name, one after the other. -/
theorem camelChars_eq_flatten_humps (cs : List Char) :
    camelChars [cs] = (humps true cs).flatten := by
  obtain ⟨p, ps, hsplit⟩ := List.exists_cons_of_ne_nil (Text.split_ne_nil '_' cs)
  rw [camelChars_singleton, hsplit, (flatten_humps hsplit).1, List.flatMap_cons]

/-- Words that are joined by underscores come out one after the other with capitals at their
starts. -/
theorem camelChars_intercalate (h : ∀ w ∈ ws, '_' ∉ w) (hne : ws ≠ []) :
    camelChars [List.intercalate ['_'] ws] = ws.flatMap capitalizeChars := by
  rw [camelChars_singleton, Text.split_intercalate h hne]

theorem toList_camel (s : String) : (camel s).toList = camelChars [s.toList] :=
  String.toList_ofList

/-! ## Lower camel case -/

/-- The humps joined, the first one in small letters. -/
def joinHumps : List (List Char) → List Char
  | [] => []
  | first :: rest => Text.lowerAll first ++ rest.flatten

/-- The first letter comes out small in both ways, be it a capital before or not. The letters behind
it play no part. -/
theorem joinHumps_humps (h : ∀ c ∈ (cs.dropWhile (· = '_')).head?, isAscii c = true)
    (start : Bool) : joinHumps (humps start cs) = uncapitalizeChars (camelChars [cs]) := by
  rw [camelChars_eq_flatten_humps]
  induction cs generalizing start with
  | nil => rfl
  | cons c cs ih =>
    by_cases hc : c = '_'
    · rw [List.dropWhile_cons_of_pos (by simpa using hc)] at h
      rw [humps, humps, if_pos hc, if_pos hc]
      exact ih h true
    · rw [List.dropWhile_cons_of_neg (by simpa using hc)] at h
      have hc' : isAscii c = true := h c rfl
      have hlower (d : Char) (hd : isAscii d = true) : Text.lowerAll [d] = [d.toLower] :=
        Text.lowerAfter_ascii (by simpa using hd) []
      rw [humps_cons_of_ne hc, humps_cons_of_ne hc, if_pos rfl, Text.upper_ascii hc',
        List.flatten_cons, List.singleton_append, uncapitalizeChars,
        Text.lower_ascii (Text.isAscii_toUpper hc'), Text.toLower_toUpper_eq_toLower, joinHumps]
      refine congrArg (· ++ _) ?_
      cases start with
      | true =>
        rw [if_pos rfl, hlower _ (Text.isAscii_toUpper hc'), Text.toLower_toUpper_eq_toLower]
      | false => exact hlower c hc'

/-- **Both ways to lower camel case agree** on names in ASCII. -/
theorem normalizedLowerCamel_eq_lowerCamel (h : ∀ c ∈ s.toList, isAscii c = true) :
    normalizedLowerCamel s = lowerCamel s := by
  have hjoin : normalizedLowerCamelChars s.toList = joinHumps (humps false s.toList) := rfl
  have hfirst : ∀ c ∈ (s.toList.dropWhile (· = '_')).head?, isAscii c = true := fun c hc =>
    h c ((List.dropWhile_sublist _).subset (List.mem_of_mem_head? hc))
  rw [normalizedLowerCamel, hjoin, joinHumps_humps hfirst]
  rfl

theorem normalizedLowerCamel_eq_lowerCamel_card :
    normalizedLowerCamel "_card__idFor" = lowerCamel "_card__idFor" ∧
      lowerCamel "_card__idFor" = "cardIdFor" :=
  ⟨normalizedLowerCamel_eq_lowerCamel (List.all_eq_true.1 rfl), by decide⟩

/-- Beyond ASCII a first letter may have a capital form of two letters. -/
example : normalizedLowerCamel "ßeta" ≠ lowerCamel "ßeta" := by decide

/-! ## Names -/

/-- A small letter or a digit of ASCII. -/
def isSmallOrDigit (c : Char) : Bool := c.isLower || c.isDigit

/-- A small letter, and small letters and digits behind it. -/
inductive IsSnakeWord : List Char → Prop where
  | word {c : Char} {cs : List Char} (first : c.isLower = true)
    (rest : ∀ d ∈ cs, isSmallOrDigit d = true) : IsSnakeWord (c :: cs)

/-- A name in snake case: one or more words, joined by single underscores. -/
def IsSnakeName (s : String) : Prop :=
  ∃ ws, ws ≠ [] ∧ (∀ w ∈ ws, IsSnakeWord w) ∧ s.toList = List.intercalate ['_'] ws

/-- A capital, and letters and digits of ASCII behind it. -/
inductive IsCamelChars : List Char → Prop where
  | name {c : Char} {cs : List Char} (first : c.isUpper = true)
    (rest : ∀ d ∈ cs, d.isAlphanum = true) : IsCamelChars (c :: cs)

/-- A name in camel case. -/
def IsCamelName (n : String) : Prop := IsCamelChars n.toList

theorem isAlphanum_of_isSmallOrDigit (h : isSmallOrDigit c = true) : c.isAlphanum = true := by
  rw [isSmallOrDigit, Bool.or_eq_true] at h
  rcases h with hc | hc
  · exact Text.isAlphanum_of_isLower hc
  · exact Text.isAlphanum_of_isDigit hc

theorem isUpper_of_isSmallOrDigit (h : isSmallOrDigit c = true) : c.isUpper = false := by
  rw [isSmallOrDigit, Bool.or_eq_true] at h
  rcases h with hc | hc
  · exact Text.isUpper_of_isLower hc
  · exact Text.isUpper_of_isDigit hc

theorem isSmallOrDigit_of_isAlphanum (h : c.isAlphanum = true) (hc : c.isUpper = false) :
    isSmallOrDigit c = true := by
  rwa [Text.isAlphanum_eq, hc, Bool.false_or] at h

theorem capitalizeChars_of_isLower (hc : c.isLower = true) :
    capitalizeChars (c :: cs) = c.toUpper :: cs := by
  rw [capitalizeChars,
    Text.upper_ascii (Text.isAscii_of_isAlphanum (Text.isAlphanum_of_isLower hc)),
    List.singleton_append]

theorem IsSnakeWord.isSmallOrDigit (h : IsSnakeWord w) : ∀ d ∈ w, isSmallOrDigit d = true := by
  obtain ⟨hfirst, hrest⟩ := h
  rw [List.forall_mem_cons]
  exact ⟨by rw [Naming.isSmallOrDigit, hfirst, Bool.true_or], hrest⟩

theorem not_mem_underscore (h : ∀ w ∈ ws, IsSnakeWord w) : ∀ w ∈ ws, '_' ∉ w := by
  intro w hw hmem
  exact absurd ((h w hw).isSmallOrDigit '_' hmem) (by decide)

/-- A name in snake case consists of small letters, digits and underscores. -/
theorem IsSnakeName.isSmallOrDigit (h : IsSnakeName s) :
    ∀ c ∈ s.toList, isSmallOrDigit c = true ∨ c = '_' := by
  obtain ⟨ws, -, hws, hs⟩ := h
  intro c hc
  by_cases hne : c = '_'
  · exact .inr hne
  · rw [hs, Text.mem_intercalate_iff (by simpa using hne)] at hc
    obtain ⟨w, hw, hcw⟩ := hc
    exact .inl ((hws w hw).isSmallOrDigit c hcw)

/-- The words of a name are told by its underscores. -/
theorem isSnakeName_iff : IsSnakeName s ↔ ∀ w ∈ split '_' s.toList, IsSnakeWord w := by
  constructor
  · rintro ⟨ws, hne, hws, hs⟩
    rwa [hs, Text.split_intercalate (not_mem_underscore hws) hne]
  · intro h
    exact ⟨split '_' s.toList, Text.split_ne_nil _ _, h, (Text.intercalate_split '_' _).symm⟩

instance : DecidablePred IsSnakeWord
  | [] => .isFalse nofun
  | c :: cs =>
    decidable_of_iff (c.isLower = true ∧ cs.all isSmallOrDigit = true)
      ⟨fun ⟨hfirst, hrest⟩ => .word hfirst (List.all_eq_true.1 hrest),
        fun | .word hfirst hrest => ⟨hfirst, List.all_eq_true.2 hrest⟩⟩

instance (s : String) : Decidable (IsSnakeName s) := decidable_of_iff _ isSnakeName_iff.symm

/-! ## There and back -/

/-- Each capital starts a word of its own. -/
theorem snakeChar_of_isAlphanum (h : c.isAlphanum = true) :
    snakeChar c = if c.isUpper then ['_', c.toLower] else [c] := by
  rw [snakeChar, Text.isCapital, if_pos (Text.isAscii_of_isAlphanum h),
    Text.lower_ascii (Text.isAscii_of_isAlphanum h)]

theorem flatMap_snakeChar_of_isSmallOrDigit (h : ∀ d ∈ cs, isSmallOrDigit d = true) :
    cs.flatMap snakeChar = cs := by
  induction cs with
  | nil => rfl
  | cons c cs ih =>
    rw [List.forall_mem_cons] at h
    rw [List.flatMap_cons, ih h.2, snakeChar_of_isAlphanum (isAlphanum_of_isSmallOrDigit h.1),
      isUpper_of_isSmallOrDigit h.1]
    rfl

/-- The capital that starts a word is read back as an underscore before the word. -/
theorem flatMap_snakeChar_capitalizeChars (h : IsSnakeWord w) :
    (capitalizeChars w).flatMap snakeChar = '_' :: w := by
  obtain ⟨hfirst, hrest⟩ := h
  have hcapital := Text.isUpper_toUpper hfirst
  rw [capitalizeChars_of_isLower hfirst, List.flatMap_cons,
    snakeChar_of_isAlphanum (Text.isAlphanum_of_isUpper hcapital), if_pos hcapital,
    Text.toLower_toUpper hfirst, flatMap_snakeChar_of_isSmallOrDigit hrest]
  rfl

/-- Words with a capital hold letters and digits only. -/
theorem isAlphanum_of_mem_capitalized (h : ∀ w ∈ ws, IsSnakeWord w) :
    ∀ d ∈ ws.flatMap capitalizeChars, d.isAlphanum = true := by
  rw [List.forall_mem_flatMap]
  intro w hw
  obtain ⟨hfirst, hrest⟩ := h w hw
  rw [capitalizeChars_of_isLower hfirst, List.forall_mem_cons]
  exact ⟨Text.isAlphanum_of_isUpper (Text.isUpper_toUpper hfirst),
    fun d hd => isAlphanum_of_isSmallOrDigit (hrest d hd)⟩

theorem snakeChars_of_isAlphanum (h : ∀ d ∈ c :: cs, d.isAlphanum = true) :
    snakeChars (c :: cs) = c.toLower :: cs.flatMap snakeChar := by
  have hhyphens : (c :: cs).map (fun d => if d = '-' then '_' else d) = c :: cs := by
    refine (List.map_congr_left fun d hd => if_neg ?_).trans (List.map_id _)
    rintro rfl
    exact absurd (h _ hd) (by decide)
  rw [snakeChars, hhyphens]
  change Text.lower c ++ _ = _
  rw [Text.lower_ascii (Text.isAscii_of_isAlphanum (h c List.mem_cons_self)),
    List.singleton_append]

/-- The way back puts an underscore in front of each word but the first one. -/
theorem snakeChars_flatMap_capitalizeChars (h : ∀ w ∈ ws, IsSnakeWord w) :
    snakeChars (ws.flatMap capitalizeChars) = List.intercalate ['_'] ws := by
  have halphanum := isAlphanum_of_mem_capitalized h
  cases ws with
  | nil => rfl
  | cons w ws =>
    rw [List.forall_mem_cons] at h
    have hothers : (ws.flatMap capitalizeChars).flatMap snakeChar = ws.flatMap ('_' :: ·) := by
      rw [List.flatMap_assoc]
      exact List.flatMap_congr fun v hv => flatMap_snakeChar_capitalizeChars (h.2 v hv)
    obtain ⟨hfirst, hrest⟩ := h.1
    rw [List.flatMap_cons, capitalizeChars_of_isLower hfirst, List.cons_append] at halphanum ⊢
    rw [snakeChars_of_isAlphanum halphanum, Text.toLower_toUpper hfirst,
      List.flatMap_append, flatMap_snakeChar_of_isSmallOrDigit hrest, hothers,
      Text.intercalate_cons, List.cons_append]

/-- The camel case of a name in snake case is its words with a capital each. -/
theorem toList_camel_of_words (hne : ws ≠ []) (hws : ∀ w ∈ ws, IsSnakeWord w)
    (hs : s.toList = List.intercalate ['_'] ws) :
    (camel s).toList = ws.flatMap capitalizeChars := by
  rw [toList_camel, hs, camelChars_intercalate (not_mem_underscore hws) hne]

/-- Snake case is the way back from camel case. -/
theorem leftInvOn_snake_camel : Set.LeftInvOn snake camel {s | IsSnakeName s} := by
  rintro s ⟨ws, hne, hws, hs⟩
  rw [snake, toList_camel_of_words hne hws hs, snakeChars_flatMap_capitalizeChars hws, ← hs,
    String.ofList_toList]

/-- **A name in snake case is told by its camel case**: it is read back from there, so that no two
such names have the same. -/
theorem snake_camel_and_injOn :
    (∀ s, IsSnakeName s → snake (camel s) = s) ∧ Set.InjOn camel {s | IsSnakeName s} :=
  ⟨fun _ hs => leftInvOn_snake_camel hs, leftInvOn_snake_camel.injOn⟩

/-- A digit within a word is kept by both ways, and two names stay apart. -/
theorem snake_camel_and_injOn_card :
    IsSnakeName "tax2_id" ∧ IsSnakeName "card" ∧ snake (camel "tax2_id") = "tax2_id" ∧
      camel "tax2_id" ≠ camel "card" := by
  have htax : IsSnakeName "tax2_id" := by decide
  have hcard : IsSnakeName "card" := by decide
  refine ⟨htax, hcard, snake_camel_and_injOn.1 _ htax, fun h => ?_⟩
  exact absurd (snake_camel_and_injOn.2 htax hcard h) (by decide)

/-- Snake case becomes camel case. -/
theorem isCamelName_camel (h : IsSnakeName s) : IsCamelName (camel s) := by
  obtain ⟨ws, hne, hws, hs⟩ := h
  have halphanum := isAlphanum_of_mem_capitalized hws
  rw [IsCamelName, toList_camel_of_words hne hws hs]
  cases ws with
  | nil => exact absurd rfl hne
  | cons w ws =>
    obtain ⟨hfirst, -⟩ := hws w List.mem_cons_self
    rw [List.flatMap_cons, capitalizeChars_of_isLower hfirst, List.cons_append] at halphanum ⊢
    exact .name (Text.isUpper_toUpper hfirst) (List.forall_mem_cons.1 halphanum).2

/-- Letters and digits are a rest of a word and words behind it. -/
theorem exists_words (h : ∀ d ∈ cs, d.isAlphanum = true) :
    ∃ (p : List Char) (ws : List (List Char)), (∀ d ∈ p, isSmallOrDigit d = true) ∧
      (∀ w ∈ ws, IsSnakeWord w) ∧ cs = p ++ ws.flatMap capitalizeChars := by
  induction cs with
  | nil => exact ⟨[], [], by simp, by simp, rfl⟩
  | cons c cs ih =>
    rw [List.forall_mem_cons] at h
    obtain ⟨p, ws, hp, hws, hcs⟩ := ih h.2
    by_cases hc : c.isUpper = true
    · have hlower := Text.isLower_toLower hc
      have hwords : ∀ w ∈ (c.toLower :: p) :: ws, IsSnakeWord w :=
        List.forall_mem_cons.2 ⟨.word hlower hp, hws⟩
      refine ⟨[], (c.toLower :: p) :: ws, by simp, hwords, ?_⟩
      rw [List.flatMap_cons, capitalizeChars_of_isLower hlower, Text.toUpper_toLower hc, hcs]
      rfl
    · have hsmall := isSmallOrDigit_of_isAlphanum h.1 (eq_false_of_ne_true hc)
      exact ⟨c :: p, ws, List.forall_mem_cons.2 ⟨hsmall, hp⟩, hws, congrArg (c :: ·) hcs⟩

/-- A name in camel case is cut into words before each capital. -/
theorem exists_camel_eq (h : IsCamelName n) : ∃ s, IsSnakeName s ∧ camel s = n := by
  rw [IsCamelName] at h
  generalize hn : n.toList = cs at h
  obtain @⟨c, cs, hfirst, hrest⟩ := h
  obtain ⟨p, ws, hp, hws, hcs⟩ := exists_words
    (List.forall_mem_cons.2 ⟨Text.isAlphanum_of_isUpper hfirst, hrest⟩)
  cases p with
  | cons d p =>
    -- The capital at the start is in no rest of a word.
    obtain ⟨rfl, -⟩ := List.cons.inj hcs
    rw [isUpper_of_isSmallOrDigit (hp _ List.mem_cons_self)] at hfirst
    cases hfirst
  | nil =>
    have hne : ws ≠ [] := by
      rintro rfl
      cases hcs
    have hs := String.toList_ofList (l := List.intercalate ['_'] ws)
    refine ⟨_, ⟨ws, hne, hws, hs⟩, ?_⟩
    rw [← String.toList_inj, toList_camel_of_words hne hws hs, hn, hcs, List.nil_append]

/-- **The names in snake case are those in camel case** one to one. -/
theorem bijOn_camel : Set.BijOn camel {s | IsSnakeName s} {n | IsCamelName n} := by
  refine ⟨?_, leftInvOn_snake_camel.injOn, ?_⟩
  · intro s hs
    exact isCamelName_camel hs
  · intro n hn
    exact exists_camel_eq hn

end Naming

end SdkModel
