import SdkModel.Proofs.Naming.Tail

/-!
# The singular of a singular

The singular changes a word exactly when it is a plural (`singular_eq_self_iff`). What comes out is
no plural any more, so that the singular of it is the same, but for two kinds of words
(`singular_singular_iff`): of some plurals the singular ends in an `s`, which the last rule takes
for that of a plural, and of some words an `s` goes that stands behind another plural.
-/

namespace SdkModel

namespace Inflection

variable {tails : List String} {t : String} {w v : List Char} {p : List Sign} {r : Rule}
variable {e : Ending}

/-! ## Words by their ends -/

/-- The word ends in one of the tails. A line feed behind it does not count. -/
def EndsIn (tails : List String) (word : List Char) : Prop :=
  ∃ t ∈ tails, t.toList <:+ body word

/-- The word ends in one of the tails, in any case. -/
def EndsInAnyCase (tails : List String) (word : List Char) : Prop :=
  ∃ t ∈ tails, t.toList <:+ (body word).map fold

instance : Decidable (EndsIn tails w) := inferInstanceAs (Decidable (∃ t ∈ tails, _))

instance : Decidable (EndsInAnyCase tails w) := inferInstanceAs (Decidable (∃ t ∈ tails, _))

/-- A word ends in one of the texts when its body has the tail that spells it. -/
theorem endsIn_iff :
    EndsIn tails w ↔ ∃ t ∈ tails, HasTail (spelled false t.toList) (body w) := by
  simp only [EndsIn, hasTail_spelled, map_asLetter_false]

theorem endsInAnyCase_iff :
    EndsInAnyCase tails w ↔ ∃ t ∈ tails, HasTail (spelled true t.toList) (body w) := by
  simp only [hasTail_spelled]
  exact Iff.rfl

theorem endsIn_singleton : EndsIn [t] w ↔ HasTail (spelled false t.toList) (body w) := by
  simp only [endsIn_iff, List.mem_singleton, exists_eq_left]

theorem endsInAnyCase_singleton :
    EndsInAnyCase [t] w ↔ HasTail (spelled true t.toList) (body w) := by
  simp only [endsInAnyCase_iff, List.mem_singleton, exists_eq_left]

/-- Singulars in `s` that have a rule of their own. -/
def keptSingulars : List String := ["ss", "series", "news"]

/-- Plurals without an `s` at the end. -/
def barePlurals : List String := ["oxen", "octopi", "viri", "mice", "lice", "|ice"]

/-- Plurals that are told in any case. -/
def anyCasePlurals : List String := ["taxes", "slaves"]

/-- Plurals whose singular ends in an `s`. -/
def sibilantPlurals : List String := ["aliases", "statuses", "octopi", "viri", "crises", "axes",
  "testes", "buses", "analyses", "bases", "diagnoses", "parentheses", "prognoses", "synopses",
  "theses"]

/-- A word that has a singular of another form. -/
inductive IsPlural (word : List Char) : Prop
  | bare (h : EndsIn barePlurals word)
  | anyCase (h : EndsInAnyCase anyCasePlurals word)
  | sibilant (h : EndsIn ["s"] word) (hkept : ¬ EndsIn keptSingulars word)
    (hcount : isUncountable word = false)

instance : Decidable (IsPlural w) :=
  decidable_of_iff (EndsIn barePlurals w ∨ EndsInAnyCase anyCasePlurals w ∨
      EndsIn ["s"] w ∧ ¬ EndsIn keptSingulars w ∧ isUncountable w = false)
    ⟨fun | .inl h => .bare h | .inr (.inl h) => .anyCase h
         | .inr (.inr ⟨h, hkept, hcount⟩) => .sibilant h hkept hcount,
      fun | .bare h => .inl h | .anyCase h => .inr (.inl h)
          | .sibilant h hkept hcount => .inr (.inr ⟨h, hkept, hcount⟩)⟩

/-- A plural of which the singular looks like a plural in `s`. -/
structure HasSibilantSingular (word : List Char) : Prop where
  plural : EndsIn sibilantPlurals word
  -- These two have rules of their own that are tried first.
  not_database : ¬ EndsIn ["databases"] word
  not_tax : ¬ EndsInAnyCase ["taxes"] word

instance : Decidable (HasSibilantSingular w) :=
  decidable_of_iff (EndsIn sibilantPlurals w ∧ ¬ EndsIn ["databases"] w ∧
      ¬ EndsInAnyCase ["taxes"] w)
    ⟨fun ⟨hplural, hdatabase, htax⟩ => ⟨hplural, hdatabase, htax⟩,
      fun ⟨hplural, hdatabase, htax⟩ => ⟨hplural, hdatabase, htax⟩⟩

/-- The word without its last letter. -/
def shortened (word : List Char) : List Char := (body word).dropLast ++ feed word

/-- A single `s` at the end, and a plural before it. -/
structure HidesPlural (word : List Char) : Prop where
  sibilant : EndsIn ["s"] word
  single : ¬ EndsIn ["ss"] word
  plural : IsPlural (shortened word)

instance : Decidable (HidesPlural w) :=
  decidable_of_iff (EndsIn ["s"] w ∧ ¬ EndsIn ["ss"] w ∧ IsPlural (shortened w))
    ⟨fun ⟨hs, hsingle, hplural⟩ => ⟨hs, hsingle, hplural⟩,
      fun ⟨hs, hsingle, hplural⟩ => ⟨hs, hsingle, hplural⟩⟩

/-! ## The rules tried against each other -/

/-- Tails of plurals that end in no single `s`. -/
def pluralTails : List (List Sign) :=
  barePlurals.map (spelled false ·.toList) ++ anyCasePlurals.map (spelled true ·.toList)

/-- The tail with an `s` behind it. -/
def withS (p : List Sign) : List Sign := ⟨false, .is 's'⟩ :: p

namespace Rule

/-- The rule that drops an `s` after anything else. -/
def isPlain (r : Rule) (e : Ending) : Bool := r.tail e == spelled false "s".toList

/-- What the rule writes ends in an `s` that no rule keeps. -/
def hisses (r : Rule) (e : Ending) : Bool :=
  countable (r.outcome e) && within (r.outcome e) (spelled false "s".toList) &&
    apart (r.outcome e) (spelled false "\n".toList) &&
    keptSingulars.all fun t => apart (r.outcome e) (spelled false t.toList)

/-- No rule changes what the rule writes. -/
def settles (r : Rule) (e : Ending) : Bool :=
  apart (r.outcome e) (spelled false "\n".toList) &&
    (untouched (r.outcome e) singularRules || decidedBy keeps (r.outcome e) singularRules)

end Rule

/-- No rule for the singular is about the empty ending. -/
theorem tail_ne_nil : ∀ r ∈ singularRules, ∀ e ∈ r.endings, e.tail ≠ [] := by decide

/-- The rules that keep what they find are those of `data` and of the kept singulars. The other ones
find nothing but plurals. -/
theorem keeps_or_changes : ∀ r ∈ singularRules, ∀ e ∈ r.endings,
    (r.keeps e = true ∧ ∃ t ∈ "data" :: keptSingulars, r.tail e = spelled false t.toList) ∨
      r.changes e = true ∧ ∀ q ∈ alternatives (r.tail e),
        ∃ p ∈ spelled false "s".toList :: pluralTails, within q p = true := by
  decide

/-- What a rule writes is tried against all rules. -/
theorem settles_or_hisses : ∀ r ∈ singularRules, ∀ e ∈ r.endings,
    r.keeps e = true ∨ r.isPlain e = true ∨ r.settles e = true ∨
      r.hisses e = true ∧ ∃ t ∈ sibilantPlurals, r.tail e = spelled false t.toList := by
  decide +kernel

/-- The plain ending takes one letter off and puts nothing in its place. -/
theorem drop_of_isPlain : ∀ r ∈ singularRules, ∀ e ∈ r.endings, r.isPlain e = true →
    e.drop = 1 ∧ e.put = [] ∧ r.keeps e = false := by
  decide

/-- Words that end like a singular are left to endings that keep them. -/
theorem decidedBy_keptSingulars : ∀ t ∈ keptSingulars,
    decidedBy Rule.keeps (spelled false t.toList) singularRules = true := by
  decide

/-- Words that end like a plural have one, and are left to endings that change them. -/
theorem decidedBy_pluralTails : ∀ p ∈ pluralTails,
    countable p = true ∧ decidedBy (fun r e => !r.keeps e) p singularRules = true := by
  decide

/-- Some ending decides about whatever ends in `s`, and `data` does not. -/
theorem decidedBy_s :
    decidedBy (fun _ _ => true) (spelled false "s".toList) singularRules = true ∧
      apart (spelled false "s".toList) (spelled false "data".toList) = true := by
  decide

/-- No rule but the plain one takes a plural with an `s` behind it, a second `s` apart. -/
theorem decidedBy_withS : ∀ p ∈ spelled false "\n".toList :: pluralTails,
    countable (withS p) = true ∧
      decidedBy (fun r e => r.isPlain e || r.tail e == spelled false "ss".toList) (withS p)
        singularRules = true := by
  decide

/-- Of the plurals with a sibilant, those that are not left to a hissing ending are `databases` and
`taxes`. -/
theorem decidedBy_sibilantPlurals : ∀ t ∈ sibilantPlurals,
    countable (spelled false t.toList) = true ∧
      decidedBy (fun r e => r.hisses e || r.tail e == spelled false "databases".toList ||
          r.tail e == spelled true "taxes".toList)
        (spelled false t.toList) singularRules = true := by
  decide +kernel

theorem decidedBy_databases :
    decidedBy (fun r e => !r.hisses e) (spelled false "databases".toList) singularRules = true := by
  decide

theorem decidedBy_taxes :
    decidedBy (fun r e => !r.hisses e) (spelled true "taxes".toList) singularRules = true := by
  decide

/-! ## Words that the singular changes -/

/-- A plural ends like one, or in `s` without ending like a singular. -/
theorem isPlural_iff : IsPlural w ↔ (∃ p ∈ pluralTails, HasTail p (body w)) ∨
    EndsIn ["s"] w ∧ ¬ EndsIn keptSingulars w ∧ isUncountable w = false := by
  constructor
  · intro h
    cases h with
    | bare h =>
      obtain ⟨t, ht, htail⟩ := endsIn_iff.1 h
      exact .inl ⟨_, List.mem_append_left _ (List.mem_map_of_mem ht), htail⟩
    | anyCase h =>
      obtain ⟨t, ht, htail⟩ := endsInAnyCase_iff.1 h
      exact .inl ⟨_, List.mem_append_right _ (List.mem_map_of_mem ht), htail⟩
    | sibilant h hkept hcount => exact .inr ⟨h, hkept, hcount⟩
  · rintro (⟨p, hp, htail⟩ | ⟨h, hkept, hcount⟩)
    · rcases List.mem_append.1 hp with hbare | hany
      · obtain ⟨t, ht, rfl⟩ := List.mem_map.1 hbare
        exact .bare (endsIn_iff.2 ⟨t, ht, htail⟩)
      · obtain ⟨t, ht, rfl⟩ := List.mem_map.1 hany
        exact .anyCase (endsInAnyCase_iff.2 ⟨t, ht, htail⟩)
    · exact .sibilant h hkept hcount

/-- The ending that decides about a word that ends like a singular keeps it. -/
theorem Decides.keeps_of_endsIn (h : Decides singularRules w r e) (hkept : EndsIn keptSingulars w) :
    r.keeps e = true := by
  obtain ⟨t, ht, htail⟩ := endsIn_iff.1 hkept
  exact h.good_of_decidedBy (decidedBy_keptSingulars t ht) htail

/-- A plural has a rule that writes other letters than it drops. -/
theorem IsPlural.exists_decides (h : IsPlural w) :
    ∃ r e, Decides singularRules w r e ∧ r.keeps e = false := by
  rcases isPlural_iff.1 h with ⟨p, hp, htail⟩ | ⟨hs, hkept, hcount⟩
  · obtain ⟨hcountable, hdecided⟩ := decidedBy_pluralTails p hp
    obtain ⟨r, e, hdecides, hkeeps⟩ := Inflection.exists_decides hcountable hdecided htail
    rw [Bool.not_eq_true'] at hkeeps
    exact ⟨r, e, hdecides, hkeeps⟩
  · have htail := endsIn_singleton.1 hs
    obtain ⟨r, e, hdeciding, -⟩ := exists_deciding decidedBy_s.1 htail
    refine ⟨r, e, ⟨hcount, hdeciding⟩, ?_⟩
    obtain ⟨hr, he, hrule⟩ := mem_of_deciding hdeciding
    rcases keeps_or_changes r hr e he with ⟨-, t, ht, heq⟩ | ⟨hchanges, -⟩
    · rw [heq] at hrule
      rcases List.mem_cons.1 ht with rfl | ht
      · exact absurd hrule (htail.not_of_apart decidedBy_s.2)
      · exact absurd (endsIn_iff.2 ⟨t, ht, hrule⟩) hkept
    · exact keeps_eq_false_of_changes hchanges hrule

/-- No other word has one. -/
theorem Decides.isPlural (h : Decides singularRules w r e) (hkeeps : r.keeps e = false) :
    IsPlural w := by
  obtain ⟨hr, he⟩ := h.mem
  rcases keeps_or_changes r hr e he with ⟨hkeeps', -⟩ | ⟨-, hcovered⟩
  · rw [hkeeps] at hkeeps'
    cases hkeeps'
  obtain ⟨q, hq, hreads⟩ := exists_alternative h.hasTail
  obtain ⟨p, hp, hwithin⟩ := hcovered q hq
  have htail : HasTail p (body w) := HasTail.of_within hreads hwithin
  rcases List.mem_cons.1 hp with rfl | hp
  · refine .sibilant (endsIn_singleton.2 htail) (fun hkept => ?_) h.countable
    rw [h.keeps_of_endsIn hkept] at hkeeps
    cases hkeeps
  · exact isPlural_iff.2 (.inl ⟨p, hp, htail⟩)

theorem Decides.singular_eq_self_iff (h : Decides singularRules w r e) :
    inflect singularRules w = w ↔ r.keeps e = true := by
  obtain ⟨hr, he⟩ := h.mem
  rw [h.inflect_eq_self_iff tail_ne_nil]
  refine ⟨fun heq => ?_, fun hkeeps => replace_of_keeps hkeeps h.hasTail⟩
  rcases keeps_or_changes r hr e he with ⟨hkeeps, -⟩ | ⟨hchanges, -⟩
  · exact hkeeps
  · exact absurd heq (replace_ne_of_changes hchanges h.hasTail)

/-- The singular of a word is the word itself just when it is no plural. -/
theorem inflect_singularRules_eq_self_iff : inflect singularRules w = w ↔ ¬ IsPlural w := by
  constructor
  · intro heq hplural
    obtain ⟨r, e, h, hkeeps⟩ := hplural.exists_decides
    rw [h.singular_eq_self_iff.1 heq] at hkeeps
    cases hkeeps
  · intro hplural
    rcases inflect_eq_self_or_decides tail_ne_nil with heq | ⟨r, e, h⟩
    · exact heq
    · rw [h.singular_eq_self_iff]
      by_contra hkeeps
      exact hplural (h.isPlural (Bool.of_not_eq_true hkeeps))

/-! ## What is left of a plural -/

namespace Decides

variable (h : Decides singularRules w r e)
include h

/-- The line feed behind a word is behind what the rule writes as well. -/
theorem hasTail_outcome (hfeed : apart (r.outcome e) (spelled false "\n".toList) = true) :
    HasTail (r.outcome e) (body (inflect singularRules w)) := by
  have houtcome := hasTail_replace h.hasTail
  rwa [h.inflect_eq tail_ne_nil, body_append_feed_of_ne (getLast?_ne_lineFeed houtcome hfeed)]

/-- An ending that settles leaves no plural. -/
theorem not_isPlural_of_settles (hsettles : r.settles e = true) :
    ¬ IsPlural (inflect singularRules w) := by
  rw [Rule.settles, Bool.and_eq_true, Bool.or_eq_true] at hsettles
  obtain ⟨hfeed, huntouched | hkept⟩ := hsettles
  all_goals
    intro hplural
    obtain ⟨r', e', h', hkeeps⟩ := hplural.exists_decides
    have houtcome := h.hasTail_outcome hfeed
  · have hnone := deciding_of_untouched huntouched houtcome
    rw [h'.deciding] at hnone
    cases hnone
  · rw [h'.good_of_decidedBy hkept houtcome] at hkeeps
    cases hkeeps

/-- A hissing ending leaves a word in `s`, which is taken for a plural. -/
theorem isPlural_of_hisses (hhisses : r.hisses e = true) :
    IsPlural (inflect singularRules w) := by
  rw [Rule.hisses, Bool.and_eq_true, Bool.and_eq_true, Bool.and_eq_true] at hhisses
  obtain ⟨⟨⟨hcountable, hs⟩, hfeed⟩, hkept⟩ := hhisses
  have houtcome := h.hasTail_outcome hfeed
  refine .sibilant (endsIn_singleton.2 (houtcome.of_within hs)) (fun hends => ?_)
    (isUncountable_eq_false hcountable houtcome)
  obtain ⟨t, ht, htail⟩ := endsIn_iff.1 hends
  exact houtcome.not_of_apart (List.all_eq_true.1 hkept t ht) htail

/-- A plain ending leaves the word without its last letter. -/
theorem inflect_eq_shortened (hplain : r.isPlain e = true) :
    inflect singularRules w = shortened w := by
  obtain ⟨hr, he⟩ := h.mem
  obtain ⟨hdrop, hput, -⟩ := drop_of_isPlain r hr e he hplain
  rw [h.inflect_eq tail_ne_nil, Ending.replace, hdrop, hput, List.append_nil,
    ← List.dropLast_eq_take, shortened]

/-- A word that a hissing ending decides about has a singular with a sibilant when it is one of the
plurals with one. -/
theorem hasSibilantSingular (hhisses : r.hisses e = true)
    (hplural : ∃ t ∈ sibilantPlurals, r.tail e = spelled false t.toList) :
    HasSibilantSingular w := by
  obtain ⟨t, ht, heq⟩ := hplural
  have hnot (p : List Sign) (hp : decidedBy (fun r e => !r.hisses e) p singularRules = true) :
      ¬ HasTail p (body w) := by
    intro htail
    have hquiet := h.good_of_decidedBy hp htail
    rw [hhisses] at hquiet
    cases hquiet
  refine ⟨endsIn_iff.2 ⟨t, ht, heq ▸ h.hasTail⟩, fun hends => ?_, fun hends => ?_⟩
  · exact hnot _ decidedBy_databases (endsIn_singleton.1 hends)
  · exact hnot _ decidedBy_taxes (endsInAnyCase_singleton.1 hends)

/-- A word hides a plural when a plain ending decides about it and what is left is one. -/
theorem hidesPlural (hplain : r.isPlain e = true) (hplural : IsPlural (shortened w)) :
    HidesPlural w := by
  obtain ⟨hr, he⟩ := h.mem
  refine ⟨endsIn_singleton.2 (eq_of_beq hplain ▸ h.hasTail), fun hss => ?_, hplural⟩
  have hkept : EndsIn keptSingulars w :=
    endsIn_iff.2 ⟨"ss", List.mem_cons_self, endsIn_singleton.1 hss⟩
  have hkeeps := h.keeps_of_endsIn hkept
  rw [(drop_of_isPlain r hr e he hplain).2.2] at hkeeps
  cases hkeeps

end Decides

/-- Every word that has a singular with a sibilant is left to a hissing ending. -/
theorem HasSibilantSingular.exists_decides (h : HasSibilantSingular w) :
    ∃ r e, Decides singularRules w r e ∧ r.hisses e = true := by
  obtain ⟨t, ht, htail⟩ := endsIn_iff.1 h.plural
  obtain ⟨hcountable, hdecided⟩ := decidedBy_sibilantPlurals t ht
  obtain ⟨r, e, hdecides, hgood⟩ := Inflection.exists_decides hcountable hdecided htail
  refine ⟨r, e, hdecides, ?_⟩
  have hrule := hdecides.hasTail
  rw [Bool.or_eq_true, Bool.or_eq_true, beq_iff_eq, beq_iff_eq] at hgood
  rcases hgood with (hhisses | hdatabase) | htax
  · exact hhisses
  · exact absurd (endsIn_singleton.2 (hdatabase ▸ hrule)) h.not_database
  · exact absurd (endsInAnyCase_singleton.2 (htax ▸ hrule)) h.not_tax

theorem hasTail_withS (h : HasTail p v) : HasTail (withS p) (v ++ ['s']) := by
  rw [HasTail, List.reverse_append]
  exact Bool.and_eq_true_iff.2 ⟨by decide, h⟩

/-- The last letters of a plural that ends in no `s`. Of letters with a line feed at their end no
more is told: what stands before the `s` of `w` may end so. -/
theorem IsPlural.exists_tail (h : IsPlural (v ++ feed w))
    (hs : ¬ HasTail (spelled false "s".toList) v) :
    ∃ p ∈ spelled false "\n".toList :: pluralTails, HasTail p v := by
  by_cases hlast : v.getLast? = some '\n'
  · refine ⟨_, List.mem_cons_self, hasTail_spelled.2 ?_⟩
    rw [map_asLetter_false]
    exact List.singleton_suffix_iff_getLast?_eq_some.2 hlast
  · have hbody := body_append_feed_of_ne hlast w
    rcases isPlural_iff.1 h with ⟨p, hp, htail⟩ | ⟨hends, -⟩
    · exact ⟨p, List.mem_cons_of_mem _ hp, hbody ▸ htail⟩
    · exact absurd (hbody ▸ endsIn_singleton.1 hends) hs

/-- A word that hides a plural ends in the tail of one, with an `s` behind it. -/
theorem HidesPlural.exists_tail (h : HidesPlural w) :
    ∃ p ∈ spelled false "\n".toList :: pluralTails, HasTail (withS p) (body w) := by
  obtain ⟨⟨t, ht, v, hv⟩, hsingle, hplural⟩ := h
  rw [List.mem_singleton.1 ht] at hv
  have hshort : shortened w = v ++ feed w := by
    rw [shortened, ← hv]
    exact congrArg (· ++ feed w) List.dropLast_concat
  rw [hshort] at hplural
  obtain ⟨p, hp, htail⟩ := hplural.exists_tail fun hs =>
    hsingle (endsIn_singleton.2 (hv ▸ hasTail_withS hs))
  exact ⟨p, hp, hv ▸ hasTail_withS htail⟩

/-- Every word that hides a plural is left to a plain ending. -/
theorem HidesPlural.exists_decides (h : HidesPlural w) :
    ∃ r e, Decides singularRules w r e ∧ r.isPlain e = true := by
  obtain ⟨p, hp, htail⟩ := h.exists_tail
  obtain ⟨hcountable, hdecided⟩ := decidedBy_withS p hp
  obtain ⟨r, e, hdecides, hgood⟩ := Inflection.exists_decides hcountable hdecided htail
  refine ⟨r, e, hdecides, ?_⟩
  have hrule := hdecides.hasTail
  rw [Bool.or_eq_true, beq_iff_eq] at hgood
  exact hgood.resolve_right fun hss => h.single (endsIn_singleton.2 (hss ▸ hrule))

/-- The singular is a plural again for two kinds of words only. -/
theorem isPlural_inflect_iff :
    IsPlural (inflect singularRules w) ↔ HasSibilantSingular w ∨ HidesPlural w := by
  constructor
  · intro hagain
    rcases inflect_eq_self_or_decides tail_ne_nil with heq | ⟨r, e, h⟩
    · rw [heq] at hagain
      exact absurd hagain (inflect_singularRules_eq_self_iff.1 heq)
    obtain ⟨hr, he⟩ := h.mem
    rcases settles_or_hisses r hr e he with hkeeps | hplain | hsettles | ⟨hhisses, hplural⟩
    · have heq := h.singular_eq_self_iff.2 hkeeps
      rw [heq] at hagain
      exact absurd hagain (inflect_singularRules_eq_self_iff.1 heq)
    · rw [h.inflect_eq_shortened hplain] at hagain
      exact .inr (h.hidesPlural hplain hagain)
    · exact absurd hagain (h.not_isPlural_of_settles hsettles)
    · exact .inl (h.hasSibilantSingular hhisses hplural)
  · rintro (hsibilant | hhides)
    · obtain ⟨r, e, h, hhisses⟩ := hsibilant.exists_decides
      exact h.isPlural_of_hisses hhisses
    · obtain ⟨r, e, h, hplain⟩ := hhides.exists_decides
      rw [h.inflect_eq_shortened hplain]
      exact hhides.plural

end Inflection

open Inflection

/-! ## The singular of a singular -/

theorem toList_singular (w : String) : (singular w).toList = inflect singularRules w.toList :=
  String.toList_ofList

/-- The singular is another word exactly for a plural. -/
theorem singular_eq_self_iff (w : String) : singular w = w ↔ ¬ IsPlural w.toList := by
  rw [← String.toList_inj, toList_singular, inflect_singularRules_eq_self_iff]

/-- **The singular of a singular is the same** exactly when no plural is left: the word is no plural
whose singular ends in an `s`, and hides no plural before an `s`. -/
theorem singular_singular_iff (w : String) : singular (singular w) = singular w ↔
    ¬ HasSibilantSingular w.toList ∧ ¬ HidesPlural w.toList := by
  rw [singular_eq_self_iff, toList_singular, isPlural_inflect_iff, not_or]

/-- `status` is taken for a plural. -/
theorem not_forall_singular_singular : ¬ ∀ w, singular (singular w) = singular w := fun h =>
  absurd (h "statuses") (by decide)

/-- Without its `s` the plural `slices` ends in `lice`. -/
example : HidesPlural "slices".toList ∧ singular (singular "slices") = "slouse" := by
  decide

end SdkModel
