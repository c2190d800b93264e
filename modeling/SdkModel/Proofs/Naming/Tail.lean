import Mathlib.Tactic.ByContra
import Mathlib.Tactic.NthRewrite
import SdkModel.Naming.Inflection

/-!
# Tails of words

Which rule of a list decides a word is told by the last letters of the word, and so are the letters
that the rule leaves there. A tail is what is asked of these letters, from the last one on. Tails
are compared sign by sign: no word has both of two tails that are `apart`, and every word with a
tail has the tails that it is `within`. So `decidedBy` tries the rules of a list against all words
with a tail at once (`exists_decides`).
-/

namespace SdkModel.Inflection

variable {l : Letter} {c : Char} {cs v w : List Char} {a : Bool}

/-! ## Signs -/

/-- What is asked of one letter of a word. -/
structure Sign where
  anyCase : Bool
  letter : Letter
deriving DecidableEq

/-- The letters that fit, when they are listed. -/
def Letter.listed? : Letter → Option (List Char)
  | .is c => some [c]
  | .among cs => some cs
  | .other _ => none

theorem Letter.mem_of_fits (hl : l.listed? = some cs) (h : l.fits c = true) : c ∈ cs := by
  cases l with
  | is d =>
    cases hl
    simpa [Letter.fits] using h
  | among ds =>
    cases hl
    simpa [Letter.fits] using h
  | other ds => cases hl

/-- What a character counts as. -/
def asLetter (anyCase : Bool) (c : Char) : Char := if anyCase then fold c else c

namespace Sign

variable {s t : Sign}

def fits (s : Sign) (c : Char) : Bool := s.letter.fits (asLetter s.anyCase c)

/-- The letters that `s` lists do not fit `t`. -/
def excludes (s t : Sign) : Bool :=
  (!s.anyCase || t.anyCase) && s.letter.listed?.any fun cs =>
    cs.all fun c => !t.letter.fits (asLetter (t.anyCase && !s.anyCase) c)

/-- No letter fits both signs. -/
def apart (s t : Sign) : Bool := s.excludes t || t.excludes s

/-- Each letter that fits `s` fits `t`. -/
def within (s t : Sign) : Bool := s == t || !s.anyCase && s.letter.listed?.any (·.all t.fits)

/-- A sign excludes another one when no character fits both. -/
theorem not_fits_of_excludes (h : s.excludes t = true) (hs : s.fits c = true) :
    t.fits c = false := by
  rw [excludes, Bool.and_eq_true, Option.any_eq_true] at h
  obtain ⟨hcase, cs, hcs, hall⟩ := h
  have hnone := List.all_eq_true.1 hall _ (Letter.mem_of_fits hcs hs)
  -- A letter that `s` folds is folded for `t` as well, and no letter is folded twice.
  have hletter : asLetter (t.anyCase && !s.anyCase) (asLetter s.anyCase c) =
      asLetter t.anyCase c := by
    cases hsCase : s.anyCase <;> cases htCase : t.anyCase
    all_goals simp_all [asLetter]
  rw [hletter, Bool.not_eq_true'] at hnone
  exact hnone

theorem not_fits_of_apart (h : s.apart t = true) (hs : s.fits c = true) : t.fits c = false := by
  rcases Bool.or_eq_true_iff.1 h with hst | hts
  · exact not_fits_of_excludes hst hs
  · by_contra ht
    rw [not_fits_of_excludes hts (Bool.of_not_eq_false ht)] at hs
    cases hs

/-- Whatever fits a sign fits one that it is within. -/
theorem fits_of_within (h : s.within t = true) (hs : s.fits c = true) : t.fits c = true := by
  rcases Bool.or_eq_true_iff.1 h with heq | hlisted
  · rwa [← eq_of_beq heq]
  · rw [Bool.and_eq_true, Bool.not_eq_true', Option.any_eq_true] at hlisted
    obtain ⟨hcase, cs, hcs, hall⟩ := hlisted
    rw [fits, hcase] at hs
    exact List.all_eq_true.1 hall c (Letter.mem_of_fits hcs hs)

end Sign

/-! ## Tails -/

variable {p q : List Sign}

/-- The first letters are as the signs ask. -/
def reads : List Sign → List Char → Bool
  | [], _ => true
  | _ :: _, [] => false
  | s :: p, c :: cs => s.fits c && reads p cs

/-- The word ends as the tail asks. -/
def HasTail (p : List Sign) (word : List Char) : Prop := reads p word.reverse = true

/-- No word has both tails. -/
def apart : List Sign → List Sign → Bool
  | s :: p, t :: q => s.apart t || apart p q
  | _, _ => false

/-- Each word with the first tail has the second one. -/
def within : List Sign → List Sign → Bool
  | _, [] => true
  | [], _ :: _ => false
  | s :: p, t :: q => s.within t && within p q

/-- The tail that spells the letters. -/
def spelled (anyCase : Bool) (cs : List Char) : List Sign :=
  cs.reverse.map fun c => ⟨anyCase, .is c⟩

/-- The tails that are left when each class of letters is spelled out. -/
def alternatives : List Sign → List (List Sign)
  | [] => [[]]
  | ⟨a, .among cs⟩ :: p => cs.flatMap fun c => (alternatives p).map (⟨a, .is c⟩ :: ·)
  | s :: p => (alternatives p).map (s :: ·)

/-- Signs that are apart at one place are enough for no text to be read by both patterns. -/
theorem not_reads_of_apart (h : apart p q = true) (hp : reads p cs = true) : reads q cs = false := by
  induction p generalizing q cs with
  | nil => cases h
  | cons s p ih =>
    cases q with
    | nil => cases h
    | cons t q =>
      cases cs with
      | nil => rfl
      | cons c cs =>
        rw [reads, Bool.and_eq_true] at hp
        rw [reads, Bool.and_eq_false_iff]
        rcases Bool.or_eq_true_iff.1 h with hst | hrest
        · exact .inl (Sign.not_fits_of_apart hst hp.1)
        · exact .inr (ih hrest hp.2)

/-- No word ends in two tails that are apart. -/
theorem HasTail.not_of_apart (hp : HasTail p w) (h : apart p q = true) : ¬ HasTail q w := by
  rw [HasTail, not_reads_of_apart h hp]
  exact Bool.false_ne_true

theorem reads_of_within (h : within p q = true) (hp : reads p cs = true) : reads q cs = true := by
  induction q generalizing p cs with
  | nil => rfl
  | cons t q ih =>
    cases p with
    | nil => cases h
    | cons s p =>
      cases cs with
      | nil => cases hp
      | cons c cs =>
        rw [reads, Bool.and_eq_true] at hp ⊢
        rw [within, Bool.and_eq_true] at h
        exact ⟨Sign.fits_of_within h.1 hp.1, ih h.2 hp.2⟩

/-- A word with a tail has every tail that this one is within. -/
theorem HasTail.of_within (hp : HasTail p w) (h : within p q = true) : HasTail q w :=
  reads_of_within h hp

/-- A text that is read by a pattern is read by one of its alternatives, which are spelled out. -/
theorem exists_alternative (h : reads p cs = true) : ∃ q ∈ alternatives p, reads q cs = true := by
  induction p generalizing cs with
  | nil => exact ⟨[], List.mem_singleton_self _, rfl⟩
  | cons s p ih =>
    cases cs with
    | nil => cases h
    | cons c cs =>
      rw [reads, Bool.and_eq_true] at h
      obtain ⟨q, hq, hreads⟩ := ih h.2
      obtain ⟨a, l⟩ := s
      -- Only a class is spelled out; the other two forms of a letter stay.
      cases l with
      | among ds =>
        have hd : asLetter a c ∈ ds := Letter.mem_of_fits rfl h.1
        refine ⟨⟨a, .is (asLetter a c)⟩ :: q, ?_, ?_⟩
        · exact List.mem_flatMap.2 ⟨_, hd, List.mem_map_of_mem hq⟩
        · rw [reads, Bool.and_eq_true]
          exact ⟨decide_eq_true rfl, hreads⟩
      | is d =>
        exact ⟨_, List.mem_map_of_mem hq, Bool.and_eq_true_iff.2 ⟨h.1, hreads⟩⟩
      | other ds =>
        exact ⟨_, List.mem_map_of_mem hq, Bool.and_eq_true_iff.2 ⟨h.1, hreads⟩⟩

theorem length_le_of_reads (h : reads p cs = true) : p.length ≤ cs.length := by
  induction p generalizing cs with
  | nil => exact Nat.zero_le _
  | cons s p ih =>
    cases cs with
    | nil => cases h
    | cons c cs => exact Nat.succ_le_succ (ih (Bool.and_eq_true_iff.1 h).2)

theorem reads_drop (h : reads p cs = true) (n : Nat) : reads (p.drop n) (cs.drop n) = true := by
  induction n generalizing p cs with
  | zero => exact h
  | succ n ih =>
    cases p with
    | nil => rfl
    | cons s p =>
      cases cs with
      | nil => cases h
      | cons c cs => exact ih (Bool.and_eq_true_iff.1 h).2

theorem reads_take (h : reads p cs = true) (n : Nat) : reads (p.take n) cs = true := by
  induction n generalizing p cs with
  | zero => rfl
  | succ n ih =>
    cases p with
    | nil => rfl
    | cons s p =>
      cases cs with
      | nil => cases h
      | cons c cs =>
        rw [reads, Bool.and_eq_true] at h
        rw [List.take_succ_cons, reads, Bool.and_eq_true]
        exact ⟨h.1, ih h.2⟩

/-- Letters that are written out are read off one by one. -/
theorem reads_append_of_letters (xs : List Char) :
    reads (xs.map (fun c => ⟨false, .is c⟩) ++ p) (xs ++ cs) = reads p cs := by
  induction xs with
  | nil => rfl
  | cons x xs ih =>
    have hx : Sign.fits ⟨false, .is x⟩ x = true := decide_eq_true rfl
    rw [List.map_cons, List.cons_append, List.cons_append, reads, hx, ih, Bool.true_and]

/-- A pattern of letters reads the texts that begin with these letters. -/
theorem reads_letters (xs : List Char) :
    reads (xs.map fun c => ⟨a, .is c⟩) cs = true ↔ xs <+: cs.map (asLetter a) := by
  induction xs generalizing cs with
  | nil => exact iff_of_true rfl (List.nil_prefix)
  | cons x xs ih =>
    cases cs with
    | nil => simp [reads]
    | cons c cs =>
      rw [List.map_cons, reads, Bool.and_eq_true, ih, List.map_cons, List.cons_prefix_cons]
      exact and_congr_left' (decide_eq_true_iff.trans eq_comm)

/-- A tail that is spelled out is a suffix of the word, by small letters if case does not count. -/
theorem hasTail_spelled : HasTail (spelled a cs) w ↔ cs <:+ w.map (asLetter a) := by
  rw [HasTail, spelled, reads_letters, List.map_reverse, List.reverse_prefix]

theorem map_asLetter_false (w : List Char) : w.map (asLetter false) = w := List.map_id w

/-- The check on the end of a word reads the pattern of the letters. -/
theorem endsIn_eq_reads (ls : List Letter) :
    endsIn a ls cs = reads (ls.map (Sign.mk a)) cs := by
  induction ls generalizing cs with
  | nil => rfl
  | cons l ls ih =>
    cases cs with
    | nil => rfl
    | cons c cs => rw [endsIn, ih, List.map_cons, reads, Sign.fits, asLetter]

/-! ## Endings -/

variable {r : Rule} {e : Ending} {rules : List Rule} {good : Rule → Ending → Bool}

namespace Rule

/-- The tail of the words that the rule takes with the ending. -/
def tail (r : Rule) (e : Ending) : List Sign := e.tail.reverse.map (Sign.mk r.anyCase)

/-- The tail of what the rule makes of these words. -/
def outcome (r : Rule) (e : Ending) : List Sign := spelled false e.put ++ (r.tail e).drop e.drop

/-- The rule writes the letters that it drops. -/
def keeps (r : Rule) (e : Ending) : Bool :=
  e.put.length == e.drop && (r.tail e).take e.drop == spelled false e.put

/-- The rule writes other letters than it drops. -/
def changes (r : Rule) (e : Ending) : Bool :=
  e.drop ≤ e.tail.length && (e.put.length ≠ e.drop || apart (r.outcome e) (r.tail e))

/-- An ending is taken of words with its tail only. -/
theorem hasTail_of_takes (h : r.takes w e = true) : HasTail (r.tail e) w := by
  rw [takes, Bool.and_eq_true, endsIn_eq_reads] at h
  exact h.1

/-- It is taken of all of them unless the rule is about whole words. -/
theorem takes_of_hasTail (hwhole : r.whole = false) (h : HasTail (r.tail e) w) :
    r.takes w e = true := by
  rw [takes, hwhole, endsIn_eq_reads, Bool.and_eq_true]
  exact ⟨h, rfl⟩

end Rule

theorem Ending.reverse_replace (e : Ending) (w : List Char) :
    (e.replace w).reverse = e.put.reverse ++ w.reverse.drop e.drop := by
  rw [Ending.replace, List.reverse_append, List.reverse_take]
  congr 1
  rcases Nat.le_total e.drop w.length with h | h
  · rw [Nat.sub_sub_self h]
  · rw [Nat.sub_eq_zero_of_le h, Nat.sub_zero, List.drop_of_length_le (by simp),
      List.drop_of_length_le (by simpa using h)]

/-- A word whose ending is replaced has the outcome of the ending as its tail. -/
theorem hasTail_replace (h : HasTail (r.tail e) w) : HasTail (r.outcome e) (e.replace w) := by
  rw [HasTail, Ending.reverse_replace, Rule.outcome, spelled, reads_append_of_letters]
  exact reads_drop h e.drop

/-- An ending that keeps what it replaces changes no word. -/
theorem replace_of_keeps (hkeeps : r.keeps e = true) (h : HasTail (r.tail e) w) :
    e.replace w = w := by
  rw [Rule.keeps, Bool.and_eq_true, beq_iff_eq, beq_iff_eq] at hkeeps
  obtain ⟨hlength, htail⟩ := hkeeps
  have hput : e.put.reverse <+: w.reverse := by
    have hreads : reads (spelled false e.put) w.reverse = true := htail ▸ reads_take h e.drop
    rwa [spelled, reads_letters, map_asLetter_false] at hreads
  obtain ⟨rest, hrest⟩ := hput
  rw [← List.reverse_inj, Ending.reverse_replace, ← hrest, ← hlength, ← List.length_reverse,
    List.drop_left]

/-- An ending that changes something changes every word with its tail. -/
theorem replace_ne_of_changes (hchanges : r.changes e = true) (h : HasTail (r.tail e) w) :
    e.replace w ≠ w := by
  rw [Rule.changes, Bool.and_eq_true, decide_eq_true_eq, Bool.or_eq_true,
    decide_eq_true_eq] at hchanges
  obtain ⟨hdrop, hlength | hapart⟩ := hchanges
  · have hle := length_le_of_reads h
    rw [Rule.tail, List.length_map, List.length_reverse, List.length_reverse] at hle
    intro heq
    have hsame := congrArg List.length heq
    rw [Ending.replace, List.length_append, List.length_take] at hsame
    omega
  · intro heq
    have hboth := hasTail_replace h
    rw [heq] at hboth
    exact hboth.not_of_apart hapart h

theorem keeps_eq_false_of_changes (hchanges : r.changes e = true) (h : HasTail (r.tail e) w) :
    r.keeps e = false := by
  by_contra hkeeps
  exact replace_ne_of_changes hchanges h (replace_of_keeps (Bool.of_not_eq_false hkeeps) h)

/-! ## The deciding rule -/

/-- The rule that decides a word, with the ending that it finds there. -/
def deciding (rules : List Rule) (word : List Char) : Option (Rule × Ending) :=
  rules.findSome? fun r => (r.endings.find? (r.takes word)).map (r, ·)

/-- No rule decides a word with the tail. -/
def untouched (p : List Sign) (rules : List Rule) : Bool :=
  rules.all fun r => r.endings.all fun e => apart p (r.tail e)

/-- The rule takes every word with the tail. -/
def Rule.covers (r : Rule) (p : List Sign) : Bool :=
  !r.whole && r.endings.any fun e => within p (r.tail e)

/-- Some rule decides each word with the tail, and it is a good one. -/
def decidedBy (good : Rule → Ending → Bool) (p : List Sign) : List Rule → Bool
  | [] => false
  | r :: rules =>
    (r.endings.all fun e => apart p (r.tail e) || good r e) &&
      (r.covers p || decidedBy good p rules)

/-- The ending that decides is one of a rule, and the word has its tail. -/
theorem mem_of_deciding (h : deciding rules w = some (r, e)) :
    r ∈ rules ∧ e ∈ r.endings ∧ HasTail (r.tail e) w := by
  obtain ⟨r', hr, hfind⟩ := List.exists_of_findSome?_eq_some h
  obtain ⟨e', he, heq⟩ := Option.map_eq_some_iff.1 hfind
  cases heq
  exact ⟨hr, List.mem_of_find?_eq_some he, Rule.hasTail_of_takes (List.find?_some he)⟩

/-- Where no ending can be taken of a tail, nothing decides about words that have it. -/
theorem deciding_of_untouched (h : untouched p rules = true) (hp : HasTail p w) :
    deciding rules w = none := by
  by_contra hsome
  obtain ⟨⟨r, e⟩, hdeciding⟩ := Option.ne_none_iff_exists'.1 hsome
  obtain ⟨hr, he, htail⟩ := mem_of_deciding hdeciding
  exact hp.not_of_apart (List.all_eq_true.1 (List.all_eq_true.1 h r hr) e he) htail

/-- A rule that takes all words with the tail ends the search, and each rule before it that takes
one is good. -/
theorem exists_deciding (hgood : decidedBy good p rules = true) (hp : HasTail p w) :
    ∃ r e, deciding rules w = some (r, e) ∧ good r e = true := by
  induction rules with
  | nil => cases hgood
  | cons r rules ih =>
    rw [decidedBy, Bool.and_eq_true] at hgood
    obtain ⟨hfirst, hrest⟩ := hgood
    rw [deciding, List.findSome?_cons]
    cases hfind : r.endings.find? (r.takes w) with
    | some e =>
      have htail := Rule.hasTail_of_takes (List.find?_some hfind)
      have hapart_or := List.all_eq_true.1 hfirst e (List.mem_of_find?_eq_some hfind)
      refine ⟨r, e, rfl, (Bool.or_eq_true_iff.1 hapart_or).resolve_left fun hapart => ?_⟩
      exact hp.not_of_apart hapart htail
    | none =>
      refine ih ((Bool.or_eq_true_iff.1 hrest).resolve_left fun hcovers => ?_)
      rw [Rule.covers, Bool.and_eq_true, Bool.not_eq_true', List.any_eq_true] at hcovers
      obtain ⟨hwhole, e, he, hwithin⟩ := hcovers
      exact List.find?_eq_none.1 hfind e he
        (Rule.takes_of_hasTail hwhole (hp.of_within hwithin))

/-- What has been checked of all endings that can decide about a tail holds of the one that does. -/
theorem good_of_deciding (hgood : decidedBy good p rules = true) (hp : HasTail p w)
    (h : deciding rules w = some (r, e)) : good r e = true := by
  obtain ⟨r', e', hdeciding, hgood'⟩ := exists_deciding hgood hp
  rw [h] at hdeciding
  cases hdeciding
  exact hgood'

/-! ## The line feed behind a word -/

/-- The word without a line feed at its end. -/
def body (word : List Char) : List Char := (cutLineFeed word).1

/-- The line feed at the end of the word. -/
def feed (word : List Char) : List Char := if (cutLineFeed word).2 then ['\n'] else []

theorem body_append_lineFeed (w : List Char) : body (w ++ ['\n']) = w := by
  rw [body, cutLineFeed, if_pos (by simp), List.dropLast_concat]

theorem feed_append_lineFeed (w : List Char) : feed (w ++ ['\n']) = ['\n'] := by
  rw [feed, cutLineFeed, if_pos (by simp)]

theorem body_of_ne (h : w.getLast? ≠ some '\n') : body w = w := by
  rw [body, cutLineFeed, if_neg h]

theorem feed_of_ne (h : w.getLast? ≠ some '\n') : feed w = [] := by
  rw [feed, cutLineFeed, if_neg h]
  rfl

/-- A word is its body and the line feed behind it, if there is one. -/
theorem body_append_feed (w : List Char) : body w ++ feed w = w := by
  by_cases h : w.getLast? = some '\n'
  · obtain ⟨v, rfl⟩ := List.getLast?_eq_some_iff.1 h
    rw [body_append_lineFeed, feed_append_lineFeed]
  · rw [body_of_ne h, feed_of_ne h, List.append_nil]

theorem body_append_feed_of_ne (h : v.getLast? ≠ some '\n') (w : List Char) :
    body (v ++ feed w) = v := by
  by_cases hlast : w.getLast? = some '\n'
  · obtain ⟨u, rfl⟩ := List.getLast?_eq_some_iff.1 hlast
    rw [feed_append_lineFeed, body_append_lineFeed]
  · rw [feed_of_ne hlast, List.append_nil, body_of_ne h]

/-- A word does not end in a line feed when it has a tail that does not. -/
theorem getLast?_ne_lineFeed (h : HasTail p v) (hp : apart p (spelled false "\n".toList) = true) :
    v.getLast? ≠ some '\n' := by
  intro hlast
  refine h.not_of_apart hp (hasTail_spelled.2 ?_)
  rw [map_asLetter_false]
  exact List.singleton_suffix_iff_getLast?_eq_some.2 hlast

/-- A rule whose endings are not empty gives the form of the body and leaves the line feed. -/
theorem form?_eq (h : ∀ e ∈ r.endings, e.tail ≠ []) :
    r.form? w = (r.endings.find? (r.takes (body w))).map fun e => e.replace (body w) ++ feed w := by
  change Option.map _ (r.endings.find? (r.takes (body w))) = _
  cases hfind : r.endings.find? (r.takes (body w)) with
  | none => rfl
  | some e =>
    have hne : e.tail.isEmpty = false := by
      simpa using h e (List.mem_of_find?_eq_some hfind)
    rw [Option.map_some, Option.map_some, hne, feed]
    rfl

/-- The first form that a rule gives is that of the deciding ending. -/
theorem findSome?_form? (h : ∀ r ∈ rules, ∀ e ∈ r.endings, e.tail ≠ []) :
    rules.findSome? (·.form? w) =
      (deciding rules (body w)).map fun d => d.2.replace (body w) ++ feed w := by
  rw [deciding, List.map_findSome?]
  induction rules with
  | nil => rfl
  | cons r rules ih =>
    rw [List.forall_mem_cons] at h
    rw [List.findSome?_cons, List.findSome?_cons, form?_eq h.1, ih h.2, Function.comp_apply,
      Option.map_map]
    rfl

/-! ## Words without a plural -/

/-- The small form of a capital of ASCII. -/
def small (c : Char) : Char := if 'A' ≤ c ∧ c ≤ 'Z' then Char.ofNat (c.toNat + 32) else c

/-- A word has no plural when it is listed, in any case. -/
theorem isUncountable_iff : isUncountable w = true ↔ String.ofList (w.map small) ∈ uncountable :=
  decide_eq_true_iff

/-- A character is folded to its small form when folding leaves that form as it is. -/
theorem fold_eq_small (h : fold (small c) = small c) : fold c = small c := by
  by_cases hc : 'A' ≤ c ∧ c ≤ 'Z'
  · rw [fold, small, if_pos hc, if_pos hc]
  · rwa [small, if_neg hc] at h ⊢

theorem map_fold_uncountable :
    ∀ u ∈ uncountable, u.toList.map fold = u.toList ∧ '\n' ∉ u.toList := by
  decide

/-- A word without a plural ends in one that is listed, in any case. -/
theorem exists_tail_of_isUncountable (h : isUncountable w = true) :
    ∃ u ∈ uncountable, HasTail (spelled true u.toList) (body w) := by
  rw [isUncountable_iff] at h
  obtain ⟨hfold, hfeed⟩ := map_fold_uncountable _ h
  rw [String.toList_ofList] at hfold hfeed
  rw [List.map_map, List.map_inj_left] at hfold
  have hbody : body w = w := body_of_ne fun hlast =>
    hfeed (List.mem_map.2 ⟨'\n', List.mem_of_getLast? hlast, by decide⟩)
  have hspelled : w.map fold = w.map small :=
    List.map_congr_left fun c hc => fold_eq_small (hfold c hc)
  refine ⟨_, h, ?_⟩
  rw [hasTail_spelled, String.toList_ofList, hbody, ← hspelled]
  exact List.suffix_rfl

/-- Every word with the tail has a plural. -/
def countable (p : List Sign) : Bool := uncountable.all fun u => apart p (spelled true u.toList)

/-- A word is countable when its tail is apart from those of all words without a plural. -/
theorem isUncountable_eq_false (hp : countable p = true) (h : HasTail p (body w)) :
    isUncountable w = false := by
  by_contra hcount
  obtain ⟨u, hu, htail⟩ := exists_tail_of_isUncountable (Bool.of_not_eq_false hcount)
  exact h.not_of_apart (List.all_eq_true.1 hp u hu) htail

/-! ## Inflected words -/

/-- The rule decides the word, which has a plural, with the ending. -/
structure Decides (rules : List Rule) (word : List Char) (r : Rule) (e : Ending) : Prop where
  countable : isUncountable word = false
  deciding : deciding rules (body word) = some (r, e)

/-- An ending decides about a countable tail that has been checked, and it is a good one. -/
theorem exists_decides (hcountable : countable p = true) (hgood : decidedBy good p rules = true)
    (hp : HasTail p (body w)) : ∃ r e, Decides rules w r e ∧ good r e = true := by
  obtain ⟨r, e, hdeciding, hgood⟩ := exists_deciding hgood hp
  exact ⟨r, e, ⟨isUncountable_eq_false hcountable hp, hdeciding⟩, hgood⟩

namespace Decides

variable (h : Decides rules w r e)
include h

theorem mem : r ∈ rules ∧ e ∈ r.endings := by
  obtain ⟨hr, he, -⟩ := mem_of_deciding h.deciding
  exact ⟨hr, he⟩

theorem hasTail : HasTail (r.tail e) (body w) := (mem_of_deciding h.deciding).2.2

theorem good_of_decidedBy (hgood : decidedBy good p rules = true) (hp : HasTail p (body w)) :
    good r e = true :=
  good_of_deciding hgood hp h.deciding

/-- The inflected word is what the deciding ending makes of the body, and the line feed behind
it. -/
theorem inflect_eq (hrules : ∀ r ∈ rules, ∀ e ∈ r.endings, e.tail ≠ []) :
    inflect rules w = e.replace (body w) ++ feed w := by
  rw [inflect, h.countable, findSome?_form? hrules, h.deciding]
  rfl

/-- A word stays as it is just when the deciding ending changes nothing in the body. -/
theorem inflect_eq_self_iff (hrules : ∀ r ∈ rules, ∀ e ∈ r.endings, e.tail ≠ []) :
    inflect rules w = w ↔ e.replace (body w) = body w := by
  rw [h.inflect_eq hrules]
  nth_rewrite 3 [← body_append_feed w]
  exact List.append_left_inj _

end Decides

/-- A word without a rule, or without a plural, stays as it is. -/
theorem inflect_eq_self_or_decides (hrules : ∀ r ∈ rules, ∀ e ∈ r.endings, e.tail ≠ []) :
    inflect rules w = w ∨ ∃ r e, Decides rules w r e := by
  cases hcount : isUncountable w with
  | true => exact .inl (by rw [inflect, if_pos hcount])
  | false =>
    cases hdeciding : deciding rules (body w) with
    | some d => exact .inr ⟨d.1, d.2, hcount, hdeciding⟩
    | none =>
      rw [inflect, findSome?_form? hrules, hdeciding]
      exact .inl (ite_self w)

end SdkModel.Inflection
