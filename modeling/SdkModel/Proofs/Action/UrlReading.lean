import Mathlib.Data.List.TakeWhile
import SdkModel.Action.Url
import SdkModel.Proofs.Text.Split

/-!
# Readings of a path

A path is read as its first segment, an identifier in braces that may be left out, and a trail of
at most two more segments. It can have two readings: an identifier is also a segment, and the braces
may hold slashes, so that what one reading takes for an identifier another takes for a trail. The
names of a path are those of a reading, of one with an identifier wherever there is one, and a path
without a reading has none (`ofUrl_eq_iff`).
-/

namespace SdkModel

namespace UrlParts

variable {url first identifier trail cs last : List Char}

/-- What may stand between slashes. -/
def IsSegment (cs : List Char) : Prop := cs ≠ [] ∧ '/' ∉ cs

/-- An identifier behind a slash, or nothing. The name in the braces may hold slashes. -/
inductive IsIdentifier : List Char → Prop where
  | absent : IsIdentifier []
  | braced {name : List Char} (hname : name ≠ []) (hclosed : '\x7d' ∉ name) :
      IsIdentifier ('/' :: '\x7b' :: (name ++ ['\x7d']))

/-- At most two segments behind a slash each. -/
inductive IsTrail : List Char → Prop where
  | absent : IsTrail []
  | one {a : List Char} (ha : IsSegment a) : IsTrail ('/' :: a)
  | two {a b : List Char} (ha : IsSegment a) (hb : IsSegment b) : IsTrail ('/' :: (a ++ '/' :: b))

/-- The path in its parts. -/
structure Reading (url first identifier trail : List Char) : Prop where
  eq : url = '/' :: (first ++ (identifier ++ trail))
  isSegment : IsSegment first
  isIdentifier : IsIdentifier identifier
  isTrail : IsTrail trail

/-- A reading that has an identifier if any reading of the path has one. -/
structure PreferredReading (url first identifier trail : List Char) : Prop
    extends Reading url first identifier trail where
  preferred : identifier = [] → ∀ p i s, Reading url p i s → i = []

/-! ## Trails -/

theorem isTrail_of_trailing? (h : trailing? cs = some last) : IsTrail cs ∧ last = cs.tail := by
  unfold trailing? at h
  split at h
  · cases h
    exact ⟨.absent, rfl⟩
  · rename_i rest
    have hjoin := Text.intercalate_split '/' rest
    have hclean {p : List Char} (hp : p ∈ Text.split '/' rest) : '/' ∉ p :=
      Text.not_mem_of_mem_split hp
    split at h
    · rename_i a hcut
      rw [hcut] at hjoin hclean
      rw [List.intercalate_singleton] at hjoin
      subst hjoin
      split at h
      · cases h
      · rename_i ha
        cases h
        rw [List.isEmpty_iff] at ha
        exact ⟨.one ⟨ha, hclean List.mem_cons_self⟩, rfl⟩
    · rename_i a b hcut
      rw [hcut] at hjoin hclean
      rw [List.intercalate_cons_cons, List.intercalate_singleton, List.append_assoc,
        List.singleton_append] at hjoin
      subst hjoin
      split at h
      · cases h
      · rename_i hab
        cases h
        rw [Bool.or_eq_true, List.isEmpty_iff, List.isEmpty_iff, not_or] at hab
        refine ⟨.two ⟨hab.1, hclean ?_⟩ ⟨hab.2, hclean ?_⟩, rfl⟩
        · exact List.mem_cons_self
        · exact List.mem_cons_of_mem a List.mem_cons_self
    · cases h
  · cases h

theorem trailing?_of_isTrail (h : IsTrail cs) : trailing? cs = some cs.tail := by
  cases h with
  | absent => rfl
  | one ha =>
    rw [trailing?, Text.split_of_not_mem ha.2]
    simp [ha.1]
  | two ha hb =>
    rw [trailing?, Text.split_append_sep ha.2, Text.split_of_not_mem hb.2]
    simp [ha.1, hb.1]

/-! ## Identifiers -/

/-- A text without the character ends at it. -/
theorem span_of_not_mem {c : Char} {ps : List Char} (h : c ∉ ps)
    (hcs : cs = [] ∨ ∃ rest, cs = c :: rest) :
    (ps ++ cs).takeWhile (· ≠ c) = ps ∧ (ps ++ cs).dropWhile (· ≠ c) = cs := by
  have hps : ∀ d ∈ ps, decide (d ≠ c) = true := by
    intro d hd
    refine decide_eq_true ?_
    rintro rfl
    exact h hd
  rw [List.takeWhile_append_of_pos hps, List.dropWhile_append_of_pos hps]
  rcases hcs with rfl | ⟨rest, rfl⟩
  · simp
  · simp

theorem exists_of_behindIdentifier? {rest : List Char} (h : behindIdentifier? cs = some rest) :
    ∃ i, IsIdentifier i ∧ i ≠ [] ∧ cs = i ++ rest := by
  unfold behindIdentifier? at h
  split at h
  · rename_i inside
    split at h
    · rename_i c name d behind hname hbehind
      cases h
      have hd : d = '\x7d' := by
        have hstop := List.head?_dropWhile_not (· ≠ '\x7d') inside
        rw [hbehind] at hstop
        simpa using hstop
      have hinside : inside = (c :: name) ++ d :: rest := by
        rw [← hname, ← hbehind, List.takeWhile_append_dropWhile]
      have hclosed : '\x7d' ∉ c :: name := by
        intro hmem
        rw [← hname] at hmem
        simpa using List.mem_takeWhile_imp hmem
      refine ⟨_, .braced (List.cons_ne_nil c name) hclosed, List.cons_ne_nil _ _, ?_⟩
      rw [hinside, hd]
      simp
    · cases h
  · cases h

theorem behindIdentifier?_of_isIdentifier (h : IsIdentifier identifier) (hne : identifier ≠ [])
    (rest : List Char) : behindIdentifier? (identifier ++ rest) = some rest := by
  cases h with
  | absent => exact absurd rfl hne
  | @braced name hname hclosed =>
    obtain ⟨htake, hdrop⟩ := span_of_not_mem hclosed (.inr ⟨rest, rfl⟩)
    obtain ⟨c, name, rfl⟩ := List.exists_cons_of_ne_nil hname
    rw [List.cons_append, List.cons_append, List.append_assoc, List.singleton_append,
      behindIdentifier?, htake, hdrop]

/-! ## Names of a path -/

theorem stops_of_identifier_of_trail (hi : IsIdentifier identifier) (hs : IsTrail trail) :
    identifier ++ trail = [] ∨ ∃ rest, identifier ++ trail = '/' :: rest := by
  cases hi with
  | absent => cases hs with
    | absent => exact .inl rfl
    | one => exact .inr ⟨_, rfl⟩
    | two => exact .inr ⟨_, rfl⟩
  | braced => exact .inr ⟨_, rfl⟩

/-- The first segment of a path ends at the next slash, whatever comes behind it. -/
theorem ofChars_of_first (hfirst : IsSegment first) (hcs : cs = [] ∨ ∃ rest, cs = '/' :: rest) :
    ofChars ('/' :: (first ++ cs)) =
      (((behindIdentifier? cs).bind trailing?).or (trailing? cs)).map fun last => (first, last) := by
  obtain ⟨htake, hdrop⟩ := span_of_not_mem hfirst.2 hcs
  obtain ⟨c, first, rfl⟩ := List.exists_cons_of_ne_nil hfirst.1
  rw [ofChars, htake, hdrop]

/-- What is behind the first segment has a trail behind an identifier in front of it, or it is a
trail itself. -/
theorem ofChars_of_reading (h : Reading url first identifier trail) :
    ofChars url = (((behindIdentifier? (identifier ++ trail)).bind trailing?).or
      (trailing? (identifier ++ trail))).map fun last => (first, last) := by
  rw [h.eq, ofChars_of_first h.isSegment (stops_of_identifier_of_trail h.isIdentifier h.isTrail)]

theorem ofChars_of_preferred (h : PreferredReading url first identifier trail) :
    ofChars url = some (first, trail.tail) := by
  rw [ofChars_of_reading h.toReading]
  by_cases hne : identifier = []
  · subst hne
    -- A trail behind some identifier would make a reading with an identifier.
    have hnone : (behindIdentifier? trail).bind trailing? = none := by
      rw [Option.bind_eq_none_iff]
      intro rest hrest
      obtain ⟨i, hi, hine, rfl⟩ := exists_of_behindIdentifier? hrest
      rw [← Option.not_isSome_iff_eq_none, Option.isSome_iff_exists]
      rintro ⟨last, hlast⟩
      have hreading : Reading url first i rest :=
        ⟨h.eq, h.isSegment, hi, (isTrail_of_trailing? hlast).1⟩
      exact hine (h.preferred rfl _ _ _ hreading)
    rw [List.nil_append, hnone, Option.none_or, trailing?_of_isTrail h.isTrail]
    rfl
  · rw [behindIdentifier?_of_isIdentifier h.isIdentifier hne, Option.bind_some,
      trailing?_of_isTrail h.isTrail]
    rfl

theorem exists_preferred_of_reading (h : Reading url first identifier trail) :
    ∃ p i s, PreferredReading url p i s := by
  by_cases hother : ∃ p i s, Reading url p i s ∧ i ≠ []
  · obtain ⟨p, i, s, hreading, hne⟩ := hother
    exact ⟨p, i, s, hreading, fun hi => absurd hi hne⟩
  · refine ⟨first, identifier, trail, h, fun _ p i s hreading => ?_⟩
    by_contra hne
    exact hother ⟨p, i, s, hreading, hne⟩

theorem exists_reading_of_ofChars (h : ofChars url = some (first, last)) :
    ∃ i s, Reading url first i s := by
  unfold ofChars at h
  split at h
  · rename_i cs
    split at h
    · cases h
    · rename_i p hne
      obtain ⟨names, hend, hpair⟩ := Option.map_eq_some_iff.1 h
      obtain ⟨rfl, rfl⟩ := Prod.mk.inj hpair
      have hfirst : IsSegment (cs.takeWhile (· ≠ '/')) := by
        refine ⟨hne, fun hmem => ?_⟩
        simpa using List.mem_takeWhile_imp hmem
      have hcs : cs = cs.takeWhile (· ≠ '/') ++ cs.dropWhile (· ≠ '/') :=
        List.takeWhile_append_dropWhile.symm
      rcases Option.or_eq_some_iff.1 hend with hbehind | ⟨-, htrail⟩
      · obtain ⟨rest, hrest, hlast⟩ := Option.bind_eq_some_iff.1 hbehind
        obtain ⟨i, hi, -, hsplit⟩ := exists_of_behindIdentifier? hrest
        refine ⟨i, rest, ?_, hfirst, hi, (isTrail_of_trailing? hlast).1⟩
        rw [← hsplit, ← hcs]
      · refine ⟨[], cs.dropWhile (· ≠ '/'), ?_, hfirst, .absent, (isTrail_of_trailing? htrail).1⟩
        rw [List.nil_append, ← hcs]
  · cases h

/-- **The names of a path** are the first segment and the trail of a reading, of one with an
identifier wherever there is one; a path that cannot be read has empty names. -/
theorem ofUrl_eq_iff (url : String) (parts : UrlParts) : ofUrl url = parts ↔
    (∃ p i s, PreferredReading url.toList p i s ∧
      parts = ⟨String.ofList p, String.ofList s.tail⟩) ∨
    ((∀ p i s, ¬ Reading url.toList p i s) ∧ parts = ⟨"", ""⟩) := by
  by_cases hread : ∃ p i s, Reading url.toList p i s
  · obtain ⟨p, i, s, h⟩ := hread
    have hsome : ¬ ∀ p i s, ¬ Reading url.toList p i s := fun hnone => hnone p i s h
    obtain ⟨p, i, s, hpreferred⟩ := exists_preferred_of_reading h
    have hurl {p i s : List Char} (h : PreferredReading url.toList p i s) :
        ofUrl url = ⟨String.ofList p, String.ofList s.tail⟩ := by
      rw [ofUrl, ofChars_of_preferred h]
    constructor
    · rintro rfl
      exact .inl ⟨p, i, s, hpreferred, hurl hpreferred⟩
    · rintro (⟨p, i, s, hpreferred, rfl⟩ | ⟨hnone, -⟩)
      · exact hurl hpreferred
      · exact absurd hnone hsome
  · have hnone : ∀ p i s, ¬ Reading url.toList p i s :=
      fun p i s h => hread ⟨p, i, s, h⟩
    have hurl : ofUrl url = ⟨"", ""⟩ := by
      cases hchars : ofChars url.toList with
      | none => rw [ofUrl, hchars]
      | some names =>
        obtain ⟨i, s, h⟩ := exists_reading_of_ofChars hchars
        exact absurd h (hnone _ i s)
    rw [hurl]
    constructor
    · rintro rfl
      exact .inr ⟨hnone, rfl⟩
    · rintro (⟨p, i, s, h, -⟩ | ⟨-, rfl⟩)
      · exact absurd h.toReading (hnone p i s)
      · rfl

/-- A segment in braces is taken for an identifier, also where it holds slashes. -/
example : ofUrl "/customers/\x7bid\x7d" = ⟨"customers", ""⟩ ∧
    ofUrl "/customers/\x7ba/b\x7d/update" = ⟨"customers", "update"⟩ := by cbv

end UrlParts

end SdkModel
