import Mathlib.Data.List.Lex
import SdkModel.Proofs.Distinct

/-!
# Lists by places

Loops within loops meet what they look for by its place, which says how far each loop has come: the
outer loop counts most. A list by places (`ListedAt`) holds what stands at certain places, in
lexicographic order of these. The steps of such loops keep to this (`ListedAt.append`,
`listedAt_flatMap`, `listedAt_filterMap`). When only the first member of a key is kept, it is the one
at the least place, and what is kept is in order of these least places (`ListedAt.listsFirst`).
-/

namespace SdkModel

variable {α β κ : Type}

/-- The list holds what stands at the places, in ascending order of the places. -/
def ListedAt (has : List Nat → α → Prop) (xs : List α) : Prop :=
  ∃ entries : List (List Nat × α), entries.map (·.2) = xs ∧
    (entries.Pairwise fun d e => d.1 < e.1) ∧ ∀ e, e ∈ entries ↔ has e.1 e.2

/-- The member stands at the place, and whatever else has its key stands at a later one. -/
def FirstAt (has : List Nat → α → Prop) (key : α → κ) (p : List Nat) (a : α) : Prop :=
  has p a ∧ ∀ q b, has q b → key b = key a → q = p ∧ b = a ∨ p < q

/-- Each key of what stands at the places is listed once, by its first member, in order of the
places of these. -/
structure ListsFirst (has : List Nat → α → Prop) (key : α → κ) (kept : List α) : Prop where
  distinct : (kept.map key).Nodup
  complete : ∀ k, k ∈ kept.map key ↔ ∃ p a, has p a ∧ key a = k
  first : ∀ a ∈ kept, ∃ p, FirstAt has key p a
  ordered : kept.Pairwise fun a b => ∃ p q, FirstAt has key p a ∧ FirstAt has key q b ∧ p < q

section

variable {has has' : List Nat → α → Prop} {xs ys : List α} {a : α} {m : Nat}

/-! ## Steps of loops -/

theorem ListedAt.congr (h : ListedAt has xs) (hiff : ∀ p a, has p a ↔ has' p a) :
    ListedAt has' xs := by
  obtain ⟨entries, hxs, hordered, hmem⟩ := h
  exact ⟨entries, hxs, hordered, fun e => (hmem e).trans (hiff e.1 e.2)⟩

theorem listedAt_nil (h : ∀ p a, ¬ has p a) : ListedAt has [] :=
  ⟨[], rfl, List.Pairwise.nil, fun e => iff_of_false List.not_mem_nil (h e.1 e.2)⟩

theorem listedAt_singleton (h : ∀ p b, has p b ↔ p = [] ∧ b = a) : ListedAt has [a] := by
  refine ⟨[([], a)], rfl, List.pairwise_singleton _ _, ?_⟩
  rintro ⟨p, b⟩
  rw [List.mem_singleton, Prod.mk.injEq, h p b]

/-- What stands below the position `m` comes before what stands at later ones. -/
theorem ListedAt.below_append (h : ListedAt has xs) (h' : ListedAt has' ys)
    (hlater : ∀ p a, has' p a → ∃ n q, p = n :: q ∧ m < n) :
    ListedAt (fun p a => (∃ q, p = m :: q ∧ has q a) ∨ has' p a) (xs ++ ys) := by
  obtain ⟨entries, rfl, hordered, hmem⟩ := h
  obtain ⟨entries', rfl, hordered', hmem'⟩ := h'
  refine ⟨entries.map (fun e => (m :: e.1, e.2)) ++ entries', ?_, ?_, ?_⟩
  · rw [List.map_append, List.map_map]
    rfl
  · rw [List.pairwise_append, List.pairwise_map]
    refine ⟨hordered.imp fun hlt => List.cons_lt_cons_iff.2 (.inr ⟨rfl, hlt⟩), hordered', ?_⟩
    rintro d hd ⟨p, a⟩ he
    obtain ⟨c, -, rfl⟩ := List.mem_map.1 hd
    obtain ⟨n, q, rfl, hlt⟩ := hlater p a ((hmem' _).1 he)
    exact List.cons_lt_cons_iff.2 (.inl hlt)
  · rintro ⟨p, a⟩
    rw [List.mem_append, List.mem_map, hmem']
    refine or_congr_left ?_
    constructor
    · rintro ⟨⟨q, b⟩, he, heq⟩
      obtain ⟨rfl, rfl⟩ := Prod.mk.inj heq
      exact ⟨q, rfl, (hmem _).1 he⟩
    · rintro ⟨q, rfl, hq⟩
      exact ⟨(q, a), (hmem _).2 hq, rfl⟩

/-- A list on its own stands below a position like any other. -/
theorem ListedAt.below (h : ListedAt has xs) (m : Nat) :
    ListedAt (fun p a => ∃ q, p = m :: q ∧ has q a) xs := by
  have hnone : ListedAt (fun (_ : List Nat) (_ : α) => False) [] := listedAt_nil fun _ _ => id
  have hlisted := h.below_append (m := m) hnone nofun
  rw [List.append_nil] at hlisted
  exact hlisted.congr fun p a => or_iff_left id

/-- One loop after the other. -/
theorem ListedAt.append {n : Nat} (h : ListedAt has xs) (h' : ListedAt has' ys) (hlt : m < n) :
    ListedAt (fun p a => (∃ q, p = m :: q ∧ has q a) ∨ ∃ q, p = n :: q ∧ has' q a) (xs ++ ys) := by
  refine h.below_append (h'.below n) fun p a hp => ?_
  obtain ⟨q, rfl, -⟩ := hp
  exact ⟨n, q, rfl, hlt⟩

theorem listedAt_flatMap_from (m : Nat) {zs : List β} {f : β → List α}
    {has : β → List Nat → α → Prop} (h : ∀ z, ListedAt (has z) (f z)) :
    ListedAt (fun p a => ∃ i z q, zs[i]? = some z ∧ p = (m + i) :: q ∧ has z q a)
      (zs.flatMap f) := by
  induction zs generalizing m with
  | nil =>
    apply listedAt_nil
    rintro p a ⟨i, z, q, hz, -⟩
    cases hz
  | cons z zs ih =>
    have hlater (p : List Nat) (a : α) (hp : ∃ i y q, zs[i]? = some y ∧
        p = (m + 1 + i) :: q ∧ has y q a) : ∃ n q, p = n :: q ∧ m < n := by
      obtain ⟨i, -, q, -, rfl, -⟩ := hp
      exact ⟨m + 1 + i, q, rfl, by omega⟩
    refine ((h z).below_append (ih (m + 1)) hlater).congr fun p a => ?_
    constructor
    · rintro (⟨q, rfl, hq⟩ | ⟨i, y, q, hy, rfl, hq⟩)
      · exact ⟨0, z, q, rfl, rfl, hq⟩
      · exact ⟨i + 1, y, q, hy, by rw [Nat.add_right_comm]; rfl, hq⟩
    · rintro ⟨i, y, q, hy, rfl, hq⟩
      cases i with
      | zero =>
        cases hy
        exact .inl ⟨q, rfl, hq⟩
      | succ i => exact .inr ⟨i, y, q, hy, by rw [Nat.add_right_comm]; rfl, hq⟩

/-- A loop within a loop. -/
theorem listedAt_flatMap {zs : List β} {f : β → List α} {has : β → List Nat → α → Prop}
    (h : ∀ z, ListedAt (has z) (f z)) :
    ListedAt (fun p a => ∃ i z q, zs[i]? = some z ∧ p = i :: q ∧ has z q a) (zs.flatMap f) := by
  refine (listedAt_flatMap_from 0 h).congr fun p a => ?_
  simp only [Nat.zero_add]

theorem listedAt_toList (o : Option α) : ListedAt (fun p a => p = [] ∧ o = some a) o.toList := by
  cases o with
  | none => exact listedAt_nil nofun
  | some b =>
    refine listedAt_singleton fun p a => and_congr_right fun _ => ?_
    rw [Option.some.injEq, eq_comm]

/-- An innermost loop, which answers at most once each time. -/
theorem listedAt_filterMap {zs : List β} {f : β → Option α} :
    ListedAt (fun p a => ∃ i z, zs[i]? = some z ∧ p = [i] ∧ f z = some a) (zs.filterMap f) := by
  rw [List.filterMap_eq_flatMap_toList]
  refine (listedAt_flatMap fun z => listedAt_toList (f z)).congr fun p a => ?_
  constructor
  · rintro ⟨i, z, q, hz, rfl, rfl, ha⟩
    exact ⟨i, z, hz, rfl, ha⟩
  · rintro ⟨i, z, hz, rfl, ha⟩
    exact ⟨i, z, [], hz, rfl, rfl, ha⟩

/-- A loop over some members is one over all that does nothing for the others. -/
theorem flatMap_filter {zs : List β} {c : β → Bool} {f : β → List α} :
    (zs.filter c).flatMap f = zs.flatMap fun z => if c z = true then f z else [] := by
  induction zs with
  | nil => rfl
  | cons z zs ih =>
    rw [List.filter_cons, List.flatMap_cons, ← ih]
    split
    · exact List.flatMap_cons
    · rfl

theorem ListedAt.ite {c : Prop} [Decidable c] (h : ListedAt has xs) :
    ListedAt (fun p a => c ∧ has p a) (if c then xs else []) := by
  by_cases hc : c
  · rw [if_pos hc]
    exact h.congr fun p a => (and_iff_right hc).symm
  · rw [if_neg hc]
    exact listedAt_nil fun p a hp => hc hp.1

/-- An innermost loop, which answers once for each member that it does not pass over. -/
theorem listedAt_map_filter {zs : List β} {c : β → Bool} {f : β → α} :
    ListedAt (fun p a => ∃ i z, zs[i]? = some z ∧ p = [i] ∧ c z = true ∧ a = f z)
      ((zs.filter c).map f) := by
  rw [List.map_eq_flatMap, flatMap_filter]
  have hone (z : β) : ListedAt (fun p a => p = [] ∧ a = f z) [f z] :=
    listedAt_singleton fun _ _ => Iff.rfl
  refine (listedAt_flatMap fun z => (hone z).ite (c := c z = true)).congr fun p a => ?_
  constructor
  · rintro ⟨i, z, _, hz, rfl, hc, rfl, ha⟩
    exact ⟨i, z, hz, rfl, hc, ha⟩
  · rintro ⟨i, z, hz, rfl, hc, ha⟩
    exact ⟨i, z, [], hz, rfl, hc, rfl, ha⟩

/-! ## The first of a key -/

section FirstOf

variable [DecidableEq κ] {key : α → κ} {entries : List (List Nat × α)} {e : List Nat × α}

/-- What is found first in a list in order stands at the least place. -/
theorem firstAt_of_find? (hordered : entries.Pairwise fun d e => d.1 < e.1)
    (h : entries.find? (fun d => key d.2 = key e.2) = some e) :
    FirstAt (fun p a => (p, a) ∈ entries) key e.1 e.2 := by
  obtain ⟨-, before, after, rfl, hbefore⟩ := List.find?_eq_some_iff_append.1 h
  refine ⟨List.mem_append_right _ List.mem_cons_self, fun q b hb hkey => ?_⟩
  rcases List.mem_append.1 hb with hb | hb
  · have hother := hbefore _ hb
    simp [hkey] at hother
  · rcases List.mem_cons.1 hb with rfl | hb
    · exact .inl ⟨rfl, rfl⟩
    · have hafter := (List.pairwise_append.1 hordered).2.1
      exact .inr ((List.pairwise_cons.1 hafter).1 _ hb)

/-- **What is kept as the first of its key stands at the least place of the key.** -/
theorem ListedAt.listsFirst (h : ListedAt has xs) : ListsFirst has key (firstOf key [] xs) := by
  obtain ⟨entries, rfl, hordered, hmem⟩ := h
  have hhas : has = fun p a => (p, a) ∈ entries :=
    funext₂ fun p a => propext (hmem (p, a)).symm
  have hfirst (e : List Nat × α) (he : e ∈ firstOf (key ∘ (·.2)) [] entries) :
      FirstAt has key e.1 e.2 := by
    rw [hhas]
    exact firstAt_of_find? hordered (mem_firstOf_iff.1 he).2
  refine ⟨nodup_keys_firstOf, fun k => ?complete, ?first, ?ordered⟩
  case complete =>
    rw [mem_keys_firstOf_nil, List.map_map, List.mem_map, hhas]
    constructor
    · rintro ⟨e, he, rfl⟩
      exact ⟨e.1, e.2, he, rfl⟩
    · rintro ⟨p, a, he, rfl⟩
      exact ⟨(p, a), he, rfl⟩
  case first =>
    rw [firstOf_map]
    exact List.forall_mem_map.2 fun e he => ⟨e.1, hfirst e he⟩
  case ordered =>
    rw [firstOf_map, List.pairwise_map]
    refine (hordered.sublist firstOf_sublist).imp_of_mem fun hd he hlt => ?_
    exact ⟨_, _, hfirst _ hd, hfirst _ he, hlt⟩

end FirstOf

end

end SdkModel
