import Mathlib.Data.List.Nodup
import Mathlib.Data.Prod.Lex
import Mathlib.Order.Bounds.Basic
import SdkModel.Proofs.Distinct

/-!
# Stable sorts

A list is the stable sort of another one by a key when its keys ascend and the members of each key
stand in it as they stand there (`IsStableSort`). Only one list is that (`IsStableSort.unique`), so
what is gathered in some other way is found to be the sorted list: a list gathered key by key
(`isStableSort_gathered`), one that is sorted twice (`IsStableSort.lex`), and what is left of a list
that enters its members at several orders (`eraseDups_entered`).
-/

namespace SdkModel

variable {α ν κ μ : Type} [LinearOrder κ] [LinearOrder μ] {key : α → κ} {xs ys zs : List α}

/-- The keys of the list ascend, and the members of each key stand in it as they stand in `xs`. -/
structure IsStableSort (key : α → κ) (xs sorted : List α) : Prop where
  ordered : sorted.Pairwise fun a b => key a ≤ key b
  ties (k : κ) : sorted.filter (key · = k) = xs.filter (key · = k)

/-! ## The one sorted list -/

theorem mem_iff_of_ties (hties : ∀ k, ys.filter (key · = k) = zs.filter (key · = k)) (a : α) :
    a ∈ ys ↔ a ∈ zs := by
  have htie : a ∈ ys.filter (key · = key a) ↔ a ∈ zs.filter (key · = key a) := by
    rw [hties (key a)]
  simpa using htie

/-- Two lists in order of a key are equal when they agree on each key. -/
theorem eq_of_ordered_of_ties (hys : ys.Pairwise fun a b => key a ≤ key b)
    (hzs : zs.Pairwise fun a b => key a ≤ key b)
    (hties : ∀ k, ys.filter (key · = k) = zs.filter (key · = k)) : ys = zs := by
  induction ys generalizing zs with
  | nil =>
    exact (List.eq_nil_iff_forall_not_mem.2 fun a ha =>
      List.not_mem_nil ((mem_iff_of_ties hties a).2 ha)).symm
  | cons y ys ih =>
    cases zs with
    | nil => exact absurd ((mem_iff_of_ties hties y).1 List.mem_cons_self) List.not_mem_nil
    | cons z zs =>
      rw [List.pairwise_cons] at hys hzs
      -- Each head has the least key of its list, and the lists have the same members.
      have hzy : key z ≤ key y := by
        rcases List.mem_cons.1 ((mem_iff_of_ties hties y).1 List.mem_cons_self) with rfl | hy
        · exact le_rfl
        · exact hzs.1 y hy
      have hyz : key y ≤ key z := by
        rcases List.mem_cons.1 ((mem_iff_of_ties hties z).2 List.mem_cons_self) with rfl | hz
        · exact le_rfl
        · exact hys.1 z hz
      have hkey : key z = key y := le_antisymm hzy hyz
      have hhead := hties (key y)
      simp only [List.filter_cons, hkey, decide_true, if_true] at hhead
      obtain ⟨rfl, -⟩ := List.cons.inj hhead
      refine congrArg (y :: ·) (ih hys.2 hzs.2 fun k => ?_)
      have htie := hties k
      rw [List.filter_cons, List.filter_cons] at htie
      split at htie
      · exact (List.cons.inj htie).2
      · exact htie

theorem IsStableSort.unique (hys : IsStableSort key xs ys) (hzs : IsStableSort key xs zs) :
    ys = zs :=
  eq_of_ordered_of_ties hys.ordered hzs.ordered fun k => (hys.ties k).trans (hzs.ties k).symm

theorem IsStableSort.perm (h : IsStableSort key xs ys) : ys.Perm xs := by
  classical
  refine List.perm_iff_count.2 fun a => ?_
  have hcount (zs : List α) : (zs.filter (key · = key a)).count a = zs.count a :=
    List.count_filter (decide_eq_true (p := key a = key a) rfl)
  rw [← hcount ys, h.ties, hcount xs]

theorem IsStableSort.filter (h : IsStableSort key xs ys) (p : α → Bool) :
    IsStableSort key (xs.filter p) (ys.filter p) := by
  refine ⟨h.ordered.filter p, fun k => ?_⟩
  rw [List.filter_comm, h.ties, List.filter_comm]

theorem pair_sublist_of_ties {a b : α}
    (hties : ∀ k, ys.filter (key · = k) = zs.filter (key · = k)) (hsub : [a, b].Sublist ys)
    (heq : key a = key b) : [a, b].Sublist zs := by
  have hpair := hsub.filter (key · = key b)
  simp only [hties, List.filter_cons, heq, decide_true, if_true, List.filter_nil] at hpair
  exact hpair.trans List.filter_sublist

/-- Members of one key stand in the sorted list as they stand in the other one. -/
theorem IsStableSort.pair_sublist {a b : α} (h : IsStableSort key xs ys) (hsub : [a, b].Sublist ys)
    (heq : key a = key b) : [a, b].Sublist xs := pair_sublist_of_ties h.ties hsub heq

/-- Sorting a list leaves the members of each key as they stand. -/
theorem isStableSort_sortByOrder (key : α → Int) (xs : List α) :
    IsStableSort key xs (sortByOrder key xs) := by
  have htrans (a b c : α) (hab : decide (key a ≤ key b) = true)
      (hbc : decide (key b ≤ key c) = true) : decide (key a ≤ key c) = true :=
    decide_eq_true ((of_decide_eq_true hab).trans (of_decide_eq_true hbc))
  have htotal (a b : α) : (decide (key a ≤ key b) || decide (key b ≤ key a)) = true := by
    rw [Bool.or_eq_true, decide_eq_true_eq, decide_eq_true_eq]
    exact le_total _ _
  refine ⟨(List.pairwise_mergeSort htrans htotal xs).imp of_decide_eq_true, fun k => ?_⟩
  -- The members of the key are in order as they stand, so they stand in the sorted list as well.
  have hties : (xs.filter (key · = k)).Pairwise fun a b => decide (key a ≤ key b) = true := by
    refine List.pairwise_of_forall_mem_list fun a ha b hb => decide_eq_true (le_of_eq ?_)
    have hkeya : key a = k := of_decide_eq_true (List.mem_filter.1 ha).2
    have hkeyb : key b = k := of_decide_eq_true (List.mem_filter.1 hb).2
    rw [hkeya, hkeyb]
  have hsub := (List.sublist_mergeSort htrans htotal hties List.filter_sublist).filter (key · = k)
  simp only [List.filter_filter, Bool.and_self] at hsub
  exact (hsub.eq_of_length ((sortByOrder_perm key xs).symm.filter _).length_eq).symm

theorem IsStableSort.eq_sortByOrder {key : α → Int} (h : IsStableSort key xs ys) :
    ys = sortByOrder key xs :=
  h.unique (isStableSort_sortByOrder key xs)

theorem IsStableSort.congr {key' : α → κ} (h : IsStableSort key xs ys)
    (hkeys : ∀ x ∈ xs, key x = key' x) : IsStableSort key' xs ys := by
  have hkeys' : ∀ y ∈ ys, key y = key' y := fun y hy => hkeys y (h.perm.mem_iff.1 hy)
  have hties {zs : List α} (hzs : ∀ z ∈ zs, key z = key' z) (k : κ) :
      zs.filter (key · = k) = zs.filter (key' · = k) :=
    List.filter_congr fun z hz => by rw [hzs z hz]
  refine ⟨h.ordered.imp_of_mem fun ha hb hle => ?_, fun k => ?_⟩
  · rwa [← hkeys' _ ha, ← hkeys' _ hb]
  · rw [← hties hkeys', h.ties, hties hkeys]

/-! ## One list for two keys -/

section Pairs

variable {key' : α → μ} {a b : α}

/-- Of two members that differ one stands before the other. -/
theorem pair_sublist_or (ha : a ∈ xs) (hb : b ∈ xs) (hne : a ≠ b) :
    [a, b].Sublist xs ∨ [b, a].Sublist xs := by
  obtain ⟨before, after, rfl⟩ := List.append_of_mem ha
  rcases List.mem_append.1 hb with hb | hb
  · exact .inr ((List.singleton_sublist.2 hb).append
      (List.singleton_sublist.2 List.mem_cons_self))
  · have hb : b ∈ after := (List.mem_cons.1 hb).resolve_left (Ne.symm hne)
    exact .inl (((List.singleton_sublist.2 hb).cons_cons a).trans (List.sublist_append_right _ _))

/-- What one key brings to the front, the other one does as well. -/
theorem IsStableSort.lt_of_lt (h : IsStableSort key xs ys) (h' : IsStableSort key' xs ys)
    (hsub : [a, b].Sublist xs) (hlt : key b < key a) : key' b < key' a := by
  have hne : a ≠ b := by
    rintro rfl
    exact lt_irrefl _ hlt
  have hnot : ¬ [a, b].Sublist ys := fun hys =>
    not_le.2 hlt (List.pairwise_iff_forall_sublist.1 h.ordered hys)
  have ha : a ∈ ys := h.perm.mem_iff.2 (hsub.subset List.mem_cons_self)
  have hb : b ∈ ys := h.perm.mem_iff.2 (hsub.subset (by simp))
  have hba : [b, a].Sublist ys := (pair_sublist_or ha hb hne).resolve_left hnot
  have hle : key' b ≤ key' a := List.pairwise_iff_forall_sublist.1 h'.ordered hba
  refine lt_of_le_of_ne hle fun heq => hnot ?_
  exact pair_sublist_of_ties (fun k => (h'.ties k).symm) hsub heq.symm

/-- The list that is sorted by one key is sorted by another exactly when both bring the same members
before those that they stand behind. -/
theorem IsStableSort.iff_pairs (h : IsStableSort key xs ys) : IsStableSort key' xs ys ↔
    ∀ a b, [a, b].Sublist xs → (key b < key a ↔ key' b < key' a) := by
  constructor
  · exact fun h' a b hsub => ⟨h.lt_of_lt h' hsub, h'.lt_of_lt h hsub⟩
  · intro hpairs
    refine ⟨List.pairwise_iff_forall_sublist.2 fun {a b} hsub => ?_, fun k => ?_⟩
    · have hle := List.pairwise_iff_forall_sublist.1 h.ordered hsub
      by_contra hnot
      have hlt : key' b < key' a := not_le.1 hnot
      have hne : a ≠ b := by
        rintro rfl
        exact lt_irrefl _ hlt
      have ha : a ∈ xs := h.perm.mem_iff.1 (hsub.subset List.mem_cons_self)
      have hb : b ∈ xs := h.perm.mem_iff.1 (hsub.subset (by simp))
      have hkept : [a, b].Sublist xs := by
        rcases pair_sublist_or ha hb hne with hab | hba
        · exact hab
        · have hnlt : ¬ key a < key b := fun hkey => lt_asymm hlt ((hpairs b a hba).1 hkey)
          exact h.pair_sublist hsub (le_antisymm hle (not_lt.1 hnlt))
      exact not_le.2 ((hpairs a b hkept).2 hlt) hle
    · -- The members of a value of the second key are in order of the first as they stand.
      have hstands : IsStableSort key (xs.filter (key' · = k)) (xs.filter (key' · = k)) := by
        refine ⟨List.pairwise_iff_forall_sublist.2 fun {a b} hsub => ?_, fun _ => rfl⟩
        have ha : key' a = k := by
          simpa using (List.mem_filter.1 (hsub.subset List.mem_cons_self)).2
        have hb : key' b = k := by simpa using (List.mem_filter.1 (hsub.subset (by simp))).2
        refine not_lt.1 fun hkey => ?_
        have hlt := (hpairs a b (hsub.trans List.filter_sublist)).1 hkey
        rw [ha, hb] at hlt
        exact lt_irrefl _ hlt
      exact (h.filter _).unique hstands

end Pairs

/-! ## Sorted lists -/

section Sorted

variable {key other : α → Int}

/-- A list that is sorted by one key ascends in another exactly when the other ascends from each
value of the key to the higher ones, and among the members of each value as they stand. -/
theorem pairwise_sortByOrder_iff :
    (sortByOrder key xs).Pairwise (fun a b => other a ≤ other b) ↔
      (∀ a ∈ xs, ∀ b ∈ xs, key a < key b → other a ≤ other b) ∧
        ∀ k, (xs.filter (key · = k)).Pairwise fun a b => other a ≤ other b := by
  have hsort := isStableSort_sortByOrder key xs
  constructor
  · intro h
    refine ⟨fun a ha b hb hless => ?_, fun k => hsort.ties k ▸ h.filter _⟩
    -- The member of the higher key stands behind the other one.
    have hordered := hsort.ordered
    have hb : b ∈ sortByOrder key xs := mem_sortByOrder.2 hb
    have ha : a ∈ sortByOrder key xs := mem_sortByOrder.2 ha
    obtain ⟨before, after, hsplit⟩ := List.append_of_mem ha
    rw [hsplit, List.pairwise_append, List.pairwise_cons] at h hordered
    rw [hsplit, List.mem_append, List.mem_cons] at hb
    rcases hb with hbefore | rfl | hafter
    · exact absurd (hordered.2.2 b hbefore a List.mem_cons_self) (not_le.2 hless)
    · exact le_rfl
    · exact h.2.1.1 b hafter
  · rintro ⟨hlt, hties⟩
    rw [List.pairwise_iff_forall_sublist]
    intro a b hsub
    have hkey := List.pairwise_iff_forall_sublist.1 hsort.ordered hsub
    rcases lt_or_eq_of_le hkey with hkey | hkey
    · have ha : a ∈ xs := mem_sortByOrder.1 (hsub.subset List.mem_cons_self)
      have hb : b ∈ xs := mem_sortByOrder.1 (hsub.subset (by simp))
      exact hlt a ha b hb hkey
    · have htie := List.pairwise_filter.1 (hties (key b))
      have hsub := hsort.pair_sublist hsub hkey
      exact List.pairwise_iff_forall_sublist.1 htie hsub (decide_eq_true hkey) (decide_eq_true rfl)

/-- Sorting and leaving out commute. -/
theorem filter_sortByOrder (p : α → Bool) :
    (sortByOrder key xs).filter p = sortByOrder key (xs.filter p) :=
  ((isStableSort_sortByOrder key xs).filter p).eq_sortByOrder

end Sorted

/-! ## Two keys -/

/-- Sorting by a second key first is sorting by both. -/
theorem IsStableSort.lex {key' : α → μ} (hinner : IsStableSort key' xs ys)
    (houter : IsStableSort key ys zs) :
    IsStableSort (fun a => toLex (key a, key' a)) xs zs := by
  refine ⟨List.pairwise_iff_forall_sublist.2 fun {a b} hsub => ?_, fun k => ?_⟩
  · rw [Prod.Lex.toLex_le_toLex]
    have hle := List.pairwise_iff_forall_sublist.1 houter.ordered hsub
    refine (lt_or_eq_of_le hle).imp_right fun heq => ⟨heq, ?_⟩
    exact List.pairwise_iff_forall_sublist.1 hinner.ordered (houter.pair_sublist hsub heq)
  · have hboth (a : α) : decide (toLex (key a, key' a) = k) =
        (decide (key a = (ofLex k).1) && decide (key' a = (ofLex k).2)) := by
      rw [← Bool.decide_and]
      exact decide_eq_decide.2 Prod.ext_iff
    calc
      zs.filter (fun a => toLex (key a, key' a) = k) =
          (zs.filter (key · = (ofLex k).1)).filter (key' · = (ofLex k).2) := by
        rw [List.filter_comm, List.filter_filter]
        exact List.filter_congr fun a _ => hboth a
      _ = (ys.filter (key' · = (ofLex k).2)).filter (key · = (ofLex k).1) := by
        rw [houter.ties, List.filter_comm]
      _ = xs.filter (fun a => toLex (key a, key' a) = k) := by
        rw [hinner.ties, List.filter_filter]
        exact List.filter_congr fun a _ => (hboth a).symm

/-! ## Lists gathered key by key -/

section Gathered

variable {orders : List κ}

/-- Going through the keys in order gathers the sorted list. -/
theorem isStableSort_gathered (horders : orders.Pairwise (· < ·))
    (hcover : ∀ x ∈ xs, key x ∈ orders) :
    IsStableSort key xs (orders.flatMap fun k => xs.filter (key · = k)) := by
  have hkey {k : κ} {a : α} (ha : a ∈ xs.filter (key · = k)) : key a = k :=
    of_decide_eq_true (List.mem_filter.1 ha).2
  refine ⟨List.pairwise_flatMap.2 ⟨fun k _ => ?_, horders.imp fun hlt a ha b hb => ?_⟩,
    fun k => ?_⟩
  · exact List.pairwise_of_forall_mem_list fun a ha b hb =>
      le_of_eq ((hkey ha).trans (hkey hb).symm)
  · rw [hkey ha, hkey hb]
    exact hlt.le
  · rw [List.filter_flatMap]
    by_cases hk : k ∈ orders
    · rw [flatMap_eq_of_unique (horders.imp ne_of_lt) hk]
      · simp only [List.filter_filter, Bool.and_self]
      · intro l _ hne
        refine List.filter_eq_nil_iff.2 fun a ha hak => hne ?_
        exact (hkey ha).symm.trans (of_decide_eq_true hak)
    · have hnone : ∀ a ∈ xs, ¬ decide (key a = k) = true := by
        intro a ha hak
        exact hk (of_decide_eq_true hak ▸ hcover a ha)
      rw [List.filter_eq_nil_iff.2 hnone, List.flatMap_eq_nil_iff]
      intro l _
      exact List.filter_eq_nil_iff.2 fun a ha => hnone a (List.mem_filter.1 ha).1

/-- The first of ascending orders that has a property is the least one. -/
theorem find?_eq_some_iff_isLeast (horders : orders.Pairwise (· < ·)) {p : κ → Bool} {k : κ} :
    orders.find? p = some k ↔ IsLeast {l | l ∈ orders ∧ p l = true} k := by
  have hfirst {k : κ} (hfind : orders.find? p = some k) :
      IsLeast {l | l ∈ orders ∧ p l = true} k := by
    obtain ⟨hp, before, after, rfl, hbefore⟩ := List.find?_eq_some_iff_append.1 hfind
    rw [List.pairwise_append, List.pairwise_cons] at horders
    refine ⟨⟨List.mem_append_right _ List.mem_cons_self, hp⟩, fun l hl => ?_⟩
    rcases List.mem_append.1 hl.1 with hmem | hmem
    · simpa [hl.2] using hbefore l hmem
    · rcases List.mem_cons.1 hmem with rfl | hmem
      · exact le_rfl
      · exact (horders.2.1.1 l hmem).le
  refine ⟨hfirst, fun hleast => ?_⟩
  obtain ⟨l, hl⟩ := Option.isSome_iff_exists.1 (List.find?_isSome.2 ⟨k, hleast.1⟩)
  rw [hl, (hfirst hl).unique hleast]

theorem pairwise_distinctOrders (ns : List Int) : (distinctOrders ns).Pairwise (· < ·) := by
  have hsorted := (isStableSort_sortByOrder id ns.eraseDups).ordered
  exact (hsorted.and (nodup_distinctOrders ns)).imp fun h => lt_of_le_of_ne h.1 h.2

end Gathered

/-! ## Members entered at several orders -/

section Entered

variable [DecidableEq ν] {name : α → ν} {orders : List κ} {shows : κ → α → Bool}
  {shown : α → Bool}

/-- Of members of distinct names those are left that are not in the part that is removed. -/
theorem removeAll_names (hnames : (xs.map name).Nodup) (hys : ys ⊆ xs) (p : α → Bool) :
    (ys.map name).removeAll ((xs.filter p).map name) = (ys.filter (!p ·)).map name := by
  rw [List.removeAll, List.filter_map]
  refine congrArg (List.map name) (List.filter_congr fun y hy => congrArg (!·) ?_)
  have hmem : name y ∈ (xs.filter p).map name ↔ p y = true := by
    constructor
    · intro hname
      obtain ⟨x, hx, hxy⟩ := List.mem_map.1 hname
      obtain ⟨hx, hp⟩ := List.mem_filter.1 hx
      rwa [← List.inj_on_of_nodup_map hnames hx (hys hy) hxy]
    · exact fun hp => List.mem_map_of_mem (List.mem_filter.2 ⟨hys hy, hp⟩)
  rw [Bool.eq_iff_iff, ← hmem]
  exact List.elem_iff

/-- The members whose first order is the first of all are those that show at it. -/
theorem filter_find?_head {k : κ} (hk : k ∉ orders) :
    xs.filter (fun x => (k :: orders).find? (shows · x) = some k) = xs.filter (shows k) := by
  refine List.filter_congr fun x _ => ?_
  cases hx : shows k x with
  | true => simp [hx]
  | false =>
    have hnot : orders.find? (shows · x) ≠ some k := by
      intro hfind
      exact hk (List.mem_of_find?_eq_some hfind)
    simp [hx, hnot]

/-- The members of a later order do not show at the first one. -/
theorem filter_find?_tail {k l : κ} (hne : k ≠ l) :
    xs.filter (fun x => (k :: orders).find? (shows · x) = some l) =
      (xs.filter (!shows k ·)).filter fun x => orders.find? (shows · x) = some l := by
  rw [List.filter_filter]
  refine List.filter_congr fun x _ => ?_
  cases hx : shows k x with
  | true => simp [hx, hne]
  | false => simp [hx]

/-- Members of distinct names that are entered at several orders come up at the first of them. -/
theorem eraseDups_entries (horders : orders.Nodup) (hnames : (xs.map name).Nodup) :
    ((orders.flatMap fun k => xs.filter (shows k)).map name).eraseDups =
      (orders.flatMap fun k => xs.filter fun x => orders.find? (shows · x) = some k).map name := by
  induction orders generalizing xs with
  | nil => rfl
  | cons k orders ih =>
    rw [List.nodup_cons] at horders
    have hpart (p : α → Bool) : ((xs.filter p).map name).Nodup :=
      hnames.sublist (List.filter_sublist.map name)
    have hentries : (orders.flatMap fun l => xs.filter (shows l)) ⊆ xs := by
      intro x hx
      obtain ⟨l, -, hx⟩ := List.mem_flatMap.1 hx
      exact (List.mem_filter.1 hx).1
    -- What is entered at the first order is not new at the later ones.
    have hnew : (orders.flatMap fun l => xs.filter (shows l)).filter (!shows k ·) =
        orders.flatMap fun l => (xs.filter (!shows k ·)).filter (shows l) := by
      rw [List.filter_flatMap]
      exact List.flatMap_congr fun l _ => List.filter_comm _ _ _
    have hlater : (orders.flatMap fun l =>
          xs.filter fun x => (k :: orders).find? (shows · x) = some l) =
        orders.flatMap fun l =>
          (xs.filter (!shows k ·)).filter fun x => orders.find? (shows · x) = some l := by
      refine List.flatMap_congr fun l hl => filter_find?_tail ?_
      rintro rfl
      exact horders.1 hl
    rw [List.flatMap_cons, List.flatMap_cons, List.map_append, List.map_append,
      List.eraseDups_append, eraseDups_of_nodup (hpart _), removeAll_names hnames hentries, hnew,
      ih horders.2 (hpart _), filter_find?_head horders.1, hlater]

/-- **What is left of a list that enters its members at several orders**: those that are entered at
all, sorted by the least of their orders. -/
theorem eraseDups_entered {orders : List Int} {shows : Int → α → Bool} {first : α → Int}
    (horders : orders.Pairwise (· < ·)) (hnames : (xs.map name).Nodup)
    (hfirst : ∀ x ∈ xs, shown x = true → IsLeast {k | k ∈ orders ∧ shows k x = true} (first x))
    (hnone : ∀ x ∈ xs, shown x = false → ∀ k ∈ orders, shows k x = false) :
    ((orders.flatMap fun k => xs.filter (shows k)).map name).eraseDups =
      (sortByOrder first (xs.filter shown)).map name := by
  have hfind (k : Int) : xs.filter (fun x => orders.find? (shows · x) = some k) =
      (xs.filter shown).filter (first · = k) := by
    rw [List.filter_filter]
    refine List.filter_congr fun x hx => ?_
    cases hshown : shown x with
    | false =>
      have hfind : orders.find? (shows · x) = none :=
        List.find?_eq_none.2 fun k hk => Bool.eq_false_iff.1 (hnone x hx hshown k hk)
      simp [hfind]
    | true =>
      have hleast := hfirst x hx hshown
      have hfind : orders.find? (shows · x) = some (first x) :=
        (find?_eq_some_iff_isLeast horders).2 hleast
      simp [hfind]
  have hcover : ∀ x ∈ xs.filter shown, first x ∈ orders := by
    intro x hx
    obtain ⟨hx, hshown⟩ := List.mem_filter.1 hx
    exact (hfirst x hx hshown).1.1
  rw [eraseDups_entries (horders.imp ne_of_lt) hnames]
  simp only [hfind]
  rw [(isStableSort_gathered horders hcover).eq_sortByOrder]

end Entered

end SdkModel
