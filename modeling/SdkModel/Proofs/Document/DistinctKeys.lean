import SdkModel.Document.Load
import SdkModel.Proofs.Value.DistinctKeys

/-!
# Documents without repeated keys

A text may repeat a key. Both readers put the entries of an object one after the other, so the later
value replaces the earlier one, and no object of a document that was loaded has a key twice
(`Document.hasDistinctKeys_of_load`).
-/

namespace SdkModel

theorem exists_of_bind_eq_ok {ε α β : Type} {x : Except ε α} {f : α → Except ε β} {b : β}
    (h : (x >>= f) = .ok b) : ∃ a, x = .ok a ∧ f a = .ok b := by
  cases x with
  | error e => cases h
  | ok a => exact ⟨a, rfl, h⟩

theorem exists_of_map_eq_ok {ε α β : Type} {x : Except ε α} {f : α → β} {b : β}
    (h : f <$> x = .ok b) : ∃ a, x = .ok a ∧ f a = b := by
  cases x with
  | error e => cases h
  | ok a => exact ⟨a, rfl, Except.ok.inj h⟩

/-! ## Objects put together -/

/-- What stands in an object after a value was put stood there before, or has that value. -/
theorem Entries.mem_or_eq_of_mem_put {es : Entries} {e : Key × Value} {k : Key} {v : Value}
    (h : e ∈ es.put k v) : e ∈ es ∨ e.2 = v := by
  induction es with
  | nil =>
    cases List.mem_singleton.1 h
    exact .inr rfl
  | cons f es ih =>
    rw [put] at h
    split at h
    · rcases List.mem_cons.1 h with rfl | h
      · exact .inr rfl
      · exact .inl (List.mem_cons_of_mem f h)
    · rcases List.mem_cons.1 h with rfl | h
      · exact .inl List.mem_cons_self
      · exact (ih h).imp_left (List.mem_cons_of_mem f)

/-- An overlay has no values but those of its parts. -/
theorem Entries.forall_mem_overlay {es fs : Entries} {p : Value → Prop} (hes : ∀ e ∈ es, p e.2)
    (hfs : ∀ e ∈ fs, p e.2) : ∀ e ∈ overlay es fs, p e.2 := by
  induction fs generalizing es with
  | nil => exact hes
  | cons f fs ih =>
    refine ih (fun e he => ?_) fun e he => hfs e (List.mem_cons_of_mem f he)
    rcases mem_or_eq_of_mem_put he with he | he
    · exact hes e he
    · rw [he]
      exact hfs f List.mem_cons_self

namespace Value

/-- An object that is put together from pairs. -/
theorem hasDistinctKeys_ofList {pairs : List (Key × Value)}
    (h : ∀ e ∈ pairs, e.2.HasDistinctKeys) : (object (Entries.ofList pairs)).HasDistinctKeys :=
  hasDistinctKeys_object_iff.2 ⟨Entries.distinctKeys_ofList pairs,
    Entries.forall_mem_overlay (fun _ he => absurd he List.not_mem_nil) h⟩

end Value

/-! ## JSON -/

namespace Json

open Value

theorem hasDistinctKeys_of_afterWord {word cs : List Char} {w v : Value} {rest : Rest cs}
    (hw : w.HasDistinctKeys) (h : afterWord word cs w = .ok (v, rest)) : v.HasDistinctKeys := by
  unfold afterWord at h
  split at h
  · cases h
    exact hw
  · cases h

theorem hasDistinctKeys_of_magnitude {negative : Bool} {cs : List Char} {v : Value}
    {rest : Rest cs} (h : magnitude negative cs = some (.ok (v, rest))) : v.HasDistinctKeys := by
  unfold magnitude at h
  split at h
  · cases h
  · dsimp only at h
    split at h
    · cases h
    · cases h
      split <;> exact hasDistinctKeys_leaf (by simp) (by simp)

/-- What follows behind the next mark is shorter. -/
theorem length_lt_of_skipBlanks {c : Char} {r r' : List Char} (h : skipBlanks r = c :: r') :
    (skipBlanks r').length < r.length := by
  have hr := length_skipBlanks_le r
  have hr' := length_skipBlanks_le r'
  rw [h, List.length_cons] at hr
  omega

/-- Whatever is read at the start of the text has distinct keys. -/
structure Distinct (cs : List Char) : Prop where
  value : ∀ room v rest, value room cs = .ok (v, rest) → v.HasDistinctKeys
  items : ∀ room xs rest, items room cs = .ok (xs, rest) → ∀ v ∈ xs, v.HasDistinctKeys
  members : ∀ room es rest, members room cs = .ok (es, rest) → ∀ e ∈ es, e.2.HasDistinctKeys

section

variable {cs : List Char} {room : Nat}
variable (shorter : ∀ r : List Char, r.length < cs.length → Distinct r)

include shorter

/-- Every value that is read has distinct keys, as have all shorter ones. -/
theorem hasDistinctKeys_of_value {v : Value} {rest : Rest cs}
    (h : value room cs = .ok (v, rest)) : v.HasDistinctKeys := by
  have word {word r : List Char} {w v : Value} {rest : Rest r} (ho : ∀ es, w ≠ .object es)
      (hl : ∀ xs, w ≠ .list xs) (h : afterWord word r w = .ok (v, rest)) : v.HasDistinctKeys :=
    hasDistinctKeys_of_afterWord (hasDistinctKeys_leaf ho hl) h
  unfold value at h
  split at h
  · cases h
  · obtain ⟨a, -, h⟩ := exists_of_bind_eq_ok h
    cases h
    exact hasDistinctKeys_leaf (by simp) (by simp)
  · dsimp only at h
    split at h
    · cases h
      exact hasDistinctKeys_ofList (List.forall_mem_nil _)
    · split at h
      · cases h
      · obtain ⟨⟨es, r⟩, hes, h⟩ := exists_of_bind_eq_ok h
        cases h
        have hshorter := shorter _ (Nat.lt_succ_of_le (length_skipBlanks_le _))
        exact hasDistinctKeys_ofList (hshorter.members _ _ _ hes)
  · dsimp only at h
    split at h
    · cases h
      exact hasDistinctKeys_list_iff.2 (List.forall_mem_nil _)
    · split at h
      · cases h
      · obtain ⟨⟨xs, r⟩, hxs, h⟩ := exists_of_bind_eq_ok h
        cases h
        have hshorter := shorter _ (Nat.lt_succ_of_le (length_skipBlanks_le _))
        exact hasDistinctKeys_list_iff.2 (hshorter.items _ _ _ hxs)
  · exact word (by simp) (by simp) h
  · exact word (by simp) (by simp) h
  · exact word (by simp) (by simp) h
  · exact word (by simp) (by simp) h
  · exact word (by simp) (by simp) h
  · split at h
    · rename_i hm
      cases h
      exact hasDistinctKeys_of_magnitude hm
    · cases h
    · exact word (by simp) (by simp) h
  · split at h
    · rename_i hm
      rw [h] at hm
      exact hasDistinctKeys_of_magnitude hm
    · cases h

theorem hasDistinctKeys_of_items {xs : List Value} {rest : Rest cs}
    (h : items room cs = .ok (xs, rest)) : ∀ v ∈ xs, v.HasDistinctKeys := by
  unfold items at h
  obtain ⟨⟨v, r, hr⟩, hv, h⟩ := exists_of_bind_eq_ok h
  have hfirst := hasDistinctKeys_of_value shorter hv
  dsimp only at h
  split at h
  · cases h
    exact List.forall_mem_singleton.2 hfirst
  · rename_i hcomma
    obtain ⟨⟨vs, r'⟩, hvs, h⟩ := exists_of_bind_eq_ok h
    cases h
    have hlt := Nat.lt_trans (length_lt_of_skipBlanks hcomma) hr
    exact List.forall_mem_cons.2 ⟨hfirst, (shorter _ hlt).items _ _ _ hvs⟩
  · cases h

/-- The values of an object are read like any others. -/
theorem hasDistinctKeys_of_members {es : List (Key × Value)} {rest : Rest cs}
    (h : members room cs = .ok (es, rest)) : ∀ e ∈ es, e.2.HasDistinctKeys := by
  unfold members at h
  split at h
  · obtain ⟨⟨k, r, hr⟩, -, h⟩ := exists_of_bind_eq_ok h
    dsimp only at h
    split at h
    · rename_i hcolon
      obtain ⟨⟨v, t, ht⟩, hv, h⟩ := exists_of_bind_eq_ok h
      have hlt := Nat.lt_succ_of_lt (Nat.lt_trans (length_lt_of_skipBlanks hcolon) hr)
      have hfirst := (shorter _ hlt).value _ _ _ hv
      dsimp only at h
      split at h
      · cases h
        exact List.forall_mem_singleton.2 hfirst
      · rename_i hcomma
        obtain ⟨⟨es, u⟩, hes, h⟩ := exists_of_bind_eq_ok h
        cases h
        have hlt' := Nat.lt_trans (Nat.lt_trans (length_lt_of_skipBlanks hcomma) ht) hlt
        exact List.forall_mem_cons.2 ⟨hfirst, (shorter _ hlt').members _ _ _ hes⟩
      · cases h
    · cases h
  · cases h

end

/-- By induction on the length of the text, whatever is read from it has distinct keys. -/
theorem distinct (cs : List Char) : Distinct cs := by
  -- by the length: an item is read from the text of its list, all else from a shorter text
  induction hn : cs.length using Nat.strongRecOn generalizing cs with
  | _ n ih =>
    have shorter (r : List Char) (hr : r.length < cs.length) : Distinct r :=
      ih r.length (hn ▸ hr) r rfl
    exact ⟨fun _ _ _ => hasDistinctKeys_of_value shorter,
      fun _ _ _ => hasDistinctKeys_of_items shorter,
      fun _ _ _ => hasDistinctKeys_of_members shorter⟩

theorem hasDistinctKeys_of_read {text : String} {v : Value} (h : read text = .ok v) :
    v.HasDistinctKeys := by
  unfold read at h
  cases hchars : readChars text.toList with
  | error stop =>
    rw [hchars] at h
    cases h
  | ok w =>
    rw [hchars] at h
    cases h
    unfold readChars at hchars
    split at hchars
    · cases hchars
    · obtain ⟨⟨u, r⟩, hu, hchars⟩ := exists_of_bind_eq_ok hchars
      dsimp only at hchars
      split at hchars
      · cases hchars
        exact (distinct _).value _ _ _ hu
      · cases hchars

end Json

/-! ## YAML -/

namespace Yaml

open Value

/-- A scalar is no collection. -/
theorem hasDistinctKeys_of_content {tag : Tag} {s : String} {v : Value}
    (h : content tag s = .ok v) : v.HasDistinctKeys := by
  unfold content at h
  split at h
  all_goals first
    | (obtain ⟨a, -, rfl⟩ := exists_of_map_eq_ok h
       exact hasDistinctKeys_leaf (by simp) (by simp))
    | (cases h
       exact hasDistinctKeys_leaf (by simp) (by simp))
    | cases h

namespace Node

theorem hasDistinctKeys_of_scalar? {n : Node} {v : Value} (h : n.scalar? = .ok (some v)) :
    v.HasDistinctKeys := by
  unfold scalar? at h
  split at h
  · cases h
  · split at h
    · cases h
    · split at h
      · cases h
      · obtain ⟨w, hw, hv⟩ := exists_of_map_eq_ok h
        cases hv
        exact hasDistinctKeys_of_content hw

/-- The mappings of a node are put together key by key. -/
theorem hasDistinctKeys_value (fuel : Nat) (n : Node) : (n.value fuel).HasDistinctKeys := by
  induction fuel generalizing n with
  | zero => exact hasDistinctKeys_leaf (by simp [value]) (by simp [value])
  | succ fuel ih =>
    unfold value
    split
    · exact hasDistinctKeys_leaf (by simp) (by simp)
    · rename_i hv
      exact hasDistinctKeys_of_scalar? hv
    · dsimp only
      split
      · exact hasDistinctKeys_list_iff.2 (List.forall_mem_map.2 fun x _ => ih x)
      · refine hasDistinctKeys_ofList fun e he => ?_
        obtain ⟨part, -, hpart⟩ := List.mem_filterMap.1 he
        obtain ⟨k, -, rfl⟩ := Option.map_eq_some_iff.1 hpart
        exact ih part.2
      · exact hasDistinctKeys_leaf (by simp) (by simp)
      · refine hasDistinctKeys_list_iff.2 (List.forall_mem_map.2 fun e _ => ?_)
        exact hasDistinctKeys_list_iff.2 (by simp [ih])

end Node

theorem hasDistinctKeys_of_read {text : String} {v : Value} (h : read text = .ok v) :
    v.HasDistinctKeys := by
  unfold read at h
  dsimp only at h
  split at h
  · cases h
  · obtain ⟨root, -, h⟩ := exists_of_bind_eq_ok h
    cases root with
    | none =>
      cases h
      exact hasDistinctKeys_leaf (by simp) (by simp)
    | some root =>
      dsimp only at h
      unfold Node.valueOf at h
      obtain ⟨_, -, h⟩ := exists_of_bind_eq_ok h
      obtain ⟨_, -, h⟩ := exists_of_bind_eq_ok h
      dsimp only at h
      split at h
      · cases h
      · cases h
        exact Node.hasDistinctKeys_value _ root

end Yaml

/-! ## Documents -/

namespace Document

open Value

theorem hasDistinctKeys_of_requireObject {v : Value} {es : Entries} (hv : v.HasDistinctKeys)
    (h : requireObject v = .ok es) : (object es).HasDistinctKeys := by
  unfold requireObject at h
  split at h
  · cases h
    exact hv
  · cases h
  · cases h

/-- A document in YAML has distinct keys, its merged mappings included. -/
theorem hasDistinctKeys_of_parseYaml {text : String} {error : Option Json.SyntaxError}
    {es : Entries} (h : parseYaml text error = .ok es) : (object es).HasDistinctKeys := by
  unfold parseYaml at h
  split at h
  · rename_i hv
    exact hasDistinctKeys_of_requireObject (Yaml.hasDistinctKeys_of_read hv) h
  · cases h
  · cases h
  · cases h

/-- So has one in either dialect. -/
theorem hasDistinctKeys_of_parse {dialect : Dialect} {text : String} {es : Entries}
    (h : parse dialect text = .ok es) : (object es).HasDistinctKeys := by
  unfold parse at h
  split at h
  · exact hasDistinctKeys_of_parseYaml h
  · split at h
    · rename_i hv
      exact hasDistinctKeys_of_requireObject (Json.hasDistinctKeys_of_read hv) h
    · split at h
      · cases h
      · split at h
        · cases h
        · exact hasDistinctKeys_of_parseYaml h

/-- **In a document that was loaded no object has a key twice.** -/
theorem hasDistinctKeys_of_load {files : Files} {stdin : Content} {source : String} {es : Entries}
    (h : load files stdin source = .ok es) : (object es).HasDistinctKeys := by
  unfold load at h
  split at h
  · cases h
  · split at h
    · split at h
      · cases h
      · split at h
        · cases h
        · exact hasDistinctKeys_of_parse h
    · split at h
      · cases h
      · cases h
      · split at h
        · cases h
        · exact hasDistinctKeys_of_parse h

end Document

end SdkModel
