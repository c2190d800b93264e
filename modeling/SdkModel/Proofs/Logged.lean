import Mathlib.Data.List.Forall2
import SdkModel.Log

/-!
# Laws of logged computations

A sequence succeeds when both of its parts do and fails with the failure of the first part that
fails; its log is the log of the parts that were run. A computation is *quiet* when it succeeds
without writing anything, and a sequence is quiet when both of its parts are.
-/

namespace SdkModel.Logged

variable {ε α β : Type}

/-- A sequence succeeds when both of its parts do. -/
theorem bind_ok_iff {x : Logged ε α} {f : α → Logged ε β} {b : β} :
    (x >>= f).outcome = .ok b ↔ ∃ a, x.outcome = .ok a ∧ (f a).outcome = .ok b := by
  change (x.andThen f).outcome = .ok b ↔ _
  unfold andThen
  cases h : x.outcome <;> simp

/-- It fails with the first part that fails. -/
theorem bind_error_iff {x : Logged ε α} {f : α → Logged ε β} {e : ε} :
    (x >>= f).outcome = .error e ↔
      x.outcome = .error e ∨ ∃ a, x.outcome = .ok a ∧ (f a).outcome = .error e := by
  change (x.andThen f).outcome = .error e ↔ _
  unfold andThen
  cases h : x.outcome <;> simp

/-- A sequence whose first part answers ends as its second part. -/
theorem outcome_bind_of_ok {x : Logged ε α} {f : α → Logged ε β} {a : α}
    (h : x.outcome = .ok a) : (x >>= f).outcome = (f a).outcome := by
  change (x.andThen f).outcome = _
  rw [andThen, h]

/-- The second part writes when the first one has given an answer. -/
theorem mem_log_bind {x : Logged ε α} {f : α → Logged ε β} {r : LogRecord} :
    r ∈ (x >>= f).log ↔ r ∈ x.log ∨ ∃ a, x.outcome = .ok a ∧ r ∈ (f a).log := by
  change r ∈ (x.andThen f).log ↔ _
  unfold andThen
  cases h : x.outcome <;> simp

/-- Only what follows an answer that is given counts. -/
theorem bind_congr_ok {x : Logged ε α} {f g : α → Logged ε β}
    (h : ∀ a, x.outcome = .ok a → f a = g a) : x >>= f = x >>= g := by
  change x.andThen f = x.andThen g
  unfold andThen
  cases hx : x.outcome with
  | ok a => simp only [h a hx]
  | error e => rfl

@[simp] theorem outcome_pure (a : α) : (pure a : Logged ε α).outcome = .ok a := rfl

@[simp] theorem log_pure (a : α) : (pure a : Logged ε α).log = [] := rfl

@[simp] theorem outcome_ofExcept (x : Except ε α) : (ofExcept x).outcome = x := rfl

@[simp] theorem log_ofExcept (x : Except ε α) : (ofExcept x).log = [] := rfl

/-- The computation answers `a` and writes nothing. -/
def Quiet (x : Logged ε α) (a : α) : Prop := x = ⟨[], .ok a⟩

/-- The computation answers `a` and writes the log. -/
def Writes (x : Logged ε α) (log : Log) (a : α) : Prop := x = ⟨log, .ok a⟩

/-- A sequence writes what its parts write. -/
theorem Writes.bind {x : Logged ε α} {f : α → Logged ε β} {log log' : Log} {a : α} {b : β}
    (hx : Writes x log a) (hf : Writes (f a) log' b) : Writes (x >>= f) (log ++ log') b := by
  change x.andThen f = _
  simp only [Writes] at hx hf
  simp only [andThen, hx, hf]

/-- What follows a quiet computation writes all there is. -/
theorem Quiet.bind {x : Logged ε α} {f : α → Logged ε β} {log : Log} {a : α} {b : β}
    (hx : Quiet x a) (hf : Writes (f a) log b) : Writes (x >>= f) log b := Writes.bind hx hf

/-- A quiet computation is one that succeeds with an empty log. -/
theorem quiet_iff {x : Logged ε α} {a : α} : Quiet x a ↔ x.log = [] ∧ x.outcome = .ok a := by
  cases x
  simp [Quiet]

theorem quiet_pure_iff {a b : α} : Quiet (pure a : Logged ε α) b ↔ a = b := by
  simp [quiet_iff]

theorem quiet_ofExcept_iff {x : Except ε α} {a : α} : Quiet (ofExcept x) a ↔ x = .ok a := by
  simp [quiet_iff]

/-- A sequence is quiet when both of its parts are. -/
theorem quiet_bind_iff {x : Logged ε α} {f : α → Logged ε β} {b : β} :
    Quiet (x >>= f) b ↔ ∃ a, Quiet x a ∧ Quiet (f a) b := by
  change Quiet (x.andThen f) b ↔ _
  simp only [quiet_iff]
  unfold andThen
  cases h : x.outcome with
  | ok a => simp [List.append_eq_nil_iff, and_assoc]
  | error e => simp

/-- A quiet computation answers one value only. -/
theorem Quiet.unique {x : Logged ε α} {a b : α} (ha : Quiet x a) (hb : Quiet x b) : a = b := by
  have := ha.symm.trans hb
  simpa using this

/-! ## Changed answers -/

/-- A changed answer is given when an answer is. -/
theorem map_ok_iff {x : Logged ε α} {f : α → β} {b : β} :
    (f <$> x).outcome = .ok b ↔ ∃ a, x.outcome = .ok a ∧ f a = b := by
  change (x >>= fun a => pure (f a)).outcome = .ok b ↔ _
  rw [bind_ok_iff]
  simp

theorem map_error_iff {x : Logged ε α} {f : α → β} {e : ε} :
    (f <$> x).outcome = .error e ↔ x.outcome = .error e := by
  change (x >>= fun a => pure (f a)).outcome = .error e ↔ _
  rw [bind_error_iff]
  simp

/-- Changing the answer writes nothing. -/
theorem mem_log_map {x : Logged ε α} {f : α → β} {r : LogRecord} :
    r ∈ (f <$> x).log ↔ r ∈ x.log := by
  change r ∈ (x >>= fun a => pure (f a)).log ↔ _
  rw [mem_log_bind]
  simp

theorem quiet_map_iff {x : Logged ε α} {f : α → β} {b : β} :
    Quiet (f <$> x) b ↔ ∃ a, Quiet x a ∧ f a = b := by
  change Quiet (x >>= fun a => pure (f a)) b ↔ _
  simp only [quiet_bind_iff, quiet_pure_iff]

/-- What follows a changed answer is run on it at once. -/
theorem map_bind {γ : Type} (x : Logged ε α) (f : α → β) (g : β → Logged ε γ) :
    (f <$> x >>= g) = x >>= fun a => g (f a) := by
  change (x.andThen fun a => pure (f a)).andThen g = x.andThen fun a => g (f a)
  obtain ⟨log, outcome⟩ := x
  cases outcome with
  | ok a => simp [andThen]
  | error e => rfl

/-- The answer of a sequence is changed at its end. -/
theorem map_of_bind {γ : Type} (x : Logged ε α) (f : α → Logged ε β) (h : β → γ) :
    h <$> (x >>= f) = x >>= fun a => h <$> f a := by
  change (x.andThen f).andThen (fun b => pure (h b)) =
    x.andThen fun a => (f a).andThen fun b => pure (h b)
  obtain ⟨log, outcome⟩ := x
  cases outcome with
  | ok a =>
    simp only [andThen]
    cases (f a).outcome <;> simp
  | error e => rfl

/-! ## Lists of computations -/

/-- Runs a computation on the members of a list one after the other. -/
def each (f : α → Logged ε β) : List α → Logged ε (List β)
  | [] => return []
  | a :: as => do
    let b ← f a
    return b :: (← each f as)

section Each

variable {f : α → Logged ε β} {as : List α} {bs : List β} {a : α}

/-- Computations that agree on the members agree on the list. -/
theorem each_congr {g : α → Logged ε β} (h : ∀ a ∈ as, f a = g a) : each f as = each g as := by
  induction as with
  | nil => rfl
  | cons c as ih =>
    rw [each, each, h c List.mem_cons_self, ih fun a ha => h a (List.mem_cons_of_mem _ ha)]

/-- A list that is answered has all of its members answered. -/
theorem each_ok (h : (each f as).outcome = .ok bs) (ha : a ∈ as) :
    ∃ b, (f a).outcome = .ok b := by
  induction as generalizing bs with
  | nil => cases ha
  | cons c as ih =>
    obtain ⟨b, hb, h⟩ := bind_ok_iff.1 h
    obtain ⟨bs, hbs, -⟩ := bind_ok_iff.1 h
    rcases List.mem_cons.1 ha with rfl | ha
    · exact ⟨b, hb⟩
    · exact ih hbs ha

/-- A list is answered member by member. -/
theorem each_ok_iff : (each f as).outcome = .ok bs ↔
    List.Forall₂ (fun a b => (f a).outcome = .ok b) as bs := by
  induction as generalizing bs with
  | nil =>
    rw [each, outcome_pure, List.forall₂_nil_left_iff]
    exact ⟨fun h => (Except.ok.inj h).symm, fun h => congrArg Except.ok h.symm⟩
  | cons c as ih =>
    rw [each, bind_ok_iff, List.forall₂_cons_left_iff]
    refine exists_congr fun b => ?_
    rw [bind_ok_iff]
    simp only [ih, outcome_pure, Except.ok.injEq, exists_and_left, eq_comm (b := bs)]

/-- A list fails with the failure of one of its members. -/
theorem each_error {e : ε} (h : (each f as).outcome = .error e) :
    ∃ a ∈ as, (f a).outcome = .error e := by
  induction as with
  | nil => cases h
  | cons c as ih =>
    obtain h | ⟨b, -, h⟩ := bind_error_iff.1 h
    · exact ⟨c, List.mem_cons_self, h⟩
    · obtain h | ⟨bs, -, h⟩ := bind_error_iff.1 h
      · obtain ⟨a, ha, he⟩ := ih h
        exact ⟨a, List.mem_cons_of_mem _ ha, he⟩
      · cases h

/-- What a list writes is written by its members. -/
theorem mem_log_each {r : LogRecord} (h : r ∈ (each f as).log) : ∃ a ∈ as, r ∈ (f a).log := by
  induction as with
  | nil => cases h
  | cons c as ih =>
    obtain h | ⟨b, -, h⟩ := mem_log_bind.1 h
    · exact ⟨c, List.mem_cons_self, h⟩
    · obtain h | ⟨bs, -, h⟩ := mem_log_bind.1 h
      · obtain ⟨a, ha, hr⟩ := ih h
        exact ⟨a, List.mem_cons_of_mem _ ha, hr⟩
      · cases h

/-- The quiet answers on the members make up the answer on the list. -/
theorem quiet_each {g : α → β} (h : ∀ a ∈ as, Quiet (f a) (g a)) :
    Quiet (each f as) (as.map g) := by
  induction as with
  | nil => rfl
  | cons c as ih =>
    have has : Quiet (each f as) (as.map g) := ih fun a ha => h a (List.mem_cons_of_mem _ ha)
    exact quiet_bind_iff.2 ⟨g c, h c List.mem_cons_self, quiet_bind_iff.2 ⟨as.map g, has, rfl⟩⟩

/-- A list is quiet only when all of its members are. -/
theorem quiet_of_quiet_each (h : Quiet (each f as) bs) (ha : a ∈ as) : ∃ b, Quiet (f a) b := by
  induction as generalizing bs with
  | nil => cases ha
  | cons c as ih =>
    obtain ⟨b, hb, h⟩ := quiet_bind_iff.1 h
    obtain ⟨bs, hbs, -⟩ := quiet_bind_iff.1 h
    rcases List.mem_cons.1 ha with rfl | ha
    · exact ⟨b, hb⟩
    · exact ih hbs ha

end Each

end SdkModel.Logged
