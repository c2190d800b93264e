/-!
# Named lists

Schemas, properties and groups of operations are kept by name in the order of their first
occurrence. Putting a value under a name that is taken replaces the value and keeps the place.
-/

namespace SdkModel.Assoc

variable {α : Type}

/-- The list with a value put under a name. -/
def put (xs : List (String × α)) (name : String) (a : α) : List (String × α) :=
  match xs with
  | [] => [(name, a)]
  | x :: rest => if x.1 = name then (name, a) :: rest else x :: put rest name a

/-- The named list of pairs in which later pairs replace earlier ones of their name. -/
def ofPairs (pairs : List (String × α)) : List (String × α) :=
  pairs.foldl (fun xs p => put xs p.1 p.2) []

/-- The list with a value added at the end of the group of a name. -/
def addTo (groups : List (String × List α)) (name : String) (a : α) : List (String × List α) :=
  match groups with
  | [] => [(name, [a])]
  | g :: rest => if g.1 = name then (name, g.2 ++ [a]) :: rest else g :: addTo rest name a

def names (xs : List (String × α)) : List String := xs.map (·.1)

def has (xs : List (String × α)) (name : String) : Bool := xs.any (·.1 = name)

theorem lookup_cons_ite (m n : String) (b : α) (xs : List (String × α)) :
    ((m, b) :: xs).lookup n = if n = m then some b else xs.lookup n := by
  by_cases h : n = m
  · rw [h, List.lookup_cons_self, if_pos rfl]
  · have hne : (n == m) = false := beq_false_of_ne h
    rw [List.lookup_cons, hne, if_neg h]

theorem lookup_put (xs : List (String × α)) (name n : String) (a : α) :
    (put xs name a).lookup n = if n = name then some a else xs.lookup n := by
  induction xs with
  | nil => exact lookup_cons_ite name n a []
  | cons x rest ih =>
    obtain ⟨m, b⟩ := x
    unfold put
    by_cases h : m = name
    · subst h
      rw [if_pos rfl, lookup_cons_ite, lookup_cons_ite]
      split <;> rfl
    · rw [if_neg h, lookup_cons_ite, lookup_cons_ite, ih]
      by_cases hn : n = m
      · rw [if_pos hn, if_pos hn, if_neg (hn ▸ h)]
      · rw [if_neg hn, if_neg hn]

end SdkModel.Assoc
