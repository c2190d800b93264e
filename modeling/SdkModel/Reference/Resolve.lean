import SdkModel.Reference.Pointer

/-!
# Inlining references

A node with a reference is replaced by what it refers to, overlaid by the other entries of the node
and with the reference kept, so that names can still be taken from it. A reference that is already
being inlined further up is a cycle: its node stays as it is, with a warning.

`pending` holds the references of the document that are not being inlined on the branch at hand.
Following one takes it off, and every other step goes to a smaller node, so inlining ends on every
document, however its references run.
-/

namespace SdkModel

mutual

/-- Every textual reference in a value. -/
def Value.references : Value → List String
  | .object es => (Entries.reference? es).toList ++ entriesReferences es
  | .list xs => itemsReferences xs
  | _ => []

def itemsReferences : List Value → List String
  | [] => []
  | v :: vs => v.references ++ itemsReferences vs

def entriesReferences : List (Key × Value) → List String
  | [] => []
  | (_, v) :: es => v.references ++ entriesReferences es

end

namespace Reference

def cycleWarning (reference : String) : String :=
  "Reference cycle through " ++ reference ++ " left unresolved"

/-- The entries of a node without its reference. -/
def siblings (es : Entries) : Entries := es.filter fun e => !e.1.same (.text referenceKey)

/-- What stands for a node with a reference, from what the reference and the other entries resolve
to. Only an object can be overlaid; any other target replaces the node. -/
def merge (reference : String) (target : Value) (others : Entries) : Value :=
  match target with
  | .object base =>
    .object ((Entries.overlay base others).put (.text referenceKey) (.text reference))
  | v => v

theorem length_without_lt {pending : List String} {r : String} (h : r ∈ pending) :
    (pending.filter (· ≠ r)).length < pending.length := by
  rw [← List.countP_eq_length_filter]
  refine Nat.lt_of_le_of_ne List.countP_le_length fun he => ?_
  have := List.countP_eq_length.1 he r h
  simp at this

mutual

/-- A value with its references inlined. -/
def inlineValue (root : Value) (pending : List String) (node : Value) : Build Value :=
  match node with
  | .object es =>
    match Entries.reference? es with
    | none => do return .object (← inlineEntries root pending es)
    | some reference =>
      if _h : reference ∈ pending then do
        let target ← Logged.ofExcept ((Pointer.follow root reference).mapError .document)
        let target ← inlineValue root (pending.filter (· ≠ reference)) target
        let others ← inlineEntries root pending es
        return merge reference target (siblings others)
      else do
        .write .warning (cycleWarning reference)
        return .object es
  | .list xs => do return .list (← inlineItems root pending xs)
  | v => return v
termination_by (pending.length, sizeOf node)
decreasing_by
  · simp [Prod.lex_def]
  · exact Prod.Lex.left _ _ (length_without_lt _h)
  · simp [Prod.lex_def]
  · simp [Prod.lex_def]

def inlineItems (root : Value) (pending : List String) (xs : List Value) : Build (List Value) :=
  match xs with
  | [] => return []
  | v :: vs => do
    let v ← inlineValue root pending v
    return v :: (← inlineItems root pending vs)
termination_by (pending.length, sizeOf xs)
decreasing_by all_goals exact Prod.Lex.right _ (by simp only [List.cons.sizeOf_spec]; omega)

def inlineEntries (root : Value) (pending : List String) (es : List (Key × Value)) :
    Build (List (Key × Value)) :=
  match es with
  | [] => return []
  | (k, v) :: es => do
    let v ← inlineValue root pending v
    return (k, v) :: (← inlineEntries root pending es)
termination_by (pending.length, sizeOf es)
decreasing_by
  all_goals
    refine Prod.Lex.right _ ?_
    simp only [List.cons.sizeOf_spec, Prod.mk.sizeOf_spec]
    omega

end

/-- The document with its references inlined. The walk follows it to any depth: the limit on nesting
that a run has (`Limit.nesting`) binds the readers of texts and is left out here. -/
def resolve (document : Value) : Build Value :=
  inlineValue document document.references document

end Reference

end SdkModel
