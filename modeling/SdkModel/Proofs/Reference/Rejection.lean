import SdkModel.Proofs.Reference.Inline

/-!
# Documents that are rejected

Inlining fails exactly on the documents that hold a bad reference somewhere, siblings of references
included (`resolve_error_iff_bad`), and the failure is the error of such a reference. One half
follows a failure down to the reference that caused it (`error_cause`). The other half uses that
every node of the document is entered with an empty stack: a cycle hides the siblings of a node on
the branch that runs into it, but never on the branch that descends to the node.
-/

namespace SdkModel.Reference

variable {document : Value}

/-- A failure is the error of following a reference of the document. -/
theorem error_cause {pending : List String} {node : Value} {f : Failure}
    (hnode : Value.Holds node document)
    (h : (inlineValue document pending node).outcome = .error f) :
    ∃ es r e, Value.Holds (.object es) document ∧ Entries.reference? es = some r ∧
      Pointer.follow document r = .error e ∧ f = .document e := by
  induction pending, node using inline_induction with
  | plain pending es hr ih =>
    rw [inlineValue_plain hr, Logged.bind_error_iff] at h
    obtain h | ⟨_, -, h⟩ := h
    · obtain ⟨k, v, hv, hf⟩ := inlineEntries_error h
      exact ih k v hv ((holds_entry hv).trans hnode) hf
    · cases h
  | reference pending es r hr hp iht ihe =>
    obtain ⟨e, he, hf⟩ | ⟨target, ht, hf | hf⟩ := inlineValue_reference_error hr hp h
    · exact ⟨es, r, e, hnode, hr, he, hf⟩
    · exact iht target (Pointer.holds_of_follow ht) hf
    · obtain ⟨k, v, hv, hf⟩ := inlineEntries_error hf
      exact ihe k v hv ((holds_entry hv).trans hnode) hf
  | cycle pending es r hr hp =>
    rw [inlineValue_cycle hr hp] at h
    cases h
  | list pending xs ih =>
    rw [inlineValue_list, Logged.bind_error_iff] at h
    obtain h | ⟨_, -, h⟩ := h
    · obtain ⟨v, hv, hf⟩ := inlineItems_error h
      exact ih v hv ((holds_item hv).trans hnode) hf
    · cases h
  | leaf pending v ho hl =>
    rw [inlineValue_leaf ho hl] at h
    cases h

/-- In a document that resolves every reference can be followed. -/
theorem follow_ok_of_resolve_ok {result : Value} (hres : (resolve document).outcome = .ok result)
    {es : Entries} (h : Value.Holds (.object es) document) {r : String}
    (hr : es.reference? = some r) : ∃ target, Pointer.follow document r = .ok target := by
  have hreach := reached_of_holds h
  obtain ⟨w, hw⟩ := ok_of_reached hres hreach
  have hp := (mem_openReferences_of_reached hreach hr).2 List.not_mem_nil
  obtain ⟨target, _, _, ht, -⟩ := inlineValue_reference_ok hr hp hw
  exact ⟨target, ht⟩

/-- Resolving either answers or fails with the error of a reference of the document. -/
theorem resolve_ok_or_error (document : Value) :
    (∃ result, (resolve document).outcome = .ok result) ∨
      ∃ es r e, Value.Holds (.object es) document ∧ Entries.reference? es = some r ∧
        Pointer.follow document r = .error e ∧
        (resolve document).outcome = .error (.document e) := by
  cases h : (resolve document).outcome with
  | ok result => exact .inl ⟨result, rfl⟩
  | error f =>
    obtain ⟨es, r, e, hes, hr, he, rfl⟩ := error_cause .self h
    exact .inr ⟨es, r, e, hes, hr, he, rfl⟩

/-- **A document is rejected exactly when it holds a bad reference**: an object, at any depth and
next to a reference as well, whose reference is not internal or names a place that the document does
not have. Every other document resolves, and nothing else goes wrong on any document. -/
theorem resolve_error_iff_bad (document : Value) :
    ((∃ e, (resolve document).outcome = .error (.document e)) ↔
      ∃ es r, Value.Holds (.object es) document ∧ Entries.reference? es = some r ∧
        Pointer.IsBad document r) ∧
    ((∃ result, (resolve document).outcome = .ok result) ∨
      ∃ e, (resolve document).outcome = .error (.document e)) := by
  refine ⟨⟨?_, ?_⟩, ?_⟩
  · rintro ⟨e, he⟩
    obtain ⟨result, hok⟩ | ⟨es, r, e', hes, hr, hf, -⟩ := resolve_ok_or_error document
    · rw [hok] at he
      cases he
    · exact ⟨es, r, hes, hr, Pointer.follow_error_iff.1 ⟨e', hf⟩⟩
  · rintro ⟨es, r, hes, hr, hbad⟩
    obtain ⟨result, hok⟩ | ⟨_, _, e, -, -, -, he⟩ := resolve_ok_or_error document
    · obtain ⟨target, ht⟩ := follow_ok_of_resolve_ok hok hes hr
      obtain ⟨e, he⟩ := Pointer.follow_error_iff.2 hbad
      rw [ht] at he
      cases he
    · exact ⟨e, he⟩
  · obtain hok | ⟨_, _, e, -, -, -, he⟩ := resolve_ok_or_error document
    · exact .inl hok
    · exact .inr ⟨e, he⟩

end SdkModel.Reference
