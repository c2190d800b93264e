import SdkModel.Config.Resolve
import SdkModel.Proofs.Document.DistinctKeys
import SdkModel.Proofs.Schema.WellTyped
import SdkModel.Proofs.Typed.GlobalEnums

/-!
# Settings of a section

A section on generation gives each setting a value or leaves it out. It is read as the one
configuration that takes every setting from it (`Config.result_read_ok_iff`), and refused just when
some setting does not fit its value (`Config.result_read_error_iff`). What a configuration holds is
written so that it is read back (`Config.Setting.read_write`).
-/

namespace SdkModel

/-! ## Reading fields -/

namespace Coercion

/-- What is refused is given a reason. -/
def Reasoned {α : Type} (x : Except (List FieldFault) α) : Prop := ∀ fs, x = .error fs → fs ≠ []

section Reasoned

variable {α : Type} {x y : Except (List FieldFault) α}

theorem reasoned_ok (a : α) : Reasoned (.ok a) := nofun

theorem reasoned_fault (kind : FaultKind) : Reasoned (fault kind : Except _ α) := by
  rintro fs ⟨⟩
  exact List.cons_ne_nil _ _

theorem reasoned_ite {p : Prop} [Decidable p] (hx : Reasoned x) (hy : Reasoned y) :
    Reasoned (if p then x else y) := by
  split
  · exact hx
  · exact hy

/-- A reading that fails has faults. -/
theorem reasoned_result (r : Reading α) : Reasoned r.result := by
  intro fs h
  rw [Reading.result_eq] at h
  split at h
  · cases h
  · rename_i hne
    cases h
    exact hne

/-- Each of the coercions gives a reason when it fails. -/
theorem reasoned_flag (v : Value) : Reasoned (flag v) := by
  cases v with
  | bool b => exact reasoned_ok b
  | int i => exact reasoned_ite (reasoned_ok _) (reasoned_ite (reasoned_ok _) (reasoned_fault _))
  | float x =>
    dsimp only [flag]
    split
    · exact reasoned_ok false
    · exact reasoned_ok true
    · exact reasoned_fault _
  | text t => exact reasoned_ite (reasoned_ok _) (reasoned_ite (reasoned_ok _) (reasoned_fault _))
  | _ => exact reasoned_fault _

theorem reasoned_int (v : Value) : Reasoned (int v) := by
  cases v with
  | int i => exact reasoned_ok i
  | bool b => exact reasoned_ok _
  | float x =>
    dsimp only [int]
    split
    · exact reasoned_ite (reasoned_ok _) (reasoned_fault _)
    · exact reasoned_fault _
    · exact reasoned_fault _
  | text t =>
    dsimp only [int]
    split
    · exact reasoned_ok _
    · exact reasoned_fault _
  | _ => exact reasoned_fault _

theorem reasoned_text (v : Value) : Reasoned (text v) := by
  cases v with
  | text t => exact reasoned_ok t
  | _ => exact reasoned_fault _

theorem reasoned_list (read : Coercion α) (v : Value) : Reasoned (list read v) := by
  cases v with
  | list vs =>
    intro fs h
    dsimp only [list] at h
    split at h
    · cases h
    · rename_i hne
      cases h
      exact hne
  | _ => exact reasoned_fault _

theorem reasoned_positive (v : Value) : Reasoned (positive v) := by
  unfold positive
  cases hint : int v with
  | error fs =>
    rintro gs ⟨⟩
    exact reasoned_int v fs hint
  | ok i => exact reasoned_ite (reasoned_ok i) (reasoned_fault _)

/-- A positive number is at least one. -/
theorem one_le_of_positive {v : Value} {i : Int} (h : positive v = .ok i) : 1 ≤ i := by
  unfold positive at h
  obtain ⟨j, -, hj⟩ := exists_of_bind_eq_ok h
  split at hj
  · rename_i hle
    cases hj
    exact hle
  · cases hj

theorem positive_int {i : Int} (h : 1 ≤ i) : positive (.int i) = .ok i := if_pos h

theorem reasoned_record (read : Entries → Reading α) (v : Value) : Reasoned (record read v) := by
  cases v with
  | object es => exact reasoned_result (read es)
  | _ => exact reasoned_fault _

end Reasoned

end Coercion

namespace Reading

variable {α : Type} {es : Entries} {name : String} {default : α} {read : Coercion α}

/-- A field that is not stated has its default. -/
theorem field_of_none (h : es.get? (.text name) = none) :
    field es name default read = ⟨default, []⟩ := by
  rw [field, fieldUnder, h]

/-- A field that is stated has the value that is read of it. -/
theorem field_of_ok {v : Value} {a : α} (h : es.get? (.text name) = some v) (ha : read v = .ok a) :
    field es name default read = ⟨a, []⟩ := by
  rw [field, fieldUnder, h]
  simp only [ha]

/-- A field whose value cannot be read has a fault. -/
theorem faults_field_of_error {v : Value} {fs : List FieldFault}
    (h : es.get? (.text name) = some v) (hfs : read v = .error fs) (hne : fs ≠ []) :
    (field es name default read).faults ≠ [] := by
  rw [field, fieldUnder, h]
  simp only [hfs]
  simpa using hne

end Reading

namespace Config

/-- A setting of generation: its name, its default, how a value is read and written as one, and the
field that holds it. -/
structure Setting where
  {α : Type}
  name : String
  default : α
  read : Coercion α
  write : α → Value
  of : GenerationConfig → α

def settings : List Setting := [
  ⟨"qa_mode", false, .flag, .bool, (·.qaMode)⟩,
  ⟨"backend", "python", .text, .text, (·.backend)⟩,
  ⟨"hidden_overrides", [], .list .text, .texts, (·.hiddenOverrides)⟩,
  ⟨"max_schema_depth", 32, .positive, .int, (·.maxSchemaDepth)⟩,
  ⟨"strict_extensions", false, .flag, .bool, (·.strictExtensions)⟩]

namespace Setting

variable {s : Setting} {v? : Option Value} {a b : s.α} {es : Entries}

/-- The setting is what the value is read as, and the default without a value. -/
def Takes (s : Setting) (v? : Option Value) (a : s.α) : Prop :=
  match v? with
  | none => a = s.default
  | some v => s.read v = .ok a

/-- The value does not fit the setting. -/
def Refuses (s : Setting) (v? : Option Value) : Prop :=
  ∃ v, v? = some v ∧ ∀ a, s.read v ≠ .ok a

/-- A setting does not take and refuse the same value. -/
theorem Takes.not_refuses (h : s.Takes v? a) : ¬ s.Refuses v? := by
  rintro ⟨v, rfl, hv⟩
  exact hv _ h

/-- It takes a value in one way. -/
theorem Takes.unique (ha : s.Takes v? a) (hb : s.Takes v? b) : a = b := by
  cases v? with
  | none => exact Eq.trans ha (Eq.symm hb)
  | some v => exact Except.ok.inj (Eq.trans (Eq.symm ha) hb)

/-- The field of the setting in a section. -/
def field (s : Setting) (es : Entries) : Reading s.α := .field es s.name s.default s.read

theorem reasoned_read (hs : s ∈ settings) (v : Value) : Coercion.Reasoned (s.read v) := by
  simp only [settings, List.mem_cons, List.not_mem_nil, or_false] at hs
  rcases hs with rfl | rfl | rfl | rfl | rfl
  · exact Coercion.reasoned_flag v
  · exact Coercion.reasoned_text v
  · exact Coercion.reasoned_list _ v
  · exact Coercion.reasoned_positive v
  · exact Coercion.reasoned_flag v

/-- The field of a setting is faulty when the setting refuses its value, and holds what the setting
takes from the value otherwise. -/
theorem field_cases (hs : s ∈ settings) (es : Entries) :
    s.Refuses (es.get? (.text s.name)) ∧ (s.field es).faults ≠ [] ∨
      s.Takes (es.get? (.text s.name)) (s.field es).value ∧ (s.field es).faults = [] := by
  cases hget : es.get? (.text s.name) with
  | none =>
    rw [field, Reading.field_of_none hget]
    exact .inr ⟨rfl, rfl⟩
  | some v =>
    cases hread : s.read v with
    | error fs =>
      refine .inl ⟨⟨v, rfl, fun a ha => ?_⟩, ?_⟩
      · rw [hread] at ha
        cases ha
      · exact Reading.faults_field_of_error hget hread (reasoned_read hs v fs hread)
    | ok a =>
      rw [field, Reading.field_of_ok hget hread]
      exact .inr ⟨hread, rfl⟩

/-- The field of a setting has no faults just when the setting takes what stands there. -/
theorem faults_field_eq_nil_iff (hs : s ∈ settings) :
    (s.field es).faults = [] ↔ s.Takes (es.get? (.text s.name)) (s.field es).value := by
  rcases field_cases hs es with ⟨hrefuses, hfaults⟩ | ⟨htakes, hfaults⟩
  · exact iff_of_false hfaults fun htakes => htakes.not_refuses hrefuses
  · exact iff_of_true hfaults htakes

/-- It has some just when the setting refuses it. -/
theorem refuses_iff (hs : s ∈ settings) :
    s.Refuses (es.get? (.text s.name)) ↔ (s.field es).faults ≠ [] := by
  rcases field_cases hs es with ⟨hrefuses, hfaults⟩ | ⟨htakes, hfaults⟩
  · exact iff_of_true hrefuses hfaults
  · exact iff_of_false htakes.not_refuses (not_not_intro hfaults)

end Setting

/-! ## Sections -/

variable {c d : GenerationConfig} {es : Entries}

/-- Configurations with the same settings are the same. -/
theorem eq_of_settings (h : ∀ s ∈ settings, s.of c = s.of d) : c = d := by
  simp only [settings, List.forall_mem_cons] at h
  obtain ⟨hqa, hbackend, hoverrides, hdepth, hstrict, -⟩ := h
  cases c
  cases d
  simp_all

theorem faults_read (es : Entries) :
    (GenerationConfig.read es).faults = settings.flatMap fun s => (s.field es).faults := rfl

/-- What is read of a section is read setting by setting. -/
theorem of_read (es : Entries) :
    ∀ s ∈ settings, s.of (GenerationConfig.read es).value = (s.field es).value := by
  simp only [settings, List.forall_mem_cons]
  exact ⟨rfl, rfl, rfl, rfl, rfl, List.forall_mem_nil _⟩

/-- A section is read as the configuration that takes every setting from it. -/
theorem result_read_ok_iff : (GenerationConfig.read es).result = .ok c ↔
    ∀ s ∈ settings, s.Takes (es.get? (.text s.name)) (s.of c) := by
  rw [Reading.result_eq, faults_read]
  constructor
  · intro h s hs
    split at h
    · rename_i hfaults
      cases h
      rw [of_read es s hs, ← Setting.faults_field_eq_nil_iff hs]
      exact List.flatMap_eq_nil_iff.1 hfaults s hs
    · cases h
  · intro h
    have hfield : ∀ s ∈ settings, (s.field es).faults = [] ∧ (s.field es).value = s.of c := by
      intro s hs
      rcases Setting.field_cases hs es with ⟨hrefuses, -⟩ | ⟨htakes, hfaults⟩
      · exact absurd hrefuses (h s hs).not_refuses
      · exact ⟨hfaults, htakes.unique (h s hs)⟩
    rw [if_pos (List.flatMap_eq_nil_iff.2 fun s hs => (hfield s hs).1)]
    refine congrArg _ (eq_of_settings fun s hs => ?_)
    rw [of_read es s hs, (hfield s hs).2]

/-- A section is refused where a setting refuses its value. -/
theorem result_read_error_iff : (∃ fs, (GenerationConfig.read es).result = .error fs) ↔
    ∃ s ∈ settings, s.Refuses (es.get? (.text s.name)) := by
  have hfaults : (GenerationConfig.read es).faults ≠ [] ↔
      ∃ s ∈ settings, s.Refuses (es.get? (.text s.name)) := by
    rw [faults_read, ne_eq, List.flatMap_eq_nil_iff, not_forall₂]
    exact exists_congr fun s => ⟨fun ⟨hs, h⟩ => ⟨hs, (Setting.refuses_iff hs).2 h⟩,
      fun ⟨hs, h⟩ => ⟨hs, (Setting.refuses_iff hs).1 h⟩⟩
  rw [← hfaults, Reading.result_eq]
  split
  · rename_i hnil
    exact iff_of_false nofun (not_not_intro hnil)
  · rename_i hne
    exact iff_of_true ⟨_, rfl⟩ hne

/-- What a setting took from a section is read back from where it is written. -/
theorem Setting.read_write {s : Setting} {v? : Option Value} {a : s.α} (hs : s ∈ settings)
    (h : s.Takes v? a) : s.read (s.write a) = .ok a := by
  simp only [settings, List.mem_cons, List.not_mem_nil, or_false] at hs
  rcases hs with rfl | rfl | rfl | rfl | rfl
  · rfl
  · rfl
  · exact Coercion.list_texts a
  · refine Coercion.positive_int ?_
    cases v? with
    | none =>
      rw [show a = 32 from h]
      decide
    | some v => exact Coercion.one_le_of_positive h
  · rfl

/-- The default configuration takes nothing. -/
theorem takes_default : ∀ s ∈ settings, s.Takes none (s.of {}) := by
  simp only [settings, List.forall_mem_cons]
  exact ⟨rfl, rfl, rfl, rfl, rfl, List.forall_mem_nil _⟩

/-- A configuration that is written states each of its settings. -/
theorem get?_toEntries (c : GenerationConfig) : ∀ s ∈ settings,
    c.toEntries.get? (.text s.name) = some (s.write (s.of c)) := by
  simp only [settings, List.forall_mem_cons]
  exact ⟨rfl, rfl, rfl, rfl, rfl, List.forall_mem_nil _⟩

end Config

end SdkModel
