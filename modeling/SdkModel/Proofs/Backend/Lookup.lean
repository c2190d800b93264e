import SdkModel.Proofs.Logged
import SdkModel.Typed.Backend

/-!
# Look-ups after any calls

A registry discovers plugins at most once on its own and whenever it is told to, it takes no plugin
in under a name that is taken, and only a registration replaces what a name has. So the time of
discovery does not show: after any calls a name stands for the backend that was registered under it
last, or else for the built-in one, or else for the first plugin of the name that is a backend
(`Typed.find_afterCalls`).
-/

namespace SdkModel

open Logged (bind_ok_iff bind_error_iff)

/-! ## Named lists -/

theorem Assoc.has_iff {α : Type} {xs : List (String × α)} {n : String} :
    Assoc.has xs n = true ↔ (xs.lookup n).isSome = true := by
  induction xs with
  | nil => exact iff_of_false nofun nofun
  | cons x xs ih =>
    obtain ⟨m, a⟩ := x
    rw [lookup_cons_ite]
    by_cases h : n = m
    · subst h
      simp [has]
    · rw [if_neg h, ← ih]
      simp [has, Ne.symm h]

theorem Assoc.mem_names_iff {α : Type} {xs : List (String × α)} {n : String} :
    n ∈ Assoc.names xs ↔ (xs.lookup n).isSome = true := by
  rw [← has_iff]
  simp [names, has]

/-- Under a name that is free, a pair at the end is found; other names are not affected. -/
theorem Assoc.lookup_concat {α : Type} (xs : List (String × α)) (m n : String) (a : α) :
    (xs ++ [(m, a)]).lookup n = (xs.lookup n).or (if n = m then some a else none) := by
  rw [List.lookup_append, lookup_cons_ite]
  rfl

/-- A call on a registry. -/
inductive RegistryCall (β : Type) where
  | register (name : String) (b : β)
  | discover
  | names
  | get (name : String)

namespace BackendRegistry

variable {β : Type} (plugins : List (Plugin β))

/-- The registry after a call. A name that is looked up in vain leaves what was discovered for
it. -/
def afterCall (r : BackendRegistry β) : RegistryCall β → Build (BackendRegistry β)
  | .register name b => r.register name b
  | .discover => do return (← r.discover plugins).1
  | .names => do return (← r.names plugins).1
  | .get name => r.lookupTable plugins name

def afterCalls (r : BackendRegistry β) : List (RegistryCall β) → Build (BackendRegistry β)
  | [] => return r
  | c :: calls => do afterCalls (← r.afterCall plugins c) calls

/-- The backend of a name, looked up in the registry as it then is. -/
def find (r : BackendRegistry β) (name : String) : Build β := do
  let table ← r.lookupTable plugins name
  table.get name

/-! ## What a name stands for -/

/-- The backend that a call registers under a name. -/
def registered? (name : String) : RegistryCall β → Option β
  | .register n b => if name = n then some b else none
  | _ => none

def lastRegistered? (name : String) (calls : List (RegistryCall β)) : Option β :=
  (calls.filterMap (registered? name)).getLast?

/-- The backend that a plugin of the group brings under a name. -/
def installed? (name : String) (p : Plugin β) : Option β :=
  if p.group = pluginGroup ∧ name = p.name then
    match p.content with
    | .backend b => some b
    | _ => none
  else none

def firstInstalled? (name : String) : Option β := plugins.findSome? (installed? name)

theorem lastRegistered?_concat (name : String) (calls : List (RegistryCall β))
    (c : RegistryCall β) : lastRegistered? name (calls ++ [c]) =
      (registered? name c).or (lastRegistered? name calls) := by
  rw [lastRegistered?, List.filterMap_append]
  cases h : registered? name c with
  | none => simp [h, lastRegistered?]
  | some b => simp [h]

/-! ## One discovery -/

variable {plugins} {r start : BackendRegistry β} {done calls : List (RegistryCall β)}
variable {name : String}

theorem lookup_take (d : Discovery β) (p : Plugin β) (name : String) :
    (d.take p).entries.lookup name = (d.entries.lookup name).or (installed? name p) := by
  unfold Discovery.take installed?
  by_cases hgroup : p.group = pluginGroup
  · by_cases htaken : Assoc.has d.entries p.name = true
    · have hfound := Assoc.has_iff.1 htaken
      rw [if_pos (by simp [htaken])]
      by_cases hname : name = p.name
      · subst hname
        obtain ⟨b, hb⟩ := Option.isSome_iff_exists.1 hfound
        rw [hb, Option.some_or]
      · rw [if_neg fun h => hname h.2, Option.or_none]
    · rw [if_neg (by simp [hgroup, htaken])]
      cases p.content with
      | backend b =>
        simp only [Assoc.lookup_concat, hgroup, true_and]
      | foreign => simp
      | broken reason => simp
  · rw [if_pos (by simp [hgroup]), if_neg fun h => hgroup h.1, Option.or_none]

/-- Discovery adds the first installed backend under each name that is free. -/
theorem lookup_discovery (r : BackendRegistry β) (plugins : List (Plugin β)) (name : String) :
    (r.discovery plugins).entries.lookup name =
      (r.entries.lookup name).or (firstInstalled? plugins name) := by
  have hfold (d : Discovery β) : (plugins.foldl Discovery.take d).entries.lookup name =
      (d.entries.lookup name).or (firstInstalled? plugins name) := by
    induction plugins generalizing d with
    | nil => rw [firstInstalled?, List.findSome?_nil, Option.or_none, List.foldl_nil]
    | cons p plugins ih =>
      rw [List.foldl_cons, ih, lookup_take, Option.or_assoc, firstInstalled?, firstInstalled?,
        List.findSome?_cons]
      cases installed? name p with
      | none => rfl
      | some b => rfl
  exact hfold ⟨r.entries, [], []⟩

/-! ## Any calls -/

/-- What the names of a registry stand for after calls on `start`: plugins count once they are
discovered. -/
def Settled (plugins : List (Plugin β)) (start : BackendRegistry β)
    (done : List (RegistryCall β)) (r : BackendRegistry β) : Prop :=
  ∀ name, r.entries.lookup name =
    ((lastRegistered? name done).or (start.entries.lookup name)).or
      (if r.discovered then firstInstalled? plugins name else none)

theorem settled_start (h : start.discovered = false) : Settled plugins start [] start := by
  intro name
  rw [h]
  exact (Option.or_none).symm

/-- A call that registers nothing leaves the names that were registered. -/
theorem Settled.concat {c : RegistryCall β} (h : Settled plugins start done r)
    (hc : ∀ name, registered? name c = none) : Settled plugins start (done ++ [c]) r := by
  intro name
  rw [h name, lastRegistered?_concat, hc name, Option.none_or]

theorem Settled.discovery (h : Settled plugins start done r) :
    Settled plugins start done ⟨(r.discovery plugins).entries, true⟩ := by
  intro name
  rw [lookup_discovery, h name, Option.or_assoc]
  by_cases hdiscovered : r.discovered = true
  · rw [hdiscovered]
    simp
  · rw [Bool.not_eq_true] at hdiscovered
    rw [hdiscovered]
    simp

theorem Settled.discoverOnce (h : Settled plugins start done r) :
    ∃ found, (r.discoverOnce plugins).outcome = .ok found ∧ found.discovered = true ∧
      Settled plugins start done found := by
  unfold BackendRegistry.discoverOnce
  by_cases hdiscovered : r.discovered = true
  · rw [if_pos hdiscovered]
    exact ⟨r, rfl, hdiscovered, h⟩
  · rw [if_neg hdiscovered]
    exact ⟨_, rfl, rfl, h.discovery⟩

/-- In the table of a look-up the name has what it stands for. -/
theorem Settled.lookupTable (h : Settled plugins start done r) (name : String) :
    ∃ table, (r.lookupTable plugins name).outcome = .ok table ∧
      Settled plugins start done table ∧
      (table.discovered = true ∨ (table.entries.lookup name).isSome = true) := by
  unfold BackendRegistry.lookupTable
  by_cases hhas : Assoc.has r.entries name = true
  · rw [if_pos hhas]
    exact ⟨r, rfl, h, .inr (Assoc.has_iff.1 hhas)⟩
  · rw [if_neg hhas]
    obtain ⟨found, hfound, hdiscovered, hsettled⟩ := h.discoverOnce
    exact ⟨found, hfound, hsettled, .inl hdiscovered⟩

theorem Settled.afterCall (h : Settled plugins start done r) (c : RegistryCall β) :
    ∃ next, (r.afterCall plugins c).outcome = .ok next ∧
      Settled plugins start (done ++ [c]) next := by
  cases c with
  | register n b =>
    refine ⟨{ r with entries := Assoc.put r.entries n b }, rfl, ?_⟩
    intro name
    rw [Assoc.lookup_put, lastRegistered?_concat, registered?]
    by_cases hname : name = n
    · rw [if_pos hname, if_pos hname]
      rfl
    · rw [if_neg hname, if_neg hname, h name, Option.none_or]
  | discover => exact ⟨_, rfl, h.discovery.concat fun _ => rfl⟩
  | names =>
    obtain ⟨found, hfound, -, hsettled⟩ := h.discoverOnce
    refine ⟨found, ?_, hsettled.concat fun _ => rfl⟩
    rw [BackendRegistry.afterCall, BackendRegistry.names, bind_ok_iff]
    exact ⟨(found, found.sortedNames), bind_ok_iff.2 ⟨found, hfound, rfl⟩, rfl⟩
  | get n =>
    obtain ⟨table, htable, hsettled, -⟩ := h.lookupTable n
    exact ⟨table, htable, hsettled.concat fun _ => rfl⟩

theorem Settled.afterCalls (h : Settled plugins start done r) (calls : List (RegistryCall β)) :
    ∃ last, (r.afterCalls plugins calls).outcome = .ok last ∧
      Settled plugins start (done ++ calls) last := by
  induction calls generalizing done r with
  | nil =>
    rw [List.append_nil]
    exact ⟨r, rfl, h⟩
  | cons c calls ih =>
    obtain ⟨next, hnext, hsettled⟩ := h.afterCall c
    obtain ⟨last, hlast, hsettled⟩ := ih hsettled
    rw [List.append_assoc, List.singleton_append] at hsettled
    exact ⟨last, bind_ok_iff.2 ⟨next, hnext, hlast⟩, hsettled⟩

/-! ## Look-ups -/

/-- What a name stands for after calls on a registry that begins as `start`. -/
def standsFor? (plugins : List (Plugin β)) (start : BackendRegistry β)
    (calls : List (RegistryCall β)) (name : String) : Option β :=
  ((lastRegistered? name calls).or (start.entries.lookup name)).or (firstInstalled? plugins name)

theorem Settled.lookup_eq (h : Settled plugins start done r)
    (hfound : r.discovered = true ∨ (r.entries.lookup name).isSome = true) :
    r.entries.lookup name = standsFor? plugins start done name := by
  rw [standsFor?, h name]
  rcases hfound with hdiscovered | hsome
  · rw [hdiscovered, if_pos rfl]
  · by_cases hdiscovered : r.discovered = true
    · rw [hdiscovered, if_pos rfl]
    · rw [h name, if_neg hdiscovered, Option.or_none] at hsome
      obtain ⟨b, hb⟩ := Option.isSome_iff_exists.1 hsome
      rw [hb, Option.some_or, Option.some_or]

/-- A look-up answers what the name stands for, or says that no backend has the name and which names
have one. -/
theorem Settled.find (h : Settled plugins start done r) (name : String) :
    (∀ b, standsFor? plugins start done name = some b →
      (r.find plugins name).outcome = .ok b) ∧
    (standsFor? plugins start done name = none → ∃ available,
      (r.find plugins name).outcome = .error (.unknownBackend name available) ∧
        ∀ n, n ∈ available ↔ (standsFor? plugins start done n).isSome = true) := by
  obtain ⟨table, htable, hsettled, hfound⟩ := h.lookupTable name
  have hlookup := hsettled.lookup_eq hfound
  constructor
  · intro b hb
    refine bind_ok_iff.2 ⟨table, htable, ?_⟩
    change table.get name = .ok b
    rw [get, hlookup, hb]
  · intro hnone
    have hdiscovered : table.discovered = true := by
      rcases hfound with hdiscovered | hsome
      · exact hdiscovered
      · rw [hlookup, hnone] at hsome
        cases hsome
    refine ⟨table.sortedNames, bind_error_iff.2 (.inr ⟨table, htable, ?_⟩), fun n => ?_⟩
    · change table.get name = _
      rw [get, hlookup, hnone]
    · rw [← hsettled.lookup_eq (.inl hdiscovered), ← Assoc.mem_names_iff, sortedNames, sortTexts]
      exact (sortByName_perm id _).mem_iff

end BackendRegistry

namespace Typed

open BackendRegistry

/-- What a name stands for after calls: the backend that was registered under it last, or else the
reference backend under its own name, or else the first one that is installed under the name. -/
def backendNamed? (plugins : List (Plugin Backend)) (calls : List (RegistryCall Backend))
    (name : String) : Option Backend :=
  match lastRegistered? name calls with
  | some b => some b
  | none => if name = "python" then some backend else firstInstalled? plugins name

theorem backendNamed?_eq (plugins : List (Plugin Backend)) (calls : List (RegistryCall Backend))
    (name : String) :
    backendNamed? plugins calls name = standsFor? plugins registry calls name := by
  have hstart : registry.entries.lookup name = if name = "python" then some backend else none :=
    Assoc.lookup_cons_ite "python" name backend []
  rw [backendNamed?, standsFor?, hstart]
  cases lastRegistered? name calls with
  | some b => rfl
  | none =>
    by_cases hname : name = "python"
    · rw [if_pos hname, if_pos hname]
      rfl
    · rw [if_neg hname, if_neg hname]
      rfl

/-- **The time of discovery does not show.** Whatever is called on the registry of a run, a name is
then looked up as what it stands for; where it stands for nothing the failure lists the names that
stand for a backend. -/
theorem find_afterCalls (plugins : List (Plugin Backend)) (calls : List (RegistryCall Backend))
    (name : String) :
    ∃ r, (registry.afterCalls plugins calls).outcome = .ok r ∧
      match backendNamed? plugins calls name with
      | some b => (r.find plugins name).outcome = .ok b
      | none => ∃ available,
          (r.find plugins name).outcome = .error (.unknownBackend name available) ∧
            ∀ n, n ∈ available ↔ (backendNamed? plugins calls n).isSome = true := by
  have hstart : Settled plugins registry [] registry := settled_start rfl
  obtain ⟨r, hr, hsettled⟩ := hstart.afterCalls calls
  obtain ⟨hfound, hmissing⟩ := hsettled.find name
  refine ⟨r, hr, ?_⟩
  simp only [backendNamed?_eq]
  cases hname : standsFor? plugins registry calls name with
  | some b => exact hfound b hname
  | none => exact hmissing hname

/-- A plugin that is no backend leaves its name to the next one. -/
example : backendNamed? [⟨"go", pluginGroup, .foreign⟩, ⟨"go", pluginGroup, .backend backend⟩]
    [.get "go", .discover] "go" = some backend := rfl

end Typed

end SdkModel
