import SdkModel.Proofs.Config.Settings
import SdkModel.Proofs.Schema.Traversal

/-!
# Sources of settings

The command line, the environment, the project configuration and the user configuration give
settings, in this order of weight. What can be wrong with a source is told apart stage by stage: the
user configuration (`Config.user_cases`), the project configuration (`Config.project_cases`) and the
environment (`Config.environment_cases`).
-/

namespace SdkModel

namespace Config

/-! ## Sources -/

/-- Where a setting can be given, first what counts most. -/
inductive Source where
  | flags
  | environment
  | project
  | user
deriving DecidableEq, Repr

def sources : List Source := [.flags, .environment, .project, .user]

/-- What the reader makes of a file, if there is one. -/
def content? (h : Host) (path : String) : Option (Except Json.SyntaxError Value) :=
  (h.files.read? path).map parsed

/-- The section on generation of a file. -/
def sectionOf : Option (Except Json.SyntaxError Value) → Entries
  | some (.ok v) => ((v.field "generation").entries?).getD []
  | _ => []

/-- The word that a variable holds. -/
def wordOf (raw : String) : String := String.ofList (Text.lowerAll (Text.trim raw).toList)

/-- The value when it is not null. -/
def stated? : Value → Option Value
  | .null => none
  | v => some v

/-- The value that a source gives a setting. -/
def given? (h : Host) (flags : GenerationFlags) (name : String) : Source → Option Value
  | .flags =>
    if name = "qa_mode" then stated? flags.qaMode
    else if name = "backend" then stated? flags.backend
    else none
  | .environment =>
    if name = "qa_mode" then (h.env? qaVariable).map fun raw => .bool (wordOf raw ∈ trueWords)
    else if name = "backend" then (h.telling? backendVariable).map .text
    else none
  | .project => (sectionOf (content? h Host.projectConfigPath)).get? (.text name)
  | .user => (sectionOf (content? h h.userConfigPath)).get? (.text name)

/-- The value that the first source gives that gives any. -/
def selected? (h : Host) (flags : GenerationFlags) (name : String) : Option Value :=
  sources.findSome? (given? h flags name)

/-- Every setting is taken from the first source that gives it. -/
def TakesFirst (h : Host) (flags : GenerationFlags) (c : GenerationConfig) : Prop :=
  ∀ s ∈ settings, s.Takes (selected? h flags s.name) (s.of c)

/-- What is wrong with the sources. The variable on hidden nodes has to hold a truth value even
where the command line gives another one. -/
inductive Rejects (h : Host) (flags : GenerationFlags) : Prop
  | unreadable {path : String} {e : Json.SyntaxError}
      (hpath : path = h.userConfigPath ∨ path = Host.projectConfigPath)
      (hread : content? h path = some (.error e)) : Rejects h flags
  | invalidUser {v : Value} (hread : content? h h.userConfigPath = some (.ok v))
      (hfaulty : ∀ g, GlobalConfig.coercion v ≠ .ok g) : Rejects h flags
  | projectNotObject {v : Value} (hread : content? h Host.projectConfigPath = some (.ok v))
      (hother : v.entries? = none) : Rejects h flags
  | sectionNotObject {es : Entries} {v : Value}
      (hread : content? h Host.projectConfigPath = some (.ok (.object es)))
      (hv : es.get? (.text "generation") = some v) (hother : v.entries? = none) :
      Rejects h flags
  | notBoolean {raw : String} (hset : h.env? qaVariable = some raw)
      (hword : wordOf raw ∉ trueWords ++ falseWords) : Rejects h flags
  | refused {s : Setting} (hs : s ∈ settings) (hrefuses : s.Refuses (selected? h flags s.name)) :
      Rejects h flags

/-- The file nests deeper than the reader goes. -/
def TooDeep (h : Host) (path : String) : Prop :=
  ∃ e, content? h path = some (.error e) ∧ e.limit? = some .nesting

/-- There is no user configuration, or it is read and valid. -/
def AcceptsUser (h : Host) : Prop :=
  ∀ r, content? h h.userConfigPath = some r → ∃ v g, r = .ok v ∧ GlobalConfig.coercion v = .ok g

/-- A file is too deep that is reached: the user configuration, or that of the project behind a
user configuration that is accepted. -/
inductive Overflows (h : Host) : Prop
  | user (hdeep : TooDeep h h.userConfigPath) : Overflows h
  | project (huser : AcceptsUser h) (hdeep : TooDeep h Host.projectConfigPath) : Overflows h

/-! ## The user configuration -/

variable {h : Host} {flags : GenerationFlags} {e : Json.SyntaxError} {v : Value}
variable {path : String} {es : Entries}

/-- How a file ends that cannot be read. -/
def unreadable (label path : String) (e : Json.SyntaxError) : Failure :=
  if e.limit? = some .nesting then .malformed (.limit .nesting)
  else .config (.invalidJson label path e)

/-- A file is refused only for what the reader makes of it. -/
theorem readJson_eq (label path : String) (content : Content) :
    readJson label path content = (parsed content).mapError (unreadable label path) := by
  unfold readJson unreadable
  cases parsed content with
  | ok v => rfl
  | error e =>
    dsimp only [Except.mapError]
    split <;> rfl

/-- A configuration that is there is read from a file. -/
theorem exists_of_content? (label : String) {r : Except Json.SyntaxError Value}
    (hread : content? h path = some r) :
    ∃ content, h.files.read? path = some content ∧
      readJson label path content = r.mapError (unreadable label path) := by
  obtain ⟨content, hcontent, rfl⟩ := Option.map_eq_some_iff.1 hread
  exact ⟨content, hcontent, readJson_eq label path content⟩

/-- Every setting of a valid user configuration is taken from its section. -/
theorem takes_of_globalConfig {g : GlobalConfig} (hg : GlobalConfig.coercion v = .ok g) :
    ∀ s ∈ settings, s.Takes ((sectionOf (some (.ok v))).get? (.text s.name))
      (s.of g.generation) := by
  cases v with
  | object es =>
    have hresult : (GlobalConfig.read es).result = .ok g := hg
    rw [Reading.result_eq] at hresult
    split at hresult
    · rename_i hfaults
      obtain ⟨hfaults, -⟩ := List.append_eq_nil_iff.1 hfaults
      have hvalue : g.generation =
          (Reading.field es "generation" {} GenerationConfig.coercion).value := by
        cases hresult
        rfl
      have hsection : sectionOf (some (.ok (.object es))) =
          ((Entries.get es "generation").entries?).getD [] := rfl
      rw [hvalue, hsection, Entries.get]
      cases hget : Entries.get? es (.text "generation") with
      | none =>
        rw [Reading.field_of_none hget]
        exact takes_default
      | some w =>
        cases hread : GenerationConfig.coercion w with
        | error fs =>
          have hne := Coercion.reasoned_record _ w fs hread
          exact absurd hfaults (Reading.faults_field_of_error hget hread hne)
        | ok c =>
          rw [Reading.field_of_ok hget hread]
          cases w with
          | object sub => exact result_read_ok_iff.1 hread
          | _ => cases hread
    · cases hresult
  | _ => cases hg

/-- The user configuration is not read, is not valid, or every setting is taken from its section. -/
theorem user_cases (h : Host) :
    (∃ e, content? h h.userConfigPath = some (.error e) ∧
        user h = .error (unreadable "global config" h.userConfigPath e)) ∨
      (∃ v, content? h h.userConfigPath = some (.ok v) ∧
        (∀ g, GlobalConfig.coercion v ≠ .ok g) ∧ ∃ e, user h = .error (.config e)) ∨
      ∃ g, user h = .ok g ∧ AcceptsUser h ∧ ∀ s ∈ settings,
        s.Takes ((sectionOf (content? h h.userConfigPath)).get? (.text s.name))
          (s.of g.generation) := by
  cases hread : content? h h.userConfigPath with
  | none =>
    have huser : user h = .ok {} := by
      rw [user, Option.map_eq_none_iff.1 hread]
    refine .inr (.inr ⟨_, huser, ?_, ?_⟩)
    · intro r hr
      rw [hread] at hr
      cases hr
    · exact takes_default
  | some r =>
    obtain ⟨text, htext, hjson⟩ := exists_of_content? "global config" hread
    have huser : user h = readJson "global config" h.userConfigPath text >>= fun v =>
        (GlobalConfig.coercion v).mapError fun faults =>
          .config (.invalidUserConfig h.userConfigPath faults) := by
      rw [user, htext]
    rw [hjson] at huser
    cases r with
    | error e => exact .inl ⟨e, rfl, huser⟩
    | ok v =>
      change user h = (GlobalConfig.coercion v).mapError _ at huser
      cases hg : GlobalConfig.coercion v with
      | error faults =>
        rw [hg] at huser
        refine .inr (.inl ⟨v, rfl, fun g hok => ?_, _, huser⟩)
        rw [hg] at hok
        cases hok
      | ok g =>
        rw [hg] at huser
        refine .inr (.inr ⟨g, huser, fun r hr => ?_, takes_of_globalConfig hg⟩)
        rw [hread] at hr
        cases hr
        exact ⟨v, g, rfl, hg⟩

/-! ## The project configuration -/

/-- The section on generation of the project configuration. -/
def projectSection (h : Host) : Checked Entries := project? h >>= generationSection

/-- There is no project configuration, or it is an object whose section is one. -/
def AcceptsProject (h : Host) : Prop :=
  ∀ r, content? h Host.projectConfigPath = some r → ∃ es : Entries, r = .ok (.object es) ∧
    ∀ v, es.get? (.text "generation") = some v → ∃ sub, v = .object sub

/-- Without a project configuration there is nothing to read. -/
theorem projectSection_of_none (hread : content? h Host.projectConfigPath = none) :
    projectSection h = .ok [] := by
  rw [projectSection, project?, Option.map_eq_none_iff.1 hread]
  rfl

/-- One that is no JSON is refused with the reason. -/
theorem projectSection_of_error (hread : content? h Host.projectConfigPath = some (.error e)) :
    projectSection h = .error (unreadable "project config" Host.projectConfigPath e) := by
  obtain ⟨text, htext, hjson⟩ := exists_of_content? "project config" hread
  rw [projectSection, project?, htext]
  dsimp only
  rw [hjson]
  rfl

/-- One that is no object is refused. -/
theorem projectSection_of_not_object (hread : content? h Host.projectConfigPath = some (.ok v))
    (hv : v.entries? = none) :
    projectSection h = .error (.config (.projectNotObject Host.projectConfigPath)) := by
  obtain ⟨text, htext, hjson⟩ := exists_of_content? "project config" hread
  rw [projectSection, project?, htext]
  dsimp only
  rw [hjson]
  cases v with
  | object es => cases hv
  | _ => rfl

/-- Any other one is searched for a section. -/
theorem projectSection_of_object
    (hread : content? h Host.projectConfigPath = some (.ok (.object es))) :
    projectSection h = generationSection (some es) := by
  obtain ⟨text, htext, hjson⟩ := exists_of_content? "project config" hread
  rw [projectSection, project?, htext]
  dsimp only
  rw [hjson]
  rfl

theorem generationSection_of_none (hget : es.get? (.text "generation") = none) :
    generationSection (some es) = .ok [] := by
  rw [generationSection, Option.bind_some, hget]

theorem generationSection_of_object {sub : Entries}
    (hget : es.get? (.text "generation") = some (.object sub)) :
    generationSection (some es) = .ok sub := by
  rw [generationSection, Option.bind_some, hget]

/-- A section that is no object is refused. -/
theorem generationSection_of_not_object (hget : es.get? (.text "generation") = some v)
    (hv : v.entries? = none) :
    generationSection (some es) = .error (.config .sectionNotObject) := by
  rw [generationSection, Option.bind_some, hget]
  cases v with
  | object sub => cases hv
  | _ => rfl

theorem sectionOf_object (es : Entries) : sectionOf (some (.ok (.object es))) =
    (((es.get? (.text "generation")).getD .null).entries?).getD [] := rfl

/-- No object of a configuration file has a key twice. -/
theorem hasDistinctKeys_of_parsed {content : Content} (h : parsed content = .ok v) :
    v.HasDistinctKeys := by
  cases content with
  | text text => exact Json.hasDistinctKeys_of_read h
  | bytes fault => cases h

/-- No setting is stated twice in a section. -/
theorem distinctKeys_sectionOf (hread : content? h path = some (.ok (.object es)))
    {sub : Entries} (hsub : es.get? (.text "generation") = some (.object sub)) :
    sub.DistinctKeys := by
  obtain ⟨content, -, hparsed⟩ := Option.map_eq_some_iff.1 hread
  have hkeys := hasDistinctKeys_of_parsed hparsed
  obtain ⟨entry, hentry, hvalue⟩ := Option.map_eq_some_iff.1 hsub
  have hmem := List.mem_of_find?_eq_some hentry
  have hpart := (Value.hasDistinctKeys_object_iff.1 hkeys).2 entry hmem
  rw [hvalue] at hpart
  exact (Value.hasDistinctKeys_object_iff.1 hpart).1

/-- A project configuration is accepted when it is an object and its section, if there is one, is
too. -/
theorem acceptsProject_of_object
    (hread : content? h Host.projectConfigPath = some (.ok (.object es)))
    (hsub : ∀ v, es.get? (.text "generation") = some v → ∃ sub, v = .object sub) :
    AcceptsProject h := by
  intro r hr
  rw [hread] at hr
  cases hr
  exact ⟨es, rfl, hsub⟩

/-- The project configuration is not read, is no object, has a section that is none, or is accepted
with its section. -/
theorem project_cases (h : Host) :
    (∃ e, content? h Host.projectConfigPath = some (.error e) ∧
        projectSection h = .error (unreadable "project config" Host.projectConfigPath e)) ∨
      (∃ v, content? h Host.projectConfigPath = some (.ok v) ∧ v.entries? = none ∧
        ∃ e, projectSection h = .error (.config e)) ∨
      (∃ (es : Entries) (v : Value),
        content? h Host.projectConfigPath = some (.ok (.object es)) ∧
        es.get? (.text "generation") = some v ∧ v.entries? = none ∧
        ∃ e, projectSection h = .error (.config e)) ∨
      AcceptsProject h ∧ (sectionOf (content? h Host.projectConfigPath)).DistinctKeys ∧
        projectSection h = .ok (sectionOf (content? h Host.projectConfigPath)) := by
  cases hread : content? h Host.projectConfigPath with
  | none =>
    refine .inr (.inr (.inr ⟨fun r hr => ?_, Entries.distinctKeys_nil, ?_⟩))
    · rw [hread] at hr
      cases hr
    · exact projectSection_of_none hread
  | some r =>
    cases r with
    | error e => exact .inl ⟨e, rfl, projectSection_of_error hread⟩
    | ok v =>
      cases hv : v.entries? with
      | none => exact .inr (.inl ⟨v, rfl, hv, _, projectSection_of_not_object hread hv⟩)
      | some es =>
        obtain rfl : v = .object es := Schema.entries?_eq_some_iff.1 hv
        rw [projectSection_of_object hread, sectionOf_object]
        cases hget : es.get? (.text "generation") with
        | none =>
          have haccepts : AcceptsProject h := by
            refine acceptsProject_of_object hread fun v hv => ?_
            rw [hget] at hv
            cases hv
          exact .inr (.inr (.inr ⟨haccepts, Entries.distinctKeys_nil,
            generationSection_of_none hget⟩))
        | some v =>
          cases hv : v.entries? with
          | none =>
            exact .inr (.inr (.inl ⟨es, v, rfl, hget, hv, _,
              generationSection_of_not_object hget hv⟩))
          | some sub =>
            obtain rfl : v = .object sub := Schema.entries?_eq_some_iff.1 hv
            have haccepts : AcceptsProject h := by
              refine acceptsProject_of_object hread fun v hv => ?_
              rw [hget] at hv
              cases hv
              exact ⟨sub, rfl⟩
            exact .inr (.inr (.inr ⟨haccepts, distinctKeys_sectionOf hread hget,
              generationSection_of_object hget⟩))

/-! ## Flags and environment -/

theorem get?_entryOf (name key : String) (v : Value) :
    (entryOf name v).get? (.text key) = if name = key then stated? v else none := by
  cases v with
  | null =>
    split <;> rfl
  | _ =>
    unfold entryOf stated?
    rw [Entries.get?_cons, Key.same_text]
    simp only [decide_eq_true_eq]
    rfl

/-- The entries for the two settings that the command line and the environment can give. -/
def giving (qaMode backend : Value) : Entries :=
  entryOf "qa_mode" qaMode ++ entryOf "backend" backend

theorem get?_giving (qaMode backend : Value) (name : String) :
    (giving qaMode backend).get? (.text name) =
      if name = "qa_mode" then stated? qaMode
      else if name = "backend" then stated? backend
      else none := by
  rw [giving, Entries.get?_append, get?_entryOf, get?_entryOf]
  by_cases hqa : name = "qa_mode"
  · subst hqa
    simp
  · rw [if_neg (Ne.symm hqa), if_neg hqa, Option.none_or]
    simp only [eq_comm]

theorem distinctKeys_giving (qaMode backend : Value) : (giving qaMode backend).DistinctKeys := by
  have hentry (name : String) (v : Value) : Entries.keys (entryOf name v) = [] ∨
      Entries.keys (entryOf name v) = [.text name] := by
    cases v with
    | null => exact .inl rfl
    | _ => exact .inr rfl
  rw [Entries.DistinctKeys, giving, Entries.keys_append]
  rcases hentry "qa_mode" qaMode with hqa | hqa <;>
    rcases hentry "backend" backend with hbackend | hbackend <;>
    rw [hqa, hbackend] <;> decide

/-- The flags give what is given on the command line. -/
theorem get?_flags (h : Host) (flags : GenerationFlags) (name : String) :
    flags.entries.get? (.text name) = given? h flags name .flags :=
  get?_giving flags.qaMode flags.backend name

theorem stated?_optText (t : Option String) : stated? (.optText t) = t.map .text := by
  cases t <;> rfl

/-- What the environment gives, once its variable on hidden nodes is read. -/
theorem envEntries_of_ok {qa : Option Bool} (hqa : envFlag h qaVariable = .ok qa)
    (hword : stated? ((qa.map Value.bool).getD .null) = given? h flags "qa_mode" .environment) :
    ∃ es, envEntries h = .ok es ∧ es.DistinctKeys ∧
      ∀ name, es.get? (.text name) = given? h flags name .environment := by
  refine ⟨giving ((qa.map Value.bool).getD .null) (.optText (h.telling? backendVariable)),
    ?_, distinctKeys_giving _ _, fun name => ?_⟩
  · rw [envEntries, hqa]
    rfl
  · rw [get?_giving, hword, stated?_optText]
    by_cases hname : name = "qa_mode"
    · rw [if_pos hname, hname]
    · rw [if_neg hname]
      exact (if_neg hname).symm

/-- The variable on hidden nodes holds no truth value, or the environment gives its settings. -/
theorem environment_cases (h : Host) (flags : GenerationFlags) :
    (∃ raw, h.env? qaVariable = some raw ∧ wordOf raw ∉ trueWords ++ falseWords ∧
        ∃ e, envEntries h = .error (.config e)) ∨
      (∀ raw, h.env? qaVariable = some raw → wordOf raw ∈ trueWords ++ falseWords) ∧
        ∃ es, envEntries h = .ok es ∧ es.DistinctKeys ∧
          ∀ name, es.get? (.text name) = given? h flags name .environment := by
  cases hraw : h.env? qaVariable with
  | none =>
    have hflag : envFlag h qaVariable = .ok none := by
      rw [envFlag, hraw]
    refine .inr ⟨nofun, envEntries_of_ok hflag ?_⟩
    rw [given?, if_pos rfl, hraw]
    rfl
  | some raw =>
    have hflag : envFlag h qaVariable =
        if wordOf raw ∈ trueWords then .ok (some true)
        else if wordOf raw ∈ falseWords then .ok (some false)
        else .error (.config (.notBoolean qaVariable raw)) := by
      rw [envFlag, hraw]
      rfl
    have hgiven : given? h flags "qa_mode" .environment =
        some (.bool (wordOf raw ∈ trueWords)) := by
      rw [given?, if_pos rfl, hraw]
      rfl
    by_cases htrue : wordOf raw ∈ trueWords
    · rw [if_pos htrue] at hflag
      refine .inr ⟨?_, envEntries_of_ok hflag ?_⟩
      · rintro _ ⟨⟩
        exact List.mem_append_left _ htrue
      · rw [hgiven, decide_eq_true htrue]
        rfl
    · rw [if_neg htrue] at hflag
      by_cases hfalse : wordOf raw ∈ falseWords
      · rw [if_pos hfalse] at hflag
        refine .inr ⟨?_, envEntries_of_ok hflag ?_⟩
        · rintro _ ⟨⟩
          exact List.mem_append_right _ hfalse
        · rw [hgiven, decide_eq_false htrue]
          rfl
      · rw [if_neg hfalse] at hflag
        refine .inl ⟨raw, rfl, ?_, .notBoolean qaVariable raw, ?_⟩
        · rw [List.mem_append, not_or]
          exact ⟨htrue, hfalse⟩
        · rw [envEntries, hflag]
          rfl

end Config

end SdkModel
