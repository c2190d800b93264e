import SdkModel.Proofs.Config.Sources

/-!
# Precedence of settings

A setting of generation is what the first source that has it says: the command line, the
environment, the project configuration, the user configuration. Reading ends in an error of the
configuration when a file is refused or of the wrong shape, when the variable on hidden nodes holds
no truth value, or when the value that a setting is taken from does not fit it. A file that nests
too deep for the reader comes before all that and is no such error
(`Config.generation_precedence`).
-/

namespace SdkModel

namespace Config

variable {h : Host} {flags : GenerationFlags} {e : Json.SyntaxError} {path : String}

/-! ## Merging -/

/-- A setting is taken from the first source that gives it: flags, environment, project, user. -/
theorem selected?_eq (h : Host) (flags : GenerationFlags) (name : String) :
    selected? h flags name = ((given? h flags name .flags).or
      ((given? h flags name .environment).or (given? h flags name .project))).or
        (given? h flags name .user) := by
  unfold selected? sources
  simp only [List.findSome?_cons, List.findSome?_nil]
  cases given? h flags name .flags <;> cases given? h flags name .environment <;>
    cases given? h flags name .project <;> cases given? h flags name .user <;> rfl

namespace Setting

variable {s : Setting} {v? x? : Option Value} {a b : s.α}

/-- What a setting took from a source may stand in for the source. -/
theorem takes_or_write_iff (hs : s ∈ settings) (hb : s.Takes v? b) :
    s.Takes (x?.or (some (s.write b))) a ↔ s.Takes (x?.or v?) a := by
  cases x? with
  | some v => rfl
  | none =>
    have hwrite : s.Takes (some (s.write b)) b := read_write hs hb
    constructor
    · intro ha
      rwa [ha.unique hwrite]
    · intro ha
      rwa [ha.unique hb]

/-- A value that a setting takes can be written in its place. -/
theorem refuses_or_write_iff (hs : s ∈ settings) (hb : s.Takes v? b) :
    s.Refuses (x?.or (some (s.write b))) ↔ s.Refuses (x?.or v?) := by
  cases x? with
  | some v => rfl
  | none =>
    have hwrite : s.Takes (some (s.write b)) b := read_write hs hb
    exact iff_of_false hwrite.not_refuses hb.not_refuses

end Setting

/-- The entries of all sources, a later source over the earlier ones. -/
def merged (flags : GenerationFlags) (user : GenerationConfig) (project environment : Entries) :
    Entries :=
  [project, environment, flags.entries].foldl Entries.overlay user.toEntries

/-- The merged entries answer in the order of the sources, with what was taken from the user
configuration in its place. -/
theorem get?_merged {project environment : Entries} (flags : GenerationFlags)
    (user : GenerationConfig) (hproject : project.DistinctKeys)
    (henvironment : environment.DistinctKeys) {s : Setting} (hs : s ∈ settings) :
    (merged flags user project environment).get? (.text s.name) =
      ((flags.entries.get? (.text s.name)).or ((environment.get? (.text s.name)).or
        (project.get? (.text s.name)))).or (some (s.write (s.of user))) := by
  have hflags : flags.entries.DistinctKeys := distinctKeys_giving _ _
  simp only [merged, List.foldl_cons, List.foldl_nil,
    Entries.get?_overlay_of_distinctKeys hflags,
    Entries.get?_overlay_of_distinctKeys henvironment,
    Entries.get?_overlay_of_distinctKeys hproject, get?_toEntries user s hs, Option.or_assoc]

/-- The merged entries are read as the configuration that takes every setting from the first source,
and refused where a setting refuses what that source gives it. -/
theorem merged_cases {environment : Entries} {user : GenerationConfig}
    (hproject : (sectionOf (content? h Host.projectConfigPath)).DistinctKeys)
    (henvironment : environment.DistinctKeys)
    (hgiven : ∀ name, environment.get? (.text name) = given? h flags name .environment)
    (huser : ∀ s ∈ settings, s.Takes (given? h flags s.name .user) (s.of user)) :
    let entries := merged flags user (sectionOf (content? h Host.projectConfigPath)) environment
    (∃ c, (GenerationConfig.read entries).result = .ok c ∧ TakesFirst h flags c) ∨
      (∃ fs, (GenerationConfig.read entries).result = .error fs) ∧
        ∃ s ∈ settings, s.Refuses (selected? h flags s.name) := by
  intro entries
  have hget {s : Setting} (hs : s ∈ settings) : entries.get? (.text s.name) =
      ((given? h flags s.name .flags).or ((given? h flags s.name .environment).or
        (given? h flags s.name .project))).or (some (s.write (s.of user))) := by
    have hmerged := get?_merged flags user hproject henvironment hs
    rwa [get?_flags h, hgiven] at hmerged
  cases hresult : (GenerationConfig.read entries).result with
  | ok c =>
    refine .inl ⟨c, rfl, fun s hs => ?_⟩
    have htakes := result_read_ok_iff.1 hresult s hs
    rw [hget hs, Setting.takes_or_write_iff hs (huser s hs), ← selected?_eq] at htakes
    exact htakes
  | error fs =>
    obtain ⟨s, hs, hrefuses⟩ := result_read_error_iff.1 ⟨fs, hresult⟩
    rw [hget hs, Setting.refuses_or_write_iff hs (huser s hs), ← selected?_eq] at hrefuses
    exact .inr ⟨⟨fs, rfl⟩, s, hs, hrefuses⟩

/-! ## Faults of the sources -/

theorem not_tooDeep_of_ok {v : Value} (hread : content? h path = some (.ok v)) :
    ¬ TooDeep h path := by
  rintro ⟨e, he, -⟩
  rw [hread] at he
  cases he

theorem not_tooDeep_of_error (hread : content? h path = some (.error e))
    (hlimit : e.limit? ≠ some .nesting) : ¬ TooDeep h path := by
  rintro ⟨_, he, hdeep⟩
  rw [hread] at he
  cases he
  exact hlimit hdeep

/-- Nothing overflows where the user configuration is accepted and the project configuration is not
too deep. -/
theorem AcceptsUser.not_overflows (haccepts : AcceptsUser h)
    (hproject : ¬ TooDeep h Host.projectConfigPath) : ¬ Overflows h := by
  rintro (⟨e, he, -⟩ | ⟨-, hdeep⟩)
  · obtain ⟨v, g, hr, -⟩ := haccepts _ he
    cases hr
  · exact hproject hdeep

/-- The project configuration is not reached behind a user configuration that is refused. -/
theorem not_overflows_of_refused (hrefused : ¬ AcceptsUser h)
    (huser : ¬ TooDeep h h.userConfigPath) : ¬ Overflows h := by
  rintro (hdeep | ⟨haccepts, -⟩)
  · exact huser hdeep
  · exact hrefused haccepts

theorem AcceptsProject.not_tooDeep (haccepts : AcceptsProject h) :
    ¬ TooDeep h Host.projectConfigPath := by
  rintro ⟨e, he, -⟩
  obtain ⟨es, hr, -⟩ := haccepts _ he
  cases hr

theorem not_rejects (huser : AcceptsUser h) (hproject : AcceptsProject h)
    (hword : ∀ raw, h.env? qaVariable = some raw → wordOf raw ∈ trueWords ++ falseWords)
    (hsettings : ∀ s ∈ settings, ¬ s.Refuses (selected? h flags s.name)) : ¬ Rejects h flags := by
  intro hrejects
  cases hrejects with
  | unreadable hpath hread =>
    rcases hpath with rfl | rfl
    · obtain ⟨v, g, hr, -⟩ := huser _ hread
      cases hr
    · obtain ⟨es, hr, -⟩ := hproject _ hread
      cases hr
  | invalidUser hread hfaulty =>
    obtain ⟨v, g, hr, hg⟩ := huser _ hread
    cases hr
    exact hfaulty g hg
  | projectNotObject hread hother =>
    obtain ⟨es, hr, -⟩ := hproject _ hread
    cases hr
    cases hother
  | sectionNotObject hread hv hother =>
    obtain ⟨es, hr, hsub⟩ := hproject _ hread
    cases hr
    obtain ⟨sub, rfl⟩ := hsub _ hv
    cases hother
  | notBoolean hset hnone => exact hnone (hword _ hset)
  | refused hs hrefuses => exact hsettings _ hs hrefuses

/-! ## Stages -/

/-- What reading comes to: a file nests too deep, the sources are rejected, or every setting is
taken from the first source that gives it. -/
inductive Ends (h : Host) (flags : GenerationFlags) (x : Checked GenerationConfig) : Prop
  | overflow (hdeep : Overflows h) (hend : x = .error (.malformed (.limit .nesting))) :
      Ends h flags x
  | rejected {e : ConfigError} (hrejects : Rejects h flags) (hnot : ¬ Overflows h)
      (hend : x = .error (.config e)) : Ends h flags x
  | taken {c : GenerationConfig} (hvalid : ¬ Rejects h flags) (hnot : ¬ Overflows h)
      (hend : x = .ok c) (hfirst : TakesFirst h flags c) : Ends h flags x

/-- A file that cannot be read is too deep, or the sources are rejected for it. -/
theorem ends_of_unreadable {label : String} (hread : content? h path = some (.error e))
    (hpath : path = h.userConfigPath ∨ path = Host.projectConfigPath)
    (hdeep : TooDeep h path → Overflows h) (hnot : ¬ TooDeep h path → ¬ Overflows h) :
    Ends h flags (.error (unreadable label path e)) := by
  unfold unreadable
  by_cases hlimit : e.limit? = some .nesting
  · rw [if_pos hlimit]
    exact .overflow (hdeep ⟨e, hread, hlimit⟩) rfl
  · rw [if_neg hlimit]
    exact .rejected (.unreadable hpath hread) (hnot (not_tooDeep_of_error hread hlimit)) rfl

/-- The merged entries, read as the configuration. -/
def readMerged (entries : Entries) : Checked GenerationConfig :=
  (GenerationConfig.read entries).result.mapError fun faults =>
    .config (.invalidGeneration faults)

/-- The environment is read behind two configurations that are accepted. -/
theorem ends_of_project {user : GenerationConfig} (huser : AcceptsUser h)
    (htakes : ∀ s ∈ settings, s.Takes (given? h flags s.name .user) (s.of user))
    (hproject : AcceptsProject h)
    (hkeys : (sectionOf (content? h Host.projectConfigPath)).DistinctKeys) :
    Ends h flags (envEntries h >>= fun environment =>
      readMerged (merged flags user (sectionOf (content? h Host.projectConfigPath))
        environment)) := by
  have hnot := huser.not_overflows hproject.not_tooDeep
  rcases environment_cases h flags with ⟨raw, hset, hword, e, henv⟩ |
      ⟨hword, environment, henv, hdistinct, hgiven⟩
  · rw [henv]
    exact .rejected (.notBoolean hset hword) hnot rfl
  · rw [henv]
    change Ends h flags (readMerged _)
    unfold readMerged
    rcases merged_cases hkeys hdistinct hgiven htakes with ⟨c, hresult, hfirst⟩ |
        ⟨⟨fs, hresult⟩, s, hs, hrefuses⟩
    · rw [hresult]
      have hvalid := not_rejects huser hproject hword fun s hs => (hfirst s hs).not_refuses
      exact .taken hvalid hnot rfl hfirst
    · rw [hresult]
      exact .rejected (.refused hs hrefuses) hnot rfl

/-- The project configuration is read behind a user configuration that is accepted. -/
theorem ends_of_user {user : GenerationConfig} (huser : AcceptsUser h)
    (htakes : ∀ s ∈ settings, s.Takes (given? h flags s.name .user) (s.of user)) :
    Ends h flags (projectSection h >>= fun project => envEntries h >>= fun environment =>
      readMerged (merged flags user project environment)) := by
  rcases project_cases h with ⟨e, hread, hproject⟩ | ⟨v, hread, hother, e, hproject⟩ |
      ⟨es, v, hread, hv, hother, e, hproject⟩ | ⟨haccepts, hkeys, hproject⟩
  · rw [hproject]
    exact ends_of_unreadable hread (.inr rfl) (.project huser) huser.not_overflows
  · rw [hproject]
    have hnot := huser.not_overflows (not_tooDeep_of_ok hread)
    exact .rejected (.projectNotObject hread hother) hnot rfl
  · rw [hproject]
    have hnot := huser.not_overflows (not_tooDeep_of_ok hread)
    exact .rejected (.sectionNotObject hread hv hother) hnot rfl
  · rw [hproject]
    exact ends_of_project huser htakes haccepts hkeys

/-- The sources are read one after the other, and only then merged. -/
theorem generation_eq (h : Host) (flags : GenerationFlags) :
    generation h flags = user h >>= fun user => projectSection h >>= fun project =>
      envEntries h >>= fun environment =>
        readMerged (merged flags user.generation project environment) := by
  unfold generation projectSection
  cases user h with
  | error f => rfl
  | ok g => cases project? h <;> rfl

/-- Reading the configuration ends at one of the stages. -/
theorem ends_generation (h : Host) (flags : GenerationFlags) :
    Ends h flags (generation h flags) := by
  rw [generation_eq]
  rcases user_cases h with ⟨e, hread, huser⟩ | ⟨v, hread, hfaulty, e, huser⟩ |
      ⟨g, huser, haccepts, htakes⟩
  · have hrefused : ¬ AcceptsUser h := by
      intro haccepts
      obtain ⟨v, g, hr, -⟩ := haccepts _ hread
      cases hr
    rw [huser]
    exact ends_of_unreadable hread (.inl rfl) .user (not_overflows_of_refused hrefused)
  · have hrefused : ¬ AcceptsUser h := by
      intro haccepts
      obtain ⟨w, g, hr, hg⟩ := haccepts _ hread
      cases hr
      exact hfaulty g hg
    rw [huser]
    have hnot := not_overflows_of_refused hrefused (not_tooDeep_of_ok hread)
    exact .rejected (.invalidUser hread hfaulty) hnot rfl
  · rw [huser]
    exact ends_of_user haccepts htakes

/-! ## Results -/

/-- **Settings are taken from the first source that gives them.** Reading ends in an error of the
configuration just when something is wrong with the sources, unless a file comes first that nests
too deep. -/
theorem generation_precedence (h : Host) (flags : GenerationFlags) :
    (∀ c, generation h flags = .ok c → TakesFirst h flags c) ∧
      ((∃ c, generation h flags = .ok c) ↔ ¬ Rejects h flags ∧ ¬ Overflows h) ∧
      ((∃ e, generation h flags = .error (.config e)) ↔ Rejects h flags ∧ ¬ Overflows h) ∧
      (generation h flags = .error (.malformed (.limit .nesting)) ↔ Overflows h) := by
  cases ends_generation h flags with
  | overflow hdeep hend =>
    rw [hend]
    refine ⟨nofun, iff_of_false nofun fun hnot => hnot.2 hdeep, ?_, iff_of_true rfl hdeep⟩
    exact iff_of_false nofun fun hnot => hnot.2 hdeep
  | rejected hrejects hnot hend =>
    rw [hend]
    refine ⟨nofun, iff_of_false nofun fun hvalid => hvalid.1 hrejects, ?_, ?_⟩
    · exact iff_of_true ⟨_, rfl⟩ ⟨hrejects, hnot⟩
    · exact iff_of_false nofun hnot
  | taken hvalid hnot hend hfirst =>
    rw [hend]
    refine ⟨?_, iff_of_true ⟨_, rfl⟩ ⟨hvalid, hnot⟩, ?_, iff_of_false nofun hnot⟩
    · rintro _ ⟨⟩
      exact hfirst
    · exact iff_of_false nofun fun hrejects => hvalid hrejects.1

end Config

/-! ## Deep files -/

namespace Json

/-- A list ends where its first item does that cannot be read. -/
theorem value_list_of_error {room : Nat} {cs : List Char} {stop : Stop}
    (hne : ∀ r, skipBlanks cs ≠ ']' :: r) (h : value room (skipBlanks cs) = .error stop) :
    value (room + 1) ('[' :: cs) = .error stop := by
  have hitems : items room (skipBlanks cs) = .error stop := by
    rw [items, h]
    rfl
  rw [value]
  split
  · rename_i hs
    exact absurd hs (hne _)
  · rw [if_neg (Nat.succ_ne_zero room), Nat.add_sub_cancel, hitems]
    rfl

theorem skipBlanks_brackets (n : Nat) :
    skipBlanks (List.replicate n '[') = List.replicate n '[' := by
  cases n <;> rfl

/-- Opening brackets that are more than there is room for are too deep. -/
theorem value_brackets (room : Nat) : ∃ left,
    value room (skipBlanks (List.replicate (room + 1) '[')) =
      .error ⟨.limit .nesting 0, left⟩ := by
  induction room with
  | zero => exact ⟨1, by cbv⟩
  | succ room ih =>
    obtain ⟨left, hleft⟩ := ih
    refine ⟨left, ?_⟩
    rw [skipBlanks_brackets (room + 2)]
    refine value_list_of_error (fun r hr => ?_) hleft
    rw [skipBlanks_brackets] at hr
    cases hr

/-- One bracket more than the deepest nesting is refused for it. -/
theorem readChars_brackets : ∃ left,
    readChars (List.replicate (deepest + 1) '[') = .error ⟨.limit .nesting 0, left⟩ := by
  obtain ⟨left, hleft⟩ := value_brackets deepest
  refine ⟨left, ?_⟩
  unfold readChars
  split
  · rename_i h
    rw [List.replicate_succ] at h
    cases h
  · rw [hleft]
    rfl

end Json

namespace Config

/-- Opening brackets alone, more than the reader follows. -/
def deepText : String := String.ofList (List.replicate (Json.deepest + 1) '[')

/-- A host whose only file is the user configuration. -/
def hostOf (text : String) : Host := { files := Files.write [] ({} : Host).userConfigPath text }

theorem read?_hostOf (text : String) :
    (hostOf text).files.read? (hostOf text).userConfigPath = some (.text text) := by
  have hpath : (hostOf text).userConfigPath = ({} : Host).userConfigPath := rfl
  rw [hpath, hostOf, Files.write, Files.read?]
  exact List.lookup_cons_self

theorem unifyLineEnds_brackets (n : Nat) :
    Text.unifyLineEnds (List.replicate n '[') = List.replicate n '[' := by
  induction n with
  | zero => rfl
  | succ n ih => exact congrArg ('[' :: ·) ih

theorem tooDeep_deepText : TooDeep (hostOf deepText) (hostOf deepText).userConfigPath := by
  obtain ⟨left, hleft⟩ := Json.readChars_brackets
  refine ⟨Json.Stop.locate (List.replicate (Json.deepest + 1) '[') ⟨.limit .nesting 0, left⟩,
    ?_, rfl⟩
  rw [content?, read?_hostOf, Option.map_some, parsed, deepText, String.toList_ofList,
    unifyLineEnds_brackets, Json.read, String.toList_ofList, hleft, Except.mapError]

/-- A user configuration of opening brackets is no JSON, and yet no error of the configuration. -/
theorem not_forall_rejects :
    ¬ ∀ (h : Host) (flags : GenerationFlags),
      (∃ e, generation h flags = .error (.config e)) ↔ Rejects h flags := by
  intro h
  obtain ⟨e, hread, -⟩ := tooDeep_deepText
  obtain ⟨e', hconfig⟩ := (h (hostOf deepText) {}).2 (.unreadable (.inl rfl) hread)
  have hoverflows : Overflows (hostOf deepText) := .user tooDeep_deepText
  cases ends_generation (hostOf deepText) {} with
  | overflow _ hend =>
    rw [hend] at hconfig
    cases hconfig
  | rejected _ hnot => exact hnot hoverflows
  | taken _ hnot => exact hnot hoverflows

end Config

end SdkModel
