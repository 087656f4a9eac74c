import ResticPal.Runtime.Ipc
/-!
# What an edit changes

The five editing requests patch the local and the effective configuration side
by side. `Edits` says what a request does to each of the 18 fields, and
`Edited` what an accepted request has established; everything about locks and
layers is a statement about a field of it.
-/

open Lib

namespace ResticPal

/-- What an edit does to a field: how its local and its effective value change, or nothing. -/
abbrev Edits := (f : PolicyField) → Option (Option f.Value × f.Value → Option f.Value × f.Value)

/-- Set a field the request gives a value for. -/
def assign {α : Type} (value : Option α) : Option (Option α × α → Option α × α) :=
  value.map fun value _ => (some value, value)

/-- Set a name or URL, or clear it when the text is blank. -/
def assign_text (text : Option String) :
    Option (Option (Option String) × Option String → Option (Option String) × Option String) :=
  text.map fun text _ => ((nonempty_trimmed text).map some, nonempty_trimmed text)

/-- Enter the stored references and drop the removed ones, in both layers. -/
def assign_secrets (secret_updates : List RepositorySecretUpdate) (references : List String) :
    Option (Option SecretRefs × SecretRefs → Option SecretRefs × SecretRefs) :=
  if secret_updates.isEmpty then none
  else some fun refs =>
    (some (edit_refs (refs.1.getD ∅) secret_updates references), edit_refs refs.2 secret_updates references)

def settings_edits (automatic_install : Bool) : Edits
  | .UpdateAutomaticInstall => assign (some automatic_install)
  | _ => none

def retention_edits (daily weekly monthly yearly prune_interval_days : Option UInt32) : Edits
  | .RetentionDaily => assign daily
  | .RetentionWeekly => assign weekly
  | .RetentionMonthly => assign monthly
  | .RetentionYearly => assign yearly
  | .RetentionPruneIntervalDays => assign prune_interval_days
  | _ => none

def schedule_edits (interval_hours : Option UInt32) (wake_grace_seconds wake_lock_timeout_seconds : Option UInt64)
    (allow_on_battery allow_metered_network : Option Bool) : Edits
  | .ScheduleIntervalHours => assign interval_hours
  | .ScheduleWakeGraceSeconds => assign wake_grace_seconds
  | .ScheduleWakeLockTimeoutSeconds => assign wake_lock_timeout_seconds
  | .ScheduleAllowOnBattery => assign allow_on_battery
  | .ScheduleAllowMeteredNetwork => assign allow_metered_network
  | _ => none

def sources_edits (ext : External) (paths : Option (List PathBuf)) (exclusions : Option (List String)) : Edits
  | .BackupPaths => assign (paths.map (deduplicate_paths ext.to_lowercase))
  | .BackupExclusions => assign (exclusions.map deduplicate_exclusions)
  | _ => none

def repository_edits (display_name url : Option String) (mode : Option RepositoryMode) (options : Option Options)
    (secret_updates : List RepositorySecretUpdate) (references : List String) : Edits
  | .RepositoryDisplayName => assign_text display_name
  | .RepositoryUrl => assign_text url
  | .RepositoryMode => assign mode
  | .RepositoryOptions => assign options
  | .RepositorySecretRefs => assign_secrets secret_updates references
  | _ => none

/-- The edits of a request, given the references its secrets are stored under. -/
def RequestCommand.edits (ext : External) (references : List String) : RequestCommand → Edits
  | .UpdateUpdateSettings automatic_install => settings_edits automatic_install
  | .UpdateRetention daily weekly monthly yearly prune_interval_days =>
    retention_edits daily weekly monthly yearly prune_interval_days
  | .UpdateSchedule interval_hours wake_grace_seconds wake_lock_timeout_seconds allow_on_battery
      allow_metered_network => schedule_edits interval_hours wake_grace_seconds wake_lock_timeout_seconds
        allow_on_battery allow_metered_network
  | .UpdateBackupSources paths exclusions => sources_edits ext paths exclusions
  | .UpdateRepository display_name url mode options secret_updates =>
    repository_edits display_name url mode options secret_updates references
  | _ => fun _ => none

/-- The credential changes of a request. -/
def RequestCommand.secret_updates : RequestCommand → List RepositorySecretUpdate
  | .UpdateRepository _ _ _ _ secret_updates => secret_updates
  | _ => []

/-- A candidate made from the runtime's two layers by edits to fields that are not locked. -/
structure Edited (runtime : ServiceRuntime) (edits : Edits) (candidate : Candidate) : Prop where
  fields : ∀ f, (candidate.loc.get f, candidate.effective.get f) =
    (edits f).getD id (runtime.local_config.get f, runtime.config.get f)
  schema_version : candidate.loc.schema_version = runtime.local_config.schema_version
  management : candidate.loc.management = runtime.local_config.management
  valid : runtime.config.validate = .ok () → candidate.effective.validate = .ok ()
  unlocked : ∀ f, (edits f).isSome → runtime.field_locked f = false
  unenrolled : (edits .RepositorySecretRefs).isSome → runtime.local_config.management.enrolled = false

section Inversion

variable {runtime : ServiceRuntime} {candidate : Candidate} {elevated : Bool} {now : DateTime}

theorem edits_locked_false {α : Type} {value : Option α} {f : PolicyField}
    (h : runtime.edits_locked value f = false) (hs : value.isSome) : runtime.field_locked f = false := by
  simpa [ServiceRuntime.edits_locked, hs] using h

theorem assign_isSome {α : Type} {value : Option α} (h : (assign value).isSome) : value.isSome := by
  simpa [assign] using h

theorem check_edit_eq_ok {u : Unit} : check_edit runtime elevated now = .ok u ↔
    elevated = true ∧ runtime.state.update_pending now = false := by
  simp [check_edit]

theorem check_retention_edit_edited {daily weekly monthly yearly prune_interval_days : Option UInt32}
    (h : check_retention_edit runtime daily weekly monthly yearly prune_interval_days elevated now = .ok candidate) :
    Edited runtime (retention_edits daily weekly monthly yearly prune_interval_days) candidate ∧
      (elevated = true ∧ runtime.state.update_pending now = false) ∧ runtime.state.running = false := by
  simp only [check_retention_edit, check_bind_eq_ok, rejectIf_eq_ok, mapError_eq_ok, pure_eq_ok,
    Bool.or_eq_false_iff] at h
  obtain ⟨hc, -, -, ⟨⟨⟨⟨hd, hw⟩, hm⟩, hy⟩, hp⟩, hv, hr, -, rfl⟩ := h
  refine ⟨⟨fun f => ?_, rfl, rfl, fun _ => hv, fun f hf => ?_, fun hs => by cases hs⟩, check_edit_eq_ok.1 hc, hr⟩
  · cases f with
    | RetentionDaily => cases daily <;> rfl
    | RetentionWeekly => cases weekly <;> rfl
    | RetentionMonthly => cases monthly <;> rfl
    | RetentionYearly => cases yearly <;> rfl
    | RetentionPruneIntervalDays => cases prune_interval_days <;> rfl
    | _ => rfl
  · cases f with
    | RetentionDaily => exact edits_locked_false hd (assign_isSome hf)
    | RetentionWeekly => exact edits_locked_false hw (assign_isSome hf)
    | RetentionMonthly => exact edits_locked_false hm (assign_isSome hf)
    | RetentionYearly => exact edits_locked_false hy (assign_isSome hf)
    | RetentionPruneIntervalDays => exact edits_locked_false hp (assign_isSome hf)
    | _ => cases hf

theorem check_schedule_edit_edited {interval_hours : Option UInt32}
    {wake_grace_seconds wake_lock_timeout_seconds : Option UInt64} {allow_on_battery allow_metered_network : Option Bool}
    (h : check_schedule_edit runtime interval_hours wake_grace_seconds wake_lock_timeout_seconds allow_on_battery
      allow_metered_network elevated now = .ok candidate) :
    Edited runtime (schedule_edits interval_hours wake_grace_seconds wake_lock_timeout_seconds allow_on_battery
        allow_metered_network) candidate ∧
      (elevated = true ∧ runtime.state.update_pending now = false) ∧ runtime.state.running = false := by
  simp only [check_schedule_edit, check_bind_eq_ok, rejectIf_eq_ok, mapError_eq_ok, pure_eq_ok,
    Bool.or_eq_false_iff] at h
  obtain ⟨hc, -, ⟨⟨⟨⟨hi, hg⟩, hl⟩, hb⟩, hm⟩, hv, hr, -, rfl⟩ := h
  refine ⟨⟨fun f => ?_, rfl, rfl, fun _ => hv, fun f hf => ?_, fun hs => by cases hs⟩, check_edit_eq_ok.1 hc, hr⟩
  · cases f with
    | ScheduleIntervalHours => cases interval_hours <;> rfl
    | ScheduleWakeGraceSeconds => cases wake_grace_seconds <;> rfl
    | ScheduleWakeLockTimeoutSeconds => cases wake_lock_timeout_seconds <;> rfl
    | ScheduleAllowOnBattery => cases allow_on_battery <;> rfl
    | ScheduleAllowMeteredNetwork => cases allow_metered_network <;> rfl
    | _ => rfl
  · cases f with
    | ScheduleIntervalHours => exact edits_locked_false hi (assign_isSome hf)
    | ScheduleWakeGraceSeconds => exact edits_locked_false hg (assign_isSome hf)
    | ScheduleWakeLockTimeoutSeconds => exact edits_locked_false hl (assign_isSome hf)
    | ScheduleAllowOnBattery => exact edits_locked_false hb (assign_isSome hf)
    | ScheduleAllowMeteredNetwork => exact edits_locked_false hm (assign_isSome hf)
    | _ => cases hf

theorem check_sources_edit_edited {ext : External} {paths : Option (List PathBuf)} {exclusions : Option (List String)}
    {io : RequestIo} (h : check_sources_edit runtime ext paths exclusions elevated io = .ok candidate) :
    Edited runtime (sources_edits ext paths exclusions) candidate ∧
      (elevated = true ∧ runtime.state.update_pending io.now = false) ∧ runtime.state.running = false := by
  simp only [check_sources_edit, check_bind_eq_ok, rejectIf_eq_ok, mapError_eq_ok, pure_eq_ok,
    Bool.or_eq_false_iff] at h
  obtain ⟨hc, -, ⟨hp, he⟩, -, hv, hr, rfl⟩ := h
  refine ⟨⟨fun f => ?_, rfl, rfl, fun _ => hv, fun f hf => ?_, fun hs => by cases hs⟩, check_edit_eq_ok.1 hc, hr⟩
  · cases f with
    | BackupPaths => cases paths <;> rfl
    | BackupExclusions => cases exclusions <;> rfl
    | _ => rfl
  · cases f with
    | BackupPaths => exact edits_locked_false hp (by simpa using assign_isSome hf)
    | BackupExclusions => exact edits_locked_false he (by simpa using assign_isSome hf)
    | _ => cases hf

theorem settings_edited (hl : runtime.field_locked .UpdateAutomaticInstall = false) (automatic_install : Bool) :
    Edited runtime (settings_edits automatic_install)
      ⟨{ runtime.local_config with updates := { automatic_install := some automatic_install } },
        { runtime.config with updates := { automatic_install } }⟩ := by
  refine ⟨fun f => by cases f <;> rfl, rfl, rfl, fun hv => hv, fun f hf => ?_, nofun⟩
  cases f with
  | UpdateAutomaticInstall => exact hl
  | _ => cases hf

theorem assign_text_isSome {text : Option String} (h : (assign_text text).isSome) : text.isSome := by
  simpa [assign_text] using h

theorem assign_text_getD (text loc effective : Option String) :
    (((text.map nonempty_trimmed).getD loc).map some, (text.map nonempty_trimmed).getD effective) =
      (assign_text text).getD id (loc.map some, effective) := by
  cases text <;> simp [assign_text]

theorem assign_secrets_of_isEmpty {secret_updates : List RepositorySecretUpdate} (h : secret_updates.isEmpty)
    (references : List String) : assign_secrets secret_updates references = none := if_pos h

theorem assign_secrets_isSome {secret_updates : List RepositorySecretUpdate} {references : List String}
    (h : (assign_secrets secret_updates references).isSome) : secret_updates.isEmpty = false := by
  cases he : secret_updates.isEmpty with
  | false => rfl
  | true => simp [assign_secrets_of_isEmpty he] at h

theorem repository_secrets_locked_eq_false : runtime.repository_secrets_locked = false ↔
    runtime.field_locked .RepositorySecretRefs = false ∧ runtime.local_config.management.enrolled = false :=
  Bool.or_eq_false_iff

variable {display_name url : Option String} {mode : Option RepositoryMode} {options : Option Options}
  {secret_updates : List RepositorySecretUpdate}

theorem check_repository_edit_guards
    (h : check_repository_edit runtime display_name url mode options secret_updates elevated now = .ok candidate) :
    (elevated = true ∧ runtime.state.update_pending now = false) ∧ runtime.state.running = false ∧
      runtime.state.repository_operation.isRunning = false := by
  simp only [check_repository_edit, check_bind_eq_ok, rejectIf_eq_ok] at h
  exact ⟨check_edit_eq_ok.1 h.1, h.2.2.2.2.2.2.2.1, h.2.2.2.2.2.2.2.2.1⟩

theorem check_repository_edit_edited
    (h : check_repository_edit runtime display_name url mode options secret_updates elevated now = .ok candidate)
    (references : List String) (hv : (edit_secrets candidate secret_updates references).effective.validate = .ok ()) :
    Edited runtime (repository_edits display_name url mode options secret_updates references)
      (edit_secrets candidate secret_updates references) := by
  simp only [check_repository_edit, check_bind_eq_ok, rejectIf_eq_ok, mapError_eq_ok, pure_eq_ok,
    Bool.or_eq_false_iff] at h
  obtain ⟨-, -, ⟨⟨⟨⟨hd, hu⟩, hm⟩, ho⟩, hs⟩, -, -, -, -, -, -, rfl⟩ := h
  have hsecrets : (assign_secrets secret_updates references).isSome → runtime.repository_secrets_locked = false := by
    intro hf
    simpa [assign_secrets_isSome hf] using hs
  refine ⟨fun f => ?_, ?_, ?_, fun _ => hv, fun f hf => ?_,
    fun hf => (repository_secrets_locked_eq_false.1 (hsecrets hf)).2⟩
  · cases f with
    | RepositoryDisplayName => unfold edit_secrets; split <;> exact assign_text_getD display_name _ _
    | RepositoryUrl => unfold edit_secrets; split <;> exact assign_text_getD url _ _
    | RepositoryMode => unfold edit_secrets; split <;> cases mode <;> rfl
    | RepositoryOptions => unfold edit_secrets; split <;> cases options <;> rfl
    | RepositorySecretRefs =>
      simp only [repository_edits, assign_secrets, edit_secrets]
      split <;> rfl
    | _ => unfold edit_secrets; split <;> rfl
  · unfold edit_secrets
    split <;> rfl
  · unfold edit_secrets
    split <;> rfl
  · cases f with
    | RepositoryDisplayName => exact edits_locked_false hd (assign_text_isSome hf)
    | RepositoryUrl => exact edits_locked_false hu (assign_text_isSome hf)
    | RepositoryMode => exact edits_locked_false hm (assign_isSome hf)
    | RepositoryOptions => exact edits_locked_false ho (assign_isSome hf)
    | RepositorySecretRefs => exact (repository_secrets_locked_eq_false.1 (hsecrets hf)).1
    | _ => cases hf

end Inversion

end ResticPal
